import PluginHost.Host
import PluginHost.Proofs.Callables
/-!
What is left of a call in which a host function failed. A panic and an error of the function's own
fail that call and nothing else. A failure of a plugin that the function passes on is judged by its
kind alone, as if the plugin that was called had failed in that way itself.
-/
namespace PluginHost
variable {g : Guest} {H α : Type}

def Purpose.allocators : Purpose → Nat
  | .supplying => 1
  | .exporting => 0
  | .releasing => 0

namespace Stage

/-- In a call that begins here, given its body, guest code runs there, with so many steps left: on a
way of its own from where the host entered guest code for some purpose, while so many runs of the
allocator are open. -/
inductive Reaches (s : Stage g H) (name : String) (body : Task g H α) (purpose : Purpose)
    (depth left : Nat) (code : g.Code) (u : Stage g H) : Prop
  | running {function nested : Nat} {args : List Value} {s₀ : Stage g H}
      (enters : s.Enters name body purpose function args s₀)
      (deep : depth = purpose.allocators + nested)
      (comes : Comes nested g.stepLimit (g.enter s₀.module 0 function args) s₀ left code u)

/-- In a call that begins here, given its body, a host function fails in the given stage: in guest
code that the host runs for some purpose, while so many runs of the allocator are open. -/
inductive Meets (s : Stage g H) (name : String) (body : Task g H α) (purpose : Purpose)
    (depth : Nat) (f : HostFunction H) (thrown : Thrown) (s₁ : Stage g H) : Prop
  | running {function nested : Nat} {args : List Value} {s₀ : Stage g H}
      (enters : s.Enters name body purpose function args s₀)
      (deep : depth = purpose.allocators + nested)
      (invokes : Invokes nested g.stepLimit (g.enter s₀.module 0 function args) s₀ f thrown s₁)

/-- How a call that failed in one stage ends in another. Nothing is undone: cleanup finds the guest,
the imported functions, the variables and what host functions remember as they were, runs the
deallocator for all that the allocator gave, the latest first, and does no more. -/
structure WindsUp (s₁ : Stage g H) (name : String) (r : Except Failure α) (s₂ : Stage g H) :
    Prop where
  returned : Deeds.returned s₂.record = (Deeds.given s₁.record).reverse
  cleanup : ∃ m : Stage g H, m.guest = s₁.guest ∧ m.providers = s₁.providers ∧
    m.store.vars = s₁.store.vars ∧ m.world.memory = s₁.world.memory ∧
    (s₂ =
      let (cleanup, s') := (Stage.releasing s₁.store.bridge name
        (Deeds.given s₁.record).reverse : Action g H _) m
      s'.ended name r cleanup) ∧
    ∃ attempts s', attempts.map Prod.fst = (Deeds.given s₁.record).reverse ∧
      m.GivesBack name attempts s' ∧ s₂ = s'.ended name r (keptFor attempts).head?

/-- Where the host's run of guest code ends with a failure that the host raised, so does the body of
the call; the allocator for the input reads it once more. -/
theorem Enters.body_eq {s s₀ m : Stage g H} {name : String} {body : Task g H α} {purpose : Purpose}
    {function depth : Nat} {args : List Value} {e e₀ : Failure}
    (h : s.Enters name body purpose function args s₀) (hp : purpose ≠ .releasing)
    (he : (enter function args : Action g H Ending) s₀ = (.error (.raised e), m))
    (hs : m.store.Emerges e₀ depth e) :
    ∃ e', body.run (s.begun name) = (.error e', m) ∧
      m.store.Emerges e₀ (purpose.allocators + depth) e' := by
  cases h with
  | supplying b function input nonempty short =>
    refine ⟨m.misread input.length e, ?_, ?_⟩
    · rw [run_exchange, placeForCall_stopped nonempty short he]
    · rw [Purpose.allocators, Nat.add_comm]
      exact emerges_misread hs input.length
  | exporting b function input block s₁ bridge supplied =>
    refine ⟨e, ?_, ?_⟩
    · rw [run_exchange, supplied]
      simp only [he, packed, Store.classify]
    · rwa [Purpose.allocators, Nat.zero_add]
  | exportingValues function args =>
    refine ⟨e, ?_, ?_⟩
    · rw [run_exchangeValues, he]
      rfl
    · rwa [Purpose.allocators, Nat.zero_add]
  | releasing => exact absurd rfl hp

theorem Accepts.calling {s : Stage g H} {name : String} {t body : Task g H α}
    (h : s.Accepts name t body) : Calling name t := by
  cases h with
  | octets function b input => exact call_calling name input
  | values function signature args => exact callValues_calling name args

section Meets
variable {s s₁ u m : Stage g H} {name : String} {t body : Task g H α} {purpose : Purpose}
  {depth left : Nat} {code : g.Code} {e : Failure} {f : HostFunction H} {thrown : Thrown}

/-- Where guest code is ended before cleanup, so is the body of the call. -/
theorem Reaches.body_eq (h : s.Reaches name body purpose depth left code u)
    (hp : purpose ≠ .releasing) (he : execute left code u = (.error (.raised e), m)) :
    ∃ e' ds, body.run (s.begun name) = (.error e', m) ∧ (s.begun name).Ran ds m ∧
      m.store.Emerges e depth e' := by
  obtain ⟨enters, rfl, comes⟩ := h
  rename_i function nested args s₀
  obtain ⟨e₁, hx, hs⟩ := comes.execute_eq he
  obtain ⟨e', hbody, hs'⟩ := enters.body_eq hp hx hs
  obtain ⟨ds, hr⟩ := enters.ran hp
  obtain ⟨ds', hr', -⟩ := (enter_ticks function args s₀).ran
  rw [show (enter function args : Action g H Ending) s₀ = _ from hx] at hr'
  exact ⟨e', _, hbody, hr.trans hr', hs'⟩

theorem Meets.reaches (h : s.Meets name body purpose depth f thrown s₁) :
    ∃ left code u m, s.Reaches name body purpose depth left code u ∧
      execute left code u = (.error (.raised (thrown.toFailure f.name)), m) ∧ s₁.Beside m := by
  obtain ⟨enters, deep, invokes⟩ := h
  obtain ⟨left, code, u, m, comes, hx, hb⟩ := invokes.ended
  exact ⟨left, code, u, m, .running enters deep comes, hx, hb⟩

theorem Meets.body_eq (h : s.Meets name body purpose depth f thrown s₁)
    (hp : purpose ≠ .releasing) :
    ∃ e m ds, body.run (s.begun name) = (.error e, m) ∧ s₁.Beside m ∧ (s.begun name).Ran ds m ∧
      s₁.store.Emerges (thrown.toFailure f.name) depth e := by
  obtain ⟨left, code, u, m, hu, hx, hb⟩ := h.reaches
  obtain ⟨e, ds, hbody, hr, hs⟩ := hu.body_eq hp hx
  rw [hb.store_eq] at hs
  exact ⟨e, m, ds, hbody, hb, hr, hs⟩

theorem leaving_same (s : Stage g H) (r : Except Failure α) :
    (s.leaving r).guest = s.guest ∧ (s.leaving r).providers = s.providers ∧
      (s.leaving r).store.vars = s.store.vars ∧
      (s.leaving r).world.memory = s.world.memory := by
  cases r <;> exact ⟨rfl, rfl, rfl, rfl⟩

theorem surface_error_eq_iff (name : String) (message : Option String) (e : Failure) :
    surface name message (.error e : Except Failure α) = .error e ↔
      (e.kind = .trap → message = none) := by
  cases message with
  | none => exact iff_of_true rfl fun _ => rfl
  | some m => cases e <;> simp [surface, Failure.kind]

/-- A message never stands in for a failure that closes a plugin, and closes none itself. -/
theorem surface_error_fatal_iff (name : String) (message : Option String) (e : Failure) :
    (∃ e', surface name message (.error e : Except Failure α) = .error e' ∧
        (e'.kind = .timeout ∨ e'.kind = .closed)) ↔
      e.kind = .timeout ∨ e.kind = .closed := by
  cases message with
  | none => simp [surface]
  | some m => cases e <;> simp [surface, Failure.kind]

theorem getLast?_messages_eq_none_iff (ds : List Deed) :
    (Deeds.messages ds).getLast? = none ↔ Deeds.reports ds = [] := by
  rw [List.getLast?_eq_none_iff, Deeds.messages, List.map_eq_nil_iff]

theorem answer_surface_error (name : String) (message : Option String) (e : Failure)
    (cleanup : Option Failure) :
    answer (surface name message (.error e : Except Failure α)) cleanup =
      surface name message (.error e) := by
  cases message with
  | none => rfl
  | some m => cases e <;> rfl

theorem Meets.run_eq (h : s.Meets name body purpose depth f thrown s₁)
    (ha : s.Accepts name t body) (hd : s.deeds = []) (hp : purpose ≠ .releasing) :
    ∃ e, s₁.store.Emerges (thrown.toFailure f.name) depth e ∧
      (t.run s).1 = surface name (Deeds.messages s₁.record).getLast? (.error e) ∧
      s₁.WindsUp name (t.run s).1 (t.run s).2 := by
  obtain ⟨e, m, ds, hbody, hb, hr, hs⟩ := h.body_eq hp
  have hds : m.record = ds := hr.did.record_of_begun hd
  have hm : m.store.guestError = (Deeds.messages s₁.record).getLast? := by
    rw [hr.message, ← hds, Deeds.messages, hb.reports]
    exact Option.or_none ..
  have ht : m.tracked = (Deeds.given s₁.record).reverse := by
    rw [hr.tracked, ← hds, hb.given]
    exact List.append_nil _
  have hbridge : s.store.bridge = s₁.store.bridge := by
    rw [← hb.store_eq, hr.bridge_eq]
    rfl
  obtain ⟨A, adopted, attempts, s₂, -, hblocks, hgives, hrun⟩ := ha.gives_back hbody
  obtain ⟨C, hrel, -⟩ := hgives.recorded
  have hdid : m.Did C (t.run s).2 := by
    rw [hrun]
    exact hrel.did_of_leaving name
  have hleft := ha.run_leaving hbody
  rw [hm, ht, hbridge] at hleft
  -- Cleanup has no say in the answer, since the call has failed before.
  have hanswer : (t.run s).1 =
      surface name (Deeds.messages s₁.record).getLast? (.error e) := by
    rw [hleft]
    exact answer_surface_error ..
  obtain ⟨hguest, hproviders, hvars, hmemory⟩ := leaving_same m (t.run s).1
  refine ⟨e, hs, hanswer, ?_, m.leaving (t.run s).1, ?_, ?_, ?_, ?_, ?_, attempts, s₂,
    hblocks.trans ht, ?_, ?_⟩
  · rw [hdid.record_eq, hds, Deeds.returned_append, hr.returned, hrel.returned, hblocks, ht]
    rfl
  · exact hguest.trans (congrArg Instance.guest hb.toInstance)
  · exact hproviders.trans (congrArg Instance.providers hb.toInstance)
  · exact hvars.trans (congrArg Store.vars hb.store_eq)
  · exact hmemory.trans hb.memory
  · rw [hanswer, hleft]
    dsimp only
    rcases (releasing s₁.store.bridge name (Deeds.given s₁.record).reverse : Action g H _)
      (m.leaving _) with ⟨cleanup, s'⟩
    rfl
  · rw [hanswer, ← hm]
    exact hgives
  · rw [hanswer, ← hm]
    exact congrArg Prod.snd hrun

/-- What is on record stays on record. -/
theorem recorded_lasting (d : Deed) :
    Lasting (fun s : Stage g H => d ∈ s.deeds) fun _ s => d ∈ s.deeds := by
  refine lasting_of_ticks (fun s s' ht hs => ?_) (fun s s' ha hs => ?_) fun _ _ hs => hs
  · obtain ⟨ds, hr, -⟩ := ht.ran
    rw [hr.did]
    exact List.mem_append_right _ hs
  · obtain ⟨ds, hd⟩ := ha.did
    rw [hd]
    exact List.mem_append_right _ hs

theorem releaseAll_append_snd (b : Bridge) (name : String) (before after : List Block)
    (s : Stage g H) :
    (releaseAll b name (before ++ after) s).2 =
      (releaseAll b name after (before.foldl (fun u c => u.released b name c) s)).2 := by
  induction before generalizing s with
  | nil => rfl
  | cons block before ih =>
    rw [List.cons_append, releaseAll_snd]
    exact ih _

theorem released_of_raised {b : Bridge} {block : Block} (hn : block.isEmpty = false)
    (name : String) {s m : Stage g H} {e : Failure}
    (he : (enter b.dealloc [.i32 block.ptr, .i32 block.len] : Action g H Ending)
      (s.note (.returned block)) = (.error (.raised e), m)) :
    s.released b name block = (m.note (.kept block e)).log (.releaseFailed name block e) := by
  unfold released
  rw [Buffer.run_release enter b hn, he]
  rfl

theorem Enters.kept {s₀ m : Stage g H} {function : Nat} {args : List Value} {e : Failure}
    (h : s.Enters name body .releasing function args s₀) (ha : s.Accepts name t body)
    (he : (enter function args : Action g H Ending) s₀ = (.error (.raised e), m)) :
    e ∈ Deeds.failures (t.run s).2.record := by
  cases h with
  | releasing _ r m₁ b before after block ran bridge tracked nonempty =>
    have hl := recorded_lasting (g := g) (H := H) (.kept block e)
    have hrun := ha.run_leaving ran
    rw [bridge, tracked] at hrun
    let v := before.foldl (fun u c => u.released b name c)
      (m₁.leaving (surface name m₁.store.guestError r))
    have hb : (v.released b name block).store.bridge = some b := by
      obtain ⟨A, adopted, hw⟩ := ha.worked
      rw [ran] at hw
      have hv := (released_steady b name block v).trans (foldl_released_steady b name before _)
      exact (bridge_of_steady hv).trans ((hw.leaving_bridge _).trans bridge)
    have hk : Deed.kept block e ∈ (releaseAll b name (before ++ block :: after)
        (m₁.leaving (surface name m₁.store.guestError r))).2.deeds := by
      rw [releaseAll_append_snd, releaseAll_snd]
      refine (hl.carried name).releaseAll hb after ?_
      rw [released_of_raised nonempty name he]
      exact List.mem_cons_self
    have hd : Deed.kept block e ∈ (t.run s).2.deeds := by
      rw [hrun]
      exact hl.apart _ _ (Discreet.ended _ name _ _).toApart hk
    exact List.mem_filterMap.mpr ⟨_, List.mem_reverse.mpr hd, rfl⟩

theorem Reaches.kept (h : s.Reaches name body .releasing depth left code u)
    (ha : s.Accepts name t body) (he : execute left code u = (.error (.raised e), m)) :
    ∃ e', m.store.Emerges e depth e' ∧ e' ∈ Deeds.failures (t.run s).2.record := by
  obtain ⟨enters, rfl, comes⟩ := h
  obtain ⟨e', hx, hs⟩ := comes.execute_eq he
  rw [Purpose.allocators, Nat.zero_add]
  exact ⟨e', hs, enters.kept ha hx⟩

/-- A host function that fails in cleanup fails the deallocator. -/
theorem Meets.kept (h : s.Meets name body .releasing depth f thrown s₁)
    (ha : s.Accepts name t body) :
    ∃ e, s₁.store.Emerges (thrown.toFailure f.name) depth e ∧
      e ∈ Deeds.failures (t.run s).2.record := by
  obtain ⟨left, code, u, m, hu, hx, hb⟩ := h.reaches
  obtain ⟨e, hs, hk⟩ := hu.kept ha hx
  rw [hb.store_eq] at hs
  exact ⟨e, hs, hk⟩

end Meets

end Stage

def Instance.TakesCallsOf (j i : Instance g H) : Prop :=
  ∀ ⦃β : Type⦄ (name : String) (t body : Task g H β) (w : World H),
    Stage.Accepts ⟨j, w, []⟩ name t body ↔ Stage.Accepts ⟨i, w, []⟩ name t body

theorem Instance.Ready.accepts {i j : Instance g H} {m : g.Module} {settings : Settings}
    (hi : i.Ready m settings) (hj : j.Ready m settings) {β : Type} {name : String}
    {t body : Task g H β} {w : World H} (h : Stage.Accepts ⟨i, w, []⟩ name t body) :
    Stage.Accepts ⟨j, w, []⟩ name t body := by
  have hm : i.module = j.module := hi.module.trans hj.module.symm
  have hb : i.store.bridge = j.store.bridge := Except.ok.inj (hi.bridge.symm.trans hj.bridge)
  cases h with
  | octets function b input idle found bridge =>
    exact .octets function b input hj.idle (hm ▸ found) (hb ▸ bridge)
  | values function signature args idle found typed =>
    exact .values function signature args hj.idle (hm ▸ found) typed

namespace Plugin
open Stage

theorem shared_memory (name : String) (r : Except Failure α) (s : Stage g H) :
    (shared name r s).memory = s.world.memory := by
  unfold shared
  split
  · rfl
  · split
    · rfl
    · split <;> rfl

section Ended
variable {p q : Plugin g H} {i : Instance g H} {w w' : World H} {name : String}
  {t body : Task g H α} {r : Except Failure α} {f : HostFunction H} {s₁ : Stage g H}

/-- An open plugin goes on with what the call left, and takes the same calls as before. -/
theorem live_after_call (hp : p.Opened) (hi : p.live = some i) (ht : Calling name t)
    (ran : (calling name t).run (p, w) = (r, (q, w'))) {j : Instance g H}
    (hj : q.live = some j) : j = (t.run ⟨i, w, []⟩).2.toInstance ∧ j.TakesCallsOf i := by
  have hq : ((calling name t).run (p, w)).2.1.live = some j := by rw [ran, hj]
  have hr : j.Ready p.module p.settings := by
    have h := calling_ready hp.ready ht w j hq
    obtain ⟨hm, hs⟩ := Prod.mk.inj (calling_origin name t p w)
    rwa [hm, hs] at h
  have hs := hp.ready i hi
  exact ⟨(live_of_calling hi hq).1.symm,
    fun _ _ _ _ _ => ⟨fun h => hr.accepts hs h, fun h => hs.accepts hr h⟩⟩

theorem closed_after_call_iff (hp : p.Opened) (hi : p.live = some i) (ht : Calling name t)
    (ran : (calling name t).run (p, w) = (r, (q, w'))) :
    q.isClosed = true ↔
      (∃ e, (t.run ⟨i, w, []⟩).1 = .error e ∧ (e.kind = .timeout ∨ e.kind = .closed)) ∨
        Deeds.failures (t.run ⟨i, w, []⟩).2.record ≠ [] := by
  have h := calling_closed_iff hi (hp.ready i hi).sound ht w
  rw [(run_calling name t hi w (Prod.eta _).symm).1, ran] at h
  rw [isClosed, Option.isNone_iff_eq_none]
  exact h

/-- A host function that panics in the midst of the export of a call, or fails with an error of its
own, fails the call in its own name, whatever messages the guest left and whatever growth was
refused before. It fails nothing else. Cleanup goes on from what function and guest left and offers
back all that was given; the registry stays as it is; and unless the deallocator fails, the plugin
stays open and takes the calls that it took before. -/
theorem callable_failure_fails_only_its_call (hp : p.Opened) (hi : p.live = some i)
    (ha : Accepts ⟨i, w, []⟩ name t body) {thrown : Thrown} {text : String}
    (h : Meets ⟨i, w, []⟩ name body .exporting 0 f thrown s₁) (ht : thrown.text? = some text)
    (ran : (calling name t).run (p, w) = (r, (q, w'))) :
    r = .error (.hostFunction f.name text) ∧
      (q.isClosed = true ↔ Deeds.failures (t.run ⟨i, w, []⟩).2.record ≠ []) ∧
      s₁.WindsUp name r (t.run ⟨i, w, []⟩).2 ∧
      w'.memory = (t.run ⟨i, w, []⟩).2.world.memory ∧
      (∀ registry holders, (Host.onPlugin p (calling name t)).run ⟨registry, w, holders⟩ =
        ((r, q), ⟨registry, w', holders⟩)) ∧
      q.origin = p.origin ∧
      ∀ j, q.live = some j → j = (t.run ⟨i, w, []⟩).2.toInstance ∧ j.TakesCallsOf i := by
  obtain ⟨e, he, hanswer, hwinds⟩ := h.run_eq ha rfl (by decide)
  obtain rfl := he.eq_of_granted (.inl rfl)
  rw [Thrown.toFailure_eq_of_text ht] at hanswer
  have hsurface : surface name (Deeds.messages s₁.record).getLast?
      (.error (.hostFunction f.name text) : Except Failure α) =
        .error (.hostFunction f.name text) := (surface_error_eq_iff ..).mpr nofun
  rw [hsurface] at hanswer
  have hr : r = (t.run ⟨i, w, []⟩).1 := by
    have hc := (run_calling name t hi w (Prod.eta _).symm).1
    rwa [ran] at hc
  have hclosed := closed_after_call_iff hp hi ha.calling ran
  rw [hanswer] at hclosed
  have hworld : w' = shared name (t.run ⟨i, w, []⟩).1 (t.run ⟨i, w, []⟩).2 := by
    have hc := run_calling_open name t hi w (Prod.eta _).symm
    rw [ran] at hc
    exact congrArg (fun x => x.2.2) hc
  refine ⟨hr.trans hanswer, ?_, hr ▸ hwinds, ?_, ?_, ?_, ?_⟩
  · simpa [Failure.kind] using hclosed
  · rw [hworld, shared_memory]
  · intro registry holders
    have ho : (Host.onPlugin p (calling name t)).run ⟨registry, w, holders⟩ =
        ((((calling name t).run (p, w)).1, ((calling name t).run (p, w)).2.1),
          ⟨registry, ((calling name t).run (p, w)).2.2, holders⟩) := rfl
    rw [ho, ran]
  · have ho := calling_origin name t p w
    rwa [ran] at ho
  · exact fun j hj => live_after_call hp hi ha.calling ran hj

end Ended

end Plugin

/-! A guest whose export calls the one function that it imports. -/
namespace Errand

inductive Act where
  | ask
  | give (results : List Value)

def guest : Guest where
  Module := Unit
  State := Unit
  Code := Act
  load := fun _ => .error (.invalidBinary "errands have no binary form")
  imports := fun _ => [⟨Name.defaultNamespace, "f", .function ⟨[], []⟩⟩]
  exports := fun _ =>
    [⟨Name.memory, .memory 0 ⟨1, none⟩⟩, ⟨Name.alloc, .function 0 Opening.allocType⟩,
      ⟨Name.dealloc, .function 1 Opening.deallocType⟩, ⟨"run", .function 2 .bytes⟩]
  start := fun _ => ((), .give [])
  enter := fun _ _ function _ =>
    match function with
    | 0 => .give [.i32 8]
    | 1 => .give []
    | _ => .ask
  step := fun _ code s =>
    match code with
    | .ask => .call 0 [] .guest 0 (.give [.i64 0]) s
    | .give results => .finished results s
  resume := fun _ code => code
  answer := fun _ code => code
  sizes := fun _ => [pageSize]
  read := fun _ _ _ length => List.replicate length 0
  write := fun s _ _ _ => s
  stepLimit := 100

def function (body : Program Unit (List Value)) : HostFunction Unit :=
  .ofValues "f" ⟨[], []⟩ fun _ => body

def made (body : Program Unit (List Value)) : Instance guest Unit where
  module := ()
  providers := #[.function (function body)]
  guest := ()
  store := { Store.ofSettings {} with bridge := some ⟨0, 0, 1⟩ }

def plugin (body : Program Unit (List Value)) : Plugin guest Unit := ⟨(), {}, some (made body)⟩

theorem opened (body : Program Unit (List Value)) : (plugin body).Opened :=
  .opened ⟨[function body]⟩ () {} Script.world _ (made body) rfl

theorem accepts (body : Program Unit (List Value)) :
    Stage.Accepts ⟨made body, Script.world, []⟩ "run" (Stage.call "run" [1])
      (Stage.exchange ⟨0, 0, 1⟩ "run" 2 [1]) :=
  .octets 2 ⟨0, 0, 1⟩ [1] rfl rfl rfl

def supplied (body : Program Unit (List Value)) : Stage guest Unit :=
  ((Stage.begun ⟨made body, Script.world, []⟩ "run").note (.asked 1)).placed ⟨0, 0, 1⟩ ⟨8, 1⟩ [1]

def asked (body : Program Unit (List Value)) : Stage guest Unit :=
  ImportCall.invoked (function body) ((supplied body).entering 2 [.i32 8, .i32 1])

def done (body : Program Unit (List Value)) : Except Thrown (List Value) × Stage guest Unit :=
  body.exec (Stage.runner () 99 0) "f" (asked body)

theorem meets {body : Program Unit (List Value)} {thrown : Thrown}
    (failed : (done body).1 = .error thrown) :
    Stage.Meets ⟨made body, Script.world, []⟩ "run" (Stage.exchange ⟨0, 0, 1⟩ "run" 2 [1])
      .exporting 0 (function body) thrown (done body).2 :=
  .running (.exporting ⟨0, 0, 1⟩ 2 [1] ⟨8, 1⟩ (supplied body) rfl rfl) rfl
    (.calling .here rfl rfl (.values (fun _ => body) [] thrown _ rfl rfl (Prod.ext failed rfl)))

def careless : Program Unit (List Value) := do
  let _ ← Caller.write [1, 2]
  Program.fail (.other ["no answer", "line is dead"])

end Errand

namespace Plugin
open Stage Errand

theorem careless_errand_fails_alone :
    ((call "run" [1]).run (plugin careless, Script.world)).1 =
        .error (.hostFunction "f" "no answer: line is dead") ∧
      ((call "run" [1]).run (plugin careless, Script.world)).2.1.isClosed = false ∧
      Deeds.returned ((Stage.call "run" [1]).run ⟨made careless, Script.world, []⟩).2.record =
        [⟨8, 2⟩, ⟨8, 1⟩] := by
  have hf : (done careless).1 = .error (.error (.other ["no answer", "line is dead"])) := by
    unfold done
    rw [show careless = .write [1, 2] _ from rfl, Program.exec_write]
    rfl
  obtain ⟨hr, hc, hw, -⟩ := callable_failure_fails_only_its_call (opened careless) rfl
    (accepts careless) (meets hf) rfl rfl
  have hg : (Deeds.given (done careless).2.record).reverse = [⟨8, 2⟩, ⟨8, 1⟩] := by
    decide +kernel
  have hn : Deeds.failures ((Stage.call "run" [1]).run
      ⟨made careless, Script.world, []⟩).2.record = [] := by
    decide +kernel
  refine ⟨hr, ?_, hw.returned.trans hg⟩
  rw [Bool.eq_false_iff]
  exact fun h => hc.mp h hn

section Judged
variable {p q : Plugin g H} {i : Instance g H} {w w' : World H} {name : String}
  {t body : Task g H α} {r : Except Failure α} {purpose : Purpose} {depth : Nat}
  {f : HostFunction H} {s₁ : Stage g H}

/-- What becomes of a failure of a plugin, of any kind, that a host function got elsewhere and
passes on. Before cleanup it is the answer of the call unless it is a trap and the guest has left a
message, and it closes the plugin that was called if its kind is one that closes plugins. Two things
hide it: an allocator in which it was raised after growth had been refused, and cleanup, where it
counts as a failure of the deallocator. A plugin that stays open takes the calls that it took
before. -/
theorem passed_on_failure_judged_by_kind (hp : p.Opened) (hi : p.live = some i)
    (ha : Accepts ⟨i, w, []⟩ name t body) {context : List String} {e : Failure}
    (h : Meets ⟨i, w, []⟩ name body purpose depth f (.error (.failure context e)) s₁)
    (ran : (calling name t).run (p, w) = (r, (q, w'))) :
    (purpose ≠ .releasing → depth = 0 ∨ s₁.store.limit.denied = false →
      (r = .error e ↔ (e.kind = .trap → Deeds.reports s₁.record = [])) ∧
      (q.isClosed = true ↔ (e.kind = .timeout ∨ e.kind = .closed) ∨
        Deeds.failures (t.run ⟨i, w, []⟩).2.record ≠ [])) ∧
    (purpose ≠ .releasing → 0 < depth → s₁.store.limit.denied = true →
      (∃ requested, r = .error (.outOfMemory requested)) ∧
      (q.isClosed = true ↔ Deeds.failures (t.run ⟨i, w, []⟩).2.record ≠ [])) ∧
    (purpose = .releasing → q.isClosed = true ∧
      ∃ e', s₁.store.Emerges e depth e' ∧
        e' ∈ Deeds.failures (t.run ⟨i, w, []⟩).2.record) ∧
    ∀ j, q.live = some j → j.TakesCallsOf i := by
  have hr : r = (t.run ⟨i, w, []⟩).1 := by
    have hc := (run_calling name t hi w (Prod.eta _).symm).1
    rwa [ran] at hc
  have hclosed := closed_after_call_iff hp hi ha.calling ran
  refine ⟨fun hb hd => ?_, fun hb hd hn => ?_, fun hb => ?_, fun j hj =>
    (live_after_call hp hi ha.calling ran hj).2⟩
  · obtain ⟨e', he, hanswer, -⟩ := h.run_eq ha rfl hb
    obtain rfl := he.eq_of_granted hd
    rw [hanswer, surface_error_fatal_iff] at hclosed
    rw [hr, hanswer, surface_error_eq_iff, getLast?_messages_eq_none_iff]
    exact ⟨Iff.rfl, hclosed⟩
  · obtain ⟨e', he, hanswer, -⟩ := h.run_eq ha rfl hb
    obtain ⟨requested, rfl⟩ := he.eq_of_refused hd hn
    rw [hanswer, surface_error_fatal_iff] at hclosed
    rw [hr, hanswer]
    refine ⟨⟨requested, (surface_error_eq_iff ..).mpr nofun⟩, ?_⟩
    simpa [Failure.kind] using hclosed
  · subst hb
    obtain ⟨e', he, hk⟩ := h.kept ha
    exact ⟨hclosed.mpr (.inr (List.ne_nil_of_mem hk)), e', he, hk⟩

end Judged

/-- Lack of fuel somewhere else fails the call of the function that hears of it, and no more. -/
theorem borrowed_failure_keeps_open :
    ((call "run" [1]).run (plugin (Program.raise .fuelExhausted), Script.world)).1 =
        .error .fuelExhausted ∧
      ((call "run" [1]).run (plugin (Program.raise .fuelExhausted), Script.world)).2.1.isClosed =
        false := by
  have hf : (done (Program.raise .fuelExhausted)).1 =
      .error (.error (.failure [] .fuelExhausted)) := rfl
  obtain ⟨hr, hc⟩ := (passed_on_failure_judged_by_kind (opened _) rfl (accepts _) (meets hf)
    rfl).1 (by decide) (.inl rfl)
  have hn : Deeds.failures ((Stage.call "run" [1]).run
      ⟨made (Program.raise .fuelExhausted), Script.world, []⟩).2.record = [] := rfl
  refine ⟨hr.mpr nofun, ?_⟩
  rw [Bool.eq_false_iff]
  intro h
  rcases hc.mp h with (hk | hk) | hk
  · cases hk
  · cases hk
  · exact hk hn

/-- A timeout of another plugin closes the plugin whose function hears of it, although all its own
buffers are given back. -/
theorem borrowed_timeout_closes :
    Stage.Meets ⟨made (Program.raise (.timeout "other" 7)), Script.world, []⟩ "run"
        (exchange ⟨0, 0, 1⟩ "run" 2 [1]) .exporting 0
        (function (Program.raise (.timeout "other" 7)))
        (.error (.failure [] (.timeout "other" 7)))
        (done (Program.raise (.timeout "other" 7))).2 ∧
      ((call "run" [1]).run (plugin (Program.raise (.timeout "other" 7)), Script.world)).1 =
        .error (.timeout "other" 7) ∧
      ((call "run" [1]).run
        (plugin (Program.raise (.timeout "other" 7)), Script.world)).2.1.isClosed = true ∧
      Deeds.failures ((Stage.call "run" [1]).run
        ⟨made (Program.raise (.timeout "other" 7)), Script.world, []⟩).2.record = [] :=
  ⟨meets rfl, rfl, rfl, rfl⟩

end Plugin

end PluginHost
