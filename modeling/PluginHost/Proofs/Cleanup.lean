import PluginHost.Proofs.Calls
/-!
The end of a call. A body leaves the buffers that it was given and perhaps one that the export
returned; cleanup offers back each of them once, the latest first, and nothing else, whatever the
deallocator does on the way.
-/
namespace PluginHost
variable {g : Guest} {H α : Type}

namespace Stage

/-- What a body leaves: the buffers that were given while it ran, and on top of them perhaps the
buffer that the export returned, which is none of those. -/
structure Worked (s : Stage g H) (ds : List Deed) (adopted : Option Block) (s' : Stage g H) :
    Prop where
  did : s.Did ds s'
  returned : Deeds.returned ds = []
  failures : Deeds.failures ds = []
  tracked : s'.tracked = adopted.toList ++ (Deeds.given ds).reverse ++ s.tracked
  message : s'.store.guestError = (Deeds.messages ds).getLast?.or s.store.guestError
  given : ∀ b ∈ Deeds.given ds, b.isEmpty = false
  foreign : ∀ b ∈ adopted, b.isEmpty = false ∧ b ∉ Deeds.given ds
  steady : s'.steady = s.steady
  bridgeless : s.store.bridge = none → Deeds.given ds = [] ∧ adopted = none

theorem Ran.worked {s s' : Stage g H} {ds : List Deed} (h : s.Ran ds s') :
    s.Worked ds none s' where
  did := h.did
  returned := h.returned
  failures := h.failures
  tracked := h.tracked
  message := h.message
  given := h.nonempty
  foreign := nofun
  steady := h.steady
  bridgeless := fun hb => ⟨h.bridgeless hb, rfl⟩

theorem startsIn_self {b : Block} (h : b.isEmpty = false) : b.startsIn b = true := by
  simp only [Block.isEmpty, Bool.or_eq_false_iff, decide_eq_false_iff_not] at h
  have hl : b.len.toNat ≠ 0 := fun hn => h.2 (UInt32.toNat_inj.mp hn)
  simp only [Block.startsIn, Bool.and_eq_true, decide_eq_true_eq]
  omega

theorem owns_eq (s : Stage g H) (b : Block) : s.store.owns b = s.tracked.any b.startsIn := by
  unfold Store.owns tracked
  cases s.store.call <;> rfl

theorem guestError_track (t : Store) (b : Block) : (t.track b).guestError = t.guestError := by
  unfold Store.track
  split <;> rfl

/-- Taking over what an export returned adds to the buffers of the call at most one, which it did
not own. -/
theorem Ran.adopt {s s' : Stage g H} {ds : List Deed} (h : s.Ran ds s') (hc : s.store.call.isSome)
    (hs : s.store.bridge ≠ none) (out : Block) :
    ∃ adopted, s.Worked ds adopted (s'.updateStore fun t => adopt t out) := by
  by_cases ho : s'.store.owns out = true
  · refine ⟨none, ?_⟩
    have he : (s'.updateStore fun t => Stage.adopt t out) = s' := by
      simp only [updateStore, Stage.adopt, ho, if_true]
    rw [he]
    exact h.worked
  · have ha : (s'.updateStore fun t => Stage.adopt t out) =
        s'.updateStore fun t => t.track out := by
      simp only [updateStore, Stage.adopt, ho, Bool.false_eq_true, if_false]
    rw [ha]
    cases he : out.isEmpty with
    | true =>
      refine ⟨none, ?_⟩
      have hn : (s'.updateStore fun t => t.track out) = s' := by
        simp only [updateStore, Store.track, he, if_true]
      rw [hn]
      exact h.worked
    | false =>
      refine ⟨some out, ?_⟩
      have ht := tracked_track (h.call_isSome hc) he
      -- A buffer that the call was given is owned, which this one is not.
      have hg : out ∉ Deeds.given ds := by
        intro hg
        apply ho
        rw [owns_eq, h.tracked, List.any_eq_true]
        exact ⟨out, by simp [hg], startsIn_self he⟩
      exact {
        did := h.did
        returned := h.returned
        failures := h.failures
        tracked := by
          rw [ht, h.tracked]
          rfl
        message := (guestError_track s'.store out).trans h.message
        given := h.nonempty
        foreign := by
          intro b hb
          obtain rfl : out = b := by simpa using hb
          exact ⟨he, hg⟩
        steady := (steady_of_fixed (fixed_track s' out)).trans h.steady
        bridgeless := fun hb => absurd hb hs }

theorem entering_ran (s : Stage g H) (function : Nat) (args : List Value) :
    s.Ran [.entered function args] (s.entering function args) :=
  ((enterPhase_ran s .argsMarshaled).trans (enterPhase_ran _ .invoking)).trans
    (entered_ran _ function args)

theorem exchange_worked (b : Bridge) (name : String) (function : Nat) (input : Bytes)
    {s : Stage g H} (hb : s.store.bridge = some b) (hc : s.store.call.isSome) :
    ∃ ds adopted, s.Worked ds adopted ((exchange b name function input).run s).2 := by
  have hp : Ticks s ((Buffer.placeForCall enter b input).run s).2 :=
    Buffer.placeForCall_ticks enter_ticks hb hc input
  obtain ⟨ds, hr, -⟩ := hp.ran
  rw [run_exchange]
  rcases hp : (Buffer.placeForCall enter b input).run s with ⟨e | block, s₁⟩ <;> rw [hp] at hr
  · exact ⟨ds, none, hr.worked⟩
  dsimp only
  have ht := enter_ticks function [.i32 block.ptr, .i32 block.len]
    (s₁.entering function [.i32 block.ptr, .i32 block.len])
  obtain ⟨ds', hr', -⟩ := ht.ran
  have hw := (hr.trans (entering_ran s₁ function _)).trans hr'
  rcases he : (enter function [.i32 block.ptr, .i32 block.len] : Action g H Ending)
    (s₁.entering function [.i32 block.ptr, .i32 block.len]) with ⟨r, s₂⟩
  rw [he] at hw
  dsimp only
  cases packed r with
  | error h => exact ⟨_, none, hw.worked⟩
  | ok word =>
    dsimp only
    cases s₂.output b word with
    | error e => exact ⟨_, none, hw.worked⟩
    | ok v =>
      have hn : s.store.bridge ≠ none := by simp [hb]
      obtain ⟨adopted, ha⟩ := hw.adopt hc hn (Block.unpack word)
      exact ⟨_, adopted, ⟨ha.did, ha.returned, ha.failures, ha.tracked, ha.message, ha.given,
        ha.foreign, ha.steady, ha.bridgeless⟩⟩

theorem exchangeValues_worked (name : String) (function : Nat) (args : List Value)
    (s : Stage g H) :
    ∃ ds adopted, s.Worked ds adopted ((exchangeValues name function args).run s).2 := by
  obtain ⟨ds, hr, -⟩ := (enter_ticks function args (s.entering function args)).ran
  have hw := (entering_ran s function args).trans hr
  rw [run_exchangeValues]
  rcases he : (enter function args : Action g H Ending) (s.entering function args) with
    ⟨h | results, s₁⟩ <;> rw [he] at hw
  · exact ⟨_, none, hw.worked⟩
  · exact ⟨_, none, (hw.trans (enterPhase_ran s₁ .resultMarshaled)).worked⟩

/-- What the body of an accepted call leaves. -/
theorem Accepts.worked {s : Stage g H} {name : String} {t body : Task g H α}
    (h : s.Accepts name t body) :
    ∃ ds adopted, (s.begun name).Worked ds adopted (body.run (s.begun name)).2 := by
  cases h with
  | octets function b input idle found bridge =>
    exact exchange_worked b name function input bridge rfl
  | values function signature args idle found typed =>
    exact exchangeValues_worked name function args _

/-- What giving buffers back leaves on record: each is offered once, in order, and the answer is the
first failure. -/
structure Released (s : Stage g H) (blocks : List Block) (ds : List Deed)
    (cleanup : Option Failure) (s' : Stage g H) : Prop where
  did : s.Did ds s'
  returned : Deeds.returned ds = blocks
  entries : Deeds.entries ds = []
  cleanup : (Deeds.failures ds).head? = cleanup
  first : ∀ block rest, blocks = block :: rest → ∃ ds', ds = .returned block :: ds'
  steady : s'.steady = s.steady

theorem release_steady (b : Bridge) (block : Block) (s : Stage g H) :
    ((Buffer.release enter b block).run s).2.steady = s.steady := by
  cases he : block.isEmpty with
  | true =>
    unfold Buffer.release
    simp only [he, if_true, Task.run_pure]
  | false =>
    have ht := enter_ticks b.dealloc [.i32 block.ptr, .i32 block.len] (s.note (.returned block))
    rw [Buffer.run_release enter b he]
    rcases hr : (enter b.dealloc [.i32 block.ptr, .i32 block.len] : Action g H Ending)
      (s.note (.returned block)) with ⟨h | results, s'⟩ <;> rw [hr] at ht <;>
      exact steady_of_fixed ht.fixed_eq

theorem releaseAll_cons (b : Bridge) (name : String) (block : Block) (blocks : List Block)
    (s : Stage g H) :
    releaseAll b name (block :: blocks) s =
      match (Buffer.release enter b block).run s with
      | (.ok _, s') => releaseAll b name blocks s'
      | (.error e, s') =>
        (some e, (releaseAll b name blocks (s'.log (.releaseFailed name block e))).2) := by
  rw [releaseAll, Action.run_bind]
  rcases (Buffer.release enter b block).run s with ⟨e | u, s'⟩ <;> rfl

/-- The host gives buffers back, one after the other: the deallocator runs once for each, whether it
failed before or not. Its failure, if there is one, is listed with the buffer. -/
inductive GivesBack (name : String) : List (Block × Option Failure) → Stage g H → Stage g H → Prop
  | done {s : Stage g H} : GivesBack name [] s s
  | taken {b : Bridge} {block : Block} {results : List Value} {rest : List (Block × Option Failure)}
      {s s' s'' : Stage g H} (bridge : s.store.bridge = some b)
      (ran : (enter b.dealloc [.i32 block.ptr, .i32 block.len] : Action g H Ending)
        (s.note (.returned block)) = (.ok results, s'))
      (after : GivesBack name rest s' s'') : GivesBack name ((block, none) :: rest) s s''
  | kept {b : Bridge} {block : Block} {h : Halt} {e : Failure}
      {rest : List (Block × Option Failure)} {s s' s'' : Stage g H}
      (bridge : s.store.bridge = some b)
      (ran : (enter b.dealloc [.i32 block.ptr, .i32 block.len] : Action g H Ending)
        (s.note (.returned block)) = (.error h, s'))
      (failure : e = s'.store.classify Name.dealloc h)
      (after : GivesBack name rest ((s'.note (.kept block e)).log (.releaseFailed name block e))
        s'') :
      GivesBack name ((block, some e) :: rest) s s''

def keptFor (attempts : List (Block × Option Failure)) : List Failure :=
  attempts.filterMap Prod.snd

theorem eq_map_of_keptFor {attempts : List (Block × Option Failure)} (h : keptFor attempts = []) :
    attempts = (attempts.map Prod.fst).map fun block => (block, none) := by
  induction attempts with
  | nil => rfl
  | cons attempt rest ih =>
    obtain ⟨block, failure⟩ := attempt
    cases failure with
    | none => exact congrArg ((block, none) :: ·) (ih h)
    | some e => cases h

/-- Every buffer is given back or the deallocator fails on it; the first failure is remembered. -/
theorem givesBack_of_releaseAll {b : Bridge} (name : String) {blocks : List Block}
    (hn : ∀ block ∈ blocks, block.isEmpty = false) {s : Stage g H} (hb : s.store.bridge = some b) :
    ∃ attempts, attempts.map Prod.fst = blocks ∧
      s.GivesBack name attempts (releaseAll b name blocks s).2 ∧
      (keptFor attempts).head? = (releaseAll b name blocks s).1 := by
  induction blocks generalizing s with
  | nil => exact ⟨[], rfl, .done, rfl⟩
  | cons block blocks ih =>
    have hbs : ∀ c ∈ blocks, c.isEmpty = false := fun c hc => hn c (List.mem_cons_of_mem _ hc)
    have ht := enter_ticks b.dealloc [.i32 block.ptr, .i32 block.len] (s.note (.returned block))
    rw [releaseAll_cons, Buffer.run_release enter b (hn block List.mem_cons_self)]
    rcases hr : (enter b.dealloc [.i32 block.ptr, .i32 block.len] : Action g H Ending)
      (s.note (.returned block)) with ⟨h | results, s'⟩ <;> rw [hr] at ht <;> dsimp only
    · let e := s'.store.classify Name.dealloc h
      have hb' :
          ((s'.note (.kept block e)).log (.releaseFailed name block e)).store.bridge = some b :=
        (bridge_of_fixed ht.fixed_eq).trans hb
      obtain ⟨attempts, rfl, hg, -⟩ := ih hbs hb'
      exact ⟨_ :: attempts, rfl, .kept hb hr rfl hg, rfl⟩
    · obtain ⟨attempts, rfl, hg, hf⟩ := ih hbs ((bridge_of_fixed ht.fixed_eq).trans hb)
      exact ⟨_ :: attempts, rfl, .taken hb hr hg, hf⟩

theorem Released.cons {s s' s'' : Stage g H} {block : Block} {blocks : List Block}
    {ds ds' : List Deed} {cleanup : Option Failure} (failure : Option Failure)
    (hd : s.Did (.returned block :: ds) s') (hr : Deeds.returned ds = [])
    (hn : Deeds.entries ds = []) (hf : Deeds.failures ds = failure.toList)
    (hs : s'.steady = s.steady) (h : s'.Released blocks ds' cleanup s'') :
    s.Released (block :: blocks) (.returned block :: ds ++ ds') (failure.or cleanup) s'' where
  did := hd.trans h.did
  returned := by
    have hc : Deeds.returned (.returned block :: ds) = block :: Deeds.returned ds := rfl
    rw [Deeds.returned_append, hc, hr, h.returned]
    rfl
  entries := by
    have hc : Deeds.entries (.returned block :: ds) = Deeds.entries ds := rfl
    rw [Deeds.entries_append, hc, hn, h.entries]
    rfl
  cleanup := by
    have hc : Deeds.failures (.returned block :: ds) = Deeds.failures ds := rfl
    rw [Deeds.failures_append, hc, hf, ← h.cleanup]
    cases failure <;> rfl
  first := by
    intro c rest hc
    obtain ⟨rfl, -⟩ := List.cons.inj hc
    exact ⟨ds ++ ds', rfl⟩
  steady := h.steady.trans hs

/-- Of each run of the deallocator a note is left that the buffer was offered, and another where it
failed. -/
theorem GivesBack.recorded {s s' : Stage g H} {name : String}
    {attempts : List (Block × Option Failure)} (h : s.GivesBack name attempts s') :
    ∃ ds, s.Released (attempts.map Prod.fst) ds (keptFor attempts).head? s' ∧
      Deeds.failures ds = keptFor attempts := by
  induction h with
  | done => exact ⟨[], ⟨rfl, rfl, rfl, rfl, nofun, rfl⟩, rfl⟩
  | taken bridge ran after ih =>
    rename_i b block results rest s s' s''
    obtain ⟨ds, hr, hn⟩ := (enter_ticks b.dealloc [.i32 block.ptr, .i32 block.len]
      (s.note (.returned block))).ran
    rw [ran] at hr
    obtain ⟨ds', hi, hf⟩ := ih
    have hd : s.Did (.returned block :: ds) s' := (Did.note s _).trans hr.did
    refine ⟨_, .cons none hd hr.returned hn hr.failures hr.steady hi, ?_⟩
    rw [Deeds.failures_append, hf]
    exact congrArg (· ++ keptFor rest) hr.failures
  | kept bridge ran failure after ih =>
    rename_i b block h e rest s s' s''
    obtain ⟨ds, hr, hn⟩ := (enter_ticks b.dealloc [.i32 block.ptr, .i32 block.len]
      (s.note (.returned block))).ran
    rw [ran] at hr
    obtain ⟨ds', hi, hf⟩ := ih
    have hd : s.Did (.returned block :: (ds ++ [.kept block e]))
        ((s'.note (.kept block e)).log (.releaseFailed name block e)) :=
      ((Did.note s _).trans hr.did).trans (Did.note s' _)
    have hreturned : Deeds.returned (ds ++ [.kept block e]) = [] := by
      rw [Deeds.returned_append, hr.returned]
      rfl
    have hentries : Deeds.entries (ds ++ [.kept block e]) = [] := by
      rw [Deeds.entries_append, hn]
      rfl
    have hfailures : Deeds.failures (ds ++ [.kept block e]) = [e] := by
      rw [Deeds.failures_append, hr.failures]
      rfl
    refine ⟨_, .cons (some e) hd hreturned hentries hfailures hr.steady hi, ?_⟩
    rw [Deeds.failures_append, hf]
    exact congrArg (· ++ keptFor rest) hfailures

def leaving (s : Stage g H) (r : Except Failure α) : Stage g H := (s.silenced.resting r).emptied

theorem did_leaving (s : Stage g H) (r : Except Failure α) : s.Did [] (s.leaving r) := by
  cases r <;> exact Did.refl s

theorem Did.record_of_begun {s s' : Stage g H} {name : String} {ds : List Deed}
    (h : (s.begun name).Did ds s') (hs : s.deeds = []) : s'.record = ds := by
  have hn : (s.begun name).record = [] := congrArg List.reverse hs
  rw [h.record_eq, hn, List.nil_append]

theorem begun_steady (s : Stage g H) (name : String) :
    (s.begun name).steady =
      { s.steady with deadline := s.store.armed.deadline, calling := some name } := rfl

theorem leaving_steady (s : Stage g H) (r : Except Failure α) :
    (s.leaving r).steady = { s.steady with deadline := none } := by
  have hc : (s.leaving r).steady.calling = s.steady.calling := by
    cases r <;> exact Option.map_map ..
  cases r <;> simp only [Stage.steady, Stage.fixed] at hc ⊢ <;> rw [hc] <;> rfl

/-- The allocator is the same when the body of a call has ended. -/
theorem Worked.leaving_bridge {s s₁ : Stage g H} {name : String} {A : List Deed}
    {adopted : Option Block} (h : (s.begun name).Worked A adopted s₁) (r : Except Failure α) :
    (s₁.leaving r).store.bridge = s.store.bridge := by
  have hl : (s₁.leaving r).store.bridge = s₁.store.bridge :=
    congrArg Fixed.bridge (leaving_steady s₁ r)
  exact hl.trans (congrArg Fixed.bridge h.steady)

theorem resting_tracked (s : Stage g H) (r : Except Failure α) :
    (s.silenced.resting r).tracked = s.tracked := by
  cases r <;> rfl

theorem did_ended (s : Stage g H) (name : String) (r : Except Failure α)
    (cleanup : Option Failure) : s.Did [] (s.ended name r cleanup) := by
  cases cleanup <;> exact Did.refl s

theorem ended_call (s : Stage g H) (name : String) (r : Except Failure α)
    (cleanup : Option Failure) : (s.ended name r cleanup).store.call = none := by
  cases cleanup <;> rfl

theorem ended_phase (s : Stage g H) (name : String) (r : Except Failure α)
    (cleanup : Option Failure) : (s.ended name r cleanup).store.phase = .idle := by
  cases cleanup <;> rfl

theorem ended_steady (s : Stage g H) (name : String) (r : Except Failure α)
    (cleanup : Option Failure) :
    (s.ended name r cleanup).steady =
      { s.steady with calling := none, poisoned := s.store.poisoned || cleanup.isSome } := by
  cases cleanup with
  | none => simp [ended, Stage.steady, Stage.fixed, enterPhase, log, updateStore]
  | some c => simp [ended, Stage.steady, Stage.fixed, enterPhase, log, updateStore]

/-- An accepted call once its body has ended: cleanup starts from there, and has a say in the answer
of a call that went well only. -/
theorem Accepts.run_leaving {s : Stage g H} {name : String} {t body : Task g H α}
    (h : s.Accepts name t body) {r : Except Failure α} {s₁ : Stage g H}
    (hb : body.run (s.begun name) = (r, s₁)) :
    t.run s =
      let r := surface name s₁.store.guestError r
      let (cleanup, s₂) :=
        (releasing s.store.bridge name s₁.tracked : Action g H _) (s₁.leaving r)
      (answer r cleanup, s₂.ended name r cleanup) := by
  rw [h.run_eq, run_during, hb]
  simp only [run_finish, resting_tracked]
  rfl

/-- An accepted call, taken apart: its body, then one run of the deallocator for each buffer that
the body left. -/
theorem Accepts.gives_back {s : Stage g H} {name : String} {t body : Task g H α}
    (h : s.Accepts name t body) {r : Except Failure α} {s₁ : Stage g H}
    (hb : body.run (s.begun name) = (r, s₁)) :
    ∃ A adopted attempts s₂, (s.begun name).Worked A adopted s₁ ∧
      attempts.map Prod.fst = s₁.tracked ∧
      (s₁.leaving (surface name s₁.store.guestError r)).GivesBack name attempts s₂ ∧
      t.run s = (answer (surface name s₁.store.guestError r) (keptFor attempts).head?,
        s₂.ended name (surface name s₁.store.guestError r) (keptFor attempts).head?) := by
  obtain ⟨A, adopted, hw⟩ := h.worked
  rw [hb] at hw
  have hl : ∀ block ∈ s₁.tracked, block.isEmpty = false := by
    intro block hm
    rw [hw.tracked, List.mem_append, List.mem_append] at hm
    rcases hm with (hm | hm) | hm
    · exact (hw.foreign block (by simpa using hm)).1
    · exact hw.given block (by simpa using hm)
    · cases hm
  have hrun := h.run_leaving hb
  cases hs : s.store.bridge with
  | none =>
    obtain ⟨hg, ha⟩ := hw.bridgeless hs
    have ht : s₁.tracked = [] := by
      rw [hw.tracked, hg, ha]
      rfl
    rw [hs] at hrun
    exact ⟨A, adopted, [], _, hw, ht.symm, .done, hrun⟩
  | some b =>
    obtain ⟨attempts, ha, hg, hf⟩ :=
      givesBack_of_releaseAll name hl ((hw.leaving_bridge _).trans hs)
    rw [hs] at hrun
    refine ⟨A, adopted, attempts, _, hw, ha, hg, ?_⟩
    rw [hf]
    exact hrun

theorem Accepts.released {s : Stage g H} {name : String} {t body : Task g H α}
    (h : s.Accepts name t body) {r : Except Failure α} {s₁ : Stage g H}
    (hb : body.run (s.begun name) = (r, s₁)) :
    ∃ A adopted C cleanup s₂, (s.begun name).Worked A adopted s₁ ∧
      (s₁.leaving (surface name s₁.store.guestError r)).Released s₁.tracked C cleanup s₂ ∧
      t.run s = (answer (surface name s₁.store.guestError r) cleanup,
        s₂.ended name (surface name s₁.store.guestError r) cleanup) := by
  obtain ⟨A, adopted, attempts, s₂, hw, ha, hg, ht⟩ := h.gives_back hb
  obtain ⟨C, hr, -⟩ := hg.recorded
  rw [ha] at hr
  exact ⟨A, adopted, C, _, s₂, hw, hr, ht⟩

theorem Released.did_of_leaving {s s' : Stage g H} {r : Except Failure α} {blocks : List Block}
    {ds : List Deed} {cleanup : Option Failure} (h : (s.leaving r).Released blocks ds cleanup s')
    (name : String) : s.Did ds (s'.ended name r cleanup) := by
  have hd := ((did_leaving s r).trans h.did).trans (did_ended s' name r cleanup)
  rwa [List.nil_append, List.append_nil] at hd

/-- What an accepted call changes of all that guest code cannot change: a failed release spoils the
instance, and no deadline is left. -/
theorem Released.ended_steady {s s₁ s₂ : Stage g H} {name : String} {r : Except Failure α}
    {A C : List Deed} {adopted : Option Block} {blocks : List Block} {cleanup : Option Failure}
    (h : (s₁.leaving r).Released blocks C cleanup s₂)
    (hw : (s.begun name).Worked A adopted s₁) :
    (s₂.ended name r cleanup).steady =
      { s.steady with
        deadline := none
        calling := none
        poisoned := s.store.poisoned || cleanup.isSome } := by
  have hs : s₂.steady =
      { s.steady with deadline := none, calling := some name } := by
    rw [h.steady, leaving_steady, hw.steady, begun_steady]
  have hp : s₂.store.poisoned = s.store.poisoned := congrArg Fixed.poisoned hs
  rw [Stage.ended_steady, hs, hp]

end Stage

end PluginHost
