import PluginHost.Proofs.Delay
import PluginHost.Proofs.Lifetime
/-!
Calls do not notice what earlier work left over. Two plugins may differ in their fuel, in the growth
that was refused last, in a message, a deadline or a call that was left standing, and, where the
guest cannot look at the clock, in what time it is. Whatever is asked of both comes to the same.
-/
namespace PluginHost
variable {g : Guest} {H α : Type} {d : Nat}

theorem Stage.Accepts.providers_eq {s : Stage g H} {name : String} {t body : Task g H α}
    (h : s.Accepts name t body) : (t.run s).2.providers = s.providers := by
  rcases hb : body.run (s.begun name) with ⟨r, s₁⟩
  obtain ⟨A, adopted, C, c, s₂, hw, hr, ht⟩ := h.released hb
  rw [ht]
  exact congrArg Fixed.providers (hr.ended_steady hw)

/-- Stores that differ at most in leftovers, which are fuel, the last refusal, message, deadline and
call, and in what time it is. -/
structure Store.Alike (t u : Store) : Prop where
  phase : t.phase = u.phase
  bridge : t.bridge = u.bridge
  poisoned : t.poisoned = u.poisoned
  vars : t.vars = u.vars
  system : t.system = u.system
  timeoutMillis : t.timeoutMillis = u.timeoutMillis
  fuelLimit : t.fuelLimit = u.fuelLimit
  maxMemoryBytes : t.limit.maxMemoryBytes = u.limit.maxMemoryBytes

theorem Store.Alike.beginning_eq {t u : Store} (h : t.Alike u) (hd : u.clock = t.clock + d)
    (name : String) : u.beginning name = (t.later d).beginning name := by
  simp only [beginning, refuelled, armed, fullFuel, later, GrowthLimit.reset, hd, h.phase, h.bridge,
    h.poisoned, h.vars, h.system, h.timeoutMillis, h.fuelLimit, h.maxMemoryBytes]

namespace Instance

structure Alike (i j : Instance g H) : Prop where
  module : i.module = j.module
  providers : i.providers = j.providers
  guest : i.guest = j.guest
  store : i.store.Alike j.store
  /-- They see the same time, or cannot see any. -/
  time : i.store.clock = j.store.clock ∨ ∀ p ∈ i.providers, p ≠ .system .clockTimeGet

theorem Alike.symm {i j : Instance g H} (h : i.Alike j) : j.Alike i := by
  obtain ⟨hm, hp, hg, ⟨h₁, h₂, h₃, h₄, h₅, h₆, h₇, h₈⟩, ht⟩ := h
  refine ⟨hm.symm, hp.symm, hg.symm,
    ⟨h₁.symm, h₂.symm, h₃.symm, h₄.symm, h₅.symm, h₆.symm, h₇.symm, h₈.symm⟩, ?_⟩
  rw [← hp]
  exact ht.imp_left Eq.symm

theorem alike_later (s : Stage g H) (h : d = 0 ∨ s.Timeless) :
    s.toInstance.Alike (s.later d).toInstance where
  module := rfl
  providers := rfl
  guest := rfl
  store := ⟨rfl, rfl, rfl, rfl, rfl, rfl, rfl, rfl⟩
  time := h.imp_left fun hd => by rw [hd, Stage.later_zero]

namespace Alike
variable {i j : Instance g H} {name : String} {t body : Task g H α} {w : World H}

theorem begun_eq (h : i.Alike j) (hd : j.store.clock = i.store.clock + d) (name : String)
    (w : World H) :
    Stage.begun ⟨j, w, []⟩ name = (Stage.begun ⟨i, w, []⟩ name).later d := by
  rw [← Stage.begun_later]
  change Stage.log ⟨⟨j.module, j.providers, j.guest, j.store.beginning name⟩, w, []⟩ _ =
    Stage.log ⟨⟨i.module, i.providers, i.guest, (i.store.later d).beginning name⟩, w, []⟩ _
  rw [h.module, h.providers, h.guest, h.store.beginning_eq hd]

theorem accepts (h : i.Alike j) (ha : Stage.Accepts ⟨i, w, []⟩ name t body) :
    Stage.Accepts ⟨j, w, []⟩ name t body := by
  cases ha with
  | octets function b input idle found bridge =>
    exact .octets function b input (h.store.phase ▸ idle) (h.module ▸ found)
      (h.store.bridge ▸ bridge)
  | values function signature args idle found typed =>
    exact .values function signature args (h.store.phase ▸ idle) (h.module ▸ found) typed

theorem refuses {e : Failure} (h : i.Alike j) (hr : Stage.Refuses ⟨i, w, []⟩ name t e) :
    Stage.Refuses ⟨j, w, []⟩ name t e := by
  have hm := h.module
  have hb := h.store.bridge
  have hp := h.store.phase
  cases hr with
  | unknown input missing => exact .unknown input (hm ▸ missing)
  | notBytes function signature input found other =>
    exact .notBytes function signature input (hm ▸ found) other
  | noAllocator function input found bridge =>
    exact .noAllocator function input (hm ▸ found) (hb ▸ bridge)
  | busy function b input found bridge busy =>
    exact .busy function b input (hm ▸ found) (hb ▸ bridge) (hp ▸ busy)
  | unknownValues args missing => exact .unknownValues args (hm ▸ missing)
  | argumentTypes function signature args found other =>
    exact .argumentTypes function signature args (hm ▸ found) other
  | busyValues function signature args found typed busy =>
    exact .busyValues function signature args (hm ▸ found) typed (hp ▸ busy)

/-- An accepted call of two instances, the second of which is as late as the first or later. -/
theorem run_accepted (h : i.Alike j) (hd : j.store.clock = i.store.clock + d)
    (ha : Stage.Accepts ⟨i, w, []⟩ name t body) :
    t.run ⟨j, w, []⟩ = ((t.run ⟨i, w, []⟩).1, (t.run ⟨i, w, []⟩).2.later d) ∧
      (d = 0 ∨ (t.run ⟨i, w, []⟩).2.Timeless) := by
  have hb : j.store.bridge = i.store.bridge := h.store.bridge.symm
  rw [(h.accepts ha).run_eq, ha.run_eq, h.begun_eq hd]
  change (Stage.during j.store.bridge name body).run _ = _ ∧ _
  rw [hb]
  rcases h.time with hc | hs
  · obtain rfl : d = 0 := by omega
    simp only [Stage.later_zero, true_or, and_true]
    rfl
  · have ht : Stage.Timeless (⟨i, w, []⟩ : Stage g H) := hs
    refine ⟨ha.during_postpones ht, .inr ?_⟩
    rw [← ha.run_eq, Stage.Timeless, ha.providers_eq]
    exact ht

theorem withVariables (h : i.Alike j) (vars : Variables) :
    ({ i with store := { i.store with vars } } : Instance g H).Alike
      { j with store := { j.store with vars } } := by
  obtain ⟨hm, hp, hg, ⟨h₁, h₂, h₃, -, h₅, h₆, h₇, h₈⟩, ht⟩ := h
  exact ⟨hm, hp, hg, ⟨h₁, h₂, h₃, rfl, h₅, h₆, h₇, h₈⟩, ht⟩

theorem memoryBytes_eq (h : i.Alike j) : Plugin.memoryBytes i = Plugin.memoryBytes j := by
  unfold Plugin.memoryBytes
  rw [h.module, h.guest]

structure Runs (x y : Except Failure α × Stage g H) : Prop where
  answer : x.1 = y.1
  world : x.2.world = y.2.world
  left : x.2.toInstance.Alike y.2.toInstance

theorem run_later (h : i.Alike j) (hl : i.store.clock ≤ j.store.clock)
    (ht : Stage.Calling name t) (w : World H) :
    Runs (t.run ⟨i, w, []⟩) (t.run ⟨j, w, []⟩) := by
  rcases ht ⟨i, w, []⟩ with ⟨body, ha⟩ | ⟨e, hr⟩
  · have hd : j.store.clock = i.store.clock + (j.store.clock - i.store.clock) := by omega
    obtain ⟨he, ht⟩ := h.run_accepted hd ha
    rw [he]
    exact ⟨rfl, rfl, alike_later _ ht⟩
  · rw [hr.run_eq, (h.refuses hr).run_eq]
    exact ⟨rfl, rfl, h⟩

theorem run_eq (h : i.Alike j) (ht : Stage.Calling name t) (w : World H) :
    Runs (t.run ⟨i, w, []⟩) (t.run ⟨j, w, []⟩) := by
  rcases Nat.le_total i.store.clock j.store.clock with hl | hl
  · exact h.run_later hl ht w
  · obtain ⟨h₁, h₂, h₃⟩ := h.symm.run_later hl ht w
    exact ⟨h₁.symm, h₂.symm, h₃.symm⟩

end Alike

end Instance

namespace Plugin

inductive Alike : Plugin g H → Plugin g H → Prop
  | live (m : g.Module) (settings : Settings) (i j : Instance g H) (alike : i.Alike j) :
      Alike ⟨m, settings, some i⟩ ⟨m, settings, some j⟩
  | closed (m : g.Module) (settings : Settings) : Alike ⟨m, settings, none⟩ ⟨m, settings, none⟩

theorem Alike.isClosed_eq {p q : Plugin g H} (h : p.Alike q) : p.isClosed = q.isClosed := by
  cases h <;> rfl

theorem Alike.guest_eq {p q : Plugin g H} (h : p.Alike q) :
    p.live.map Instance.guest = q.live.map Instance.guest := by
  cases h with
  | closed m settings => rfl
  | live m settings i j alike => exact congrArg some alike.guest

theorem Alike.vars_eq {p q : Plugin g H} (h : p.Alike q) :
    p.live.map (fun i => i.store.vars) = q.live.map fun i => i.store.vars := by
  cases h with
  | closed m settings => rfl
  | live m settings i j alike => exact congrArg some alike.store.vars

structure Alike.Runs (x y : α × Plugin g H × World H) : Prop where
  reply : x.1 = y.1
  plugin : x.2.1.Alike y.2.1
  world : x.2.2 = y.2.2

theorem calling_alike {name : String} {t : Task g H α} {p q : Plugin g H} (h : p.Alike q)
    (ht : Stage.Calling name t) (w : World H) :
    Alike.Runs ((calling name t).run (p, w)) ((calling name t).run (q, w)) := by
  cases h with
  | closed m settings => exact ⟨rfl, .closed m settings, rfl⟩
  | live m settings i j alike =>
    obtain ⟨hr, hw, hs⟩ := alike.run_eq ht w
    rcases h₁ : t.run ⟨i, w, []⟩ with ⟨r, s₁⟩
    rcases h₂ : t.run ⟨j, w, []⟩ with ⟨r', s₂⟩
    rw [h₁, h₂] at hr hw hs
    obtain rfl : r = r' := hr
    have hq : s₁.store.poisoned = s₂.store.poisoned := hs.store.poisoned
    have hc : closes r s₁ = closes r s₂ := by
      unfold closes
      rw [hq]
    have hsh : shared name r s₁ = shared name r s₂ := by
      have hw' : s₁.world = s₂.world := hw
      unfold shared
      rw [hq, hw']
    rw [run_calling_open name t rfl w h₁, run_calling_open name t rfl w h₂, hc, hsh]
    refine ⟨rfl, ?_, rfl⟩
    cases closes r s₂ with
    | true => exact .closed m settings
    | false => exact .live m settings _ _ hs

/-- Whatever is asked of plugins that are alike comes to the same, and leaves them alike. -/
theorem perform_alike {p q : Plugin g H} (h : p.Alike q) (op : Operation) (w : World H) :
    Alike.Runs ((perform op).run (p, w)) ((perform op).run (q, w)) := by
  cases op with
  | call name input =>
    obtain ⟨hr, hp, hw⟩ := calling_alike h (Stage.call_calling name input) w
    exact ⟨congrArg Outcome.octets hr, hp, hw⟩
  | callValues name args =>
    obtain ⟨hr, hp, hw⟩ := calling_alike h (Stage.callValues_calling name args) w
    exact ⟨congrArg Outcome.values hr, hp, hw⟩
  | setVariable key value =>
    cases h with
    | closed m settings => exact ⟨rfl, .closed m settings, rfl⟩
    | live m settings i j alike =>
      simp only [run_perform_setVariable, setVariable, alike.store.vars]
      cases j.store.vars.set key value with
      | error e => exact ⟨rfl, .live m settings i j alike, rfl⟩
      | ok vars => exact ⟨rfl, .live m settings _ _ (alike.withVariables vars), rfl⟩
  | clearVariables =>
    cases h with
    | closed m settings => exact ⟨rfl, .closed m settings, rfl⟩
    | live m settings i j alike =>
      simp only [run_perform_clearVariables, clearVariables, Option.map_some, alike.store.vars]
      exact ⟨rfl, .live m settings _ _ (alike.withVariables j.store.vars.clear), rfl⟩
  | valueOf key =>
    refine ⟨?_, h, rfl⟩
    cases h with
    | closed m settings => rfl
    | live m settings i j alike =>
      simp only [run_perform_valueOf, valueOf?, Option.bind_some, alike.store.vars]
  | memoryPages =>
    refine ⟨?_, h, rfl⟩
    cases h with
    | closed m settings => rfl
    | live m settings i j alike =>
      simp only [run_perform_memoryPages, Plugin.memoryPages, alike.memoryBytes_eq]
  | close =>
    cases h with
    | closed m settings => exact ⟨rfl, .closed m settings, rfl⟩
    | live m settings i j alike => exact ⟨rfl, .closed m settings, rfl⟩

theorem after_alike {p q : Plugin g H} (h : p.Alike q) (ops : List (Operation × World H)) :
    (p.after ops).Alike (q.after ops) := by
  induction ops generalizing p q with
  | nil => exact h
  | cons x ops ih => exact ih (perform_alike h x.1 x.2).plugin

theorem calling_providers {name : String} {t : Task g H α} {p : Plugin g H} {i j : Instance g H}
    {w : World H} (hi : p.live = some i) (ht : Stage.Calling name t)
    (hj : ((calling name t).run (p, w)).2.1.live = some j) : j.providers = i.providers := by
  rw [← (live_of_calling hi hj).1]
  rcases ht ⟨i, w, []⟩ with ⟨body, ha⟩ | ⟨e, he⟩
  · exact ha.providers_eq
  · rw [he.run_eq]

theorem perform_providers {p : Plugin g H} {op : Operation} {w : World H} {j : Instance g H}
    (hj : ((perform op).run (p, w)).2.1.live = some j) :
    ∃ i, p.live = some i ∧ j.providers = i.providers := by
  obtain ⟨m, settings, live⟩ := p
  cases live with
  | none =>
    rw [perform_closed op rfl] at hj
    cases hj
  | some i =>
    refine ⟨i, rfl, ?_⟩
    cases op with
    | call name input =>
      exact calling_providers (p := ⟨m, settings, some i⟩) (w := w) rfl
        (Stage.call_calling name input) hj
    | callValues name args =>
      exact calling_providers (p := ⟨m, settings, some i⟩) (w := w) rfl
        (Stage.callValues_calling name args) hj
    | setVariable key value =>
      simp only [run_perform_setVariable, setVariable] at hj
      cases hv : i.store.vars.set key value <;> rw [hv] at hj <;> rw [← Option.some.inj hj]
    | clearVariables =>
      rw [run_perform_clearVariables] at hj
      rw [← Option.some.inj hj]
    | valueOf key => rw [← Option.some.inj hj]
    | memoryPages => rw [← Option.some.inj hj]
    | close => cases hj

theorem after_providers {p : Plugin g H} {ops : List (Operation × World H)} {j : Instance g H}
    (hj : (p.after ops).live = some j) : ∃ i, p.live = some i ∧ j.providers = i.providers := by
  induction ops generalizing p with
  | nil => exact ⟨j, hj, rfl⟩
  | cons x ops ih =>
    obtain ⟨i, hi, h⟩ := ih hj
    obtain ⟨i', hi', h'⟩ := perform_providers hi
    exact ⟨i', hi', h.trans h'⟩

theorem eq_of_live {p q : Plugin g H} {i : Instance g H} (ho : p.origin = q.origin)
    (hl : p.live = some i) : p = ⟨q.module, q.settings, some i⟩ := by
  obtain ⟨m, settings, live⟩ := p
  obtain rfl := hl
  obtain ⟨rfl, rfl⟩ := Prod.mk.inj ho
  rfl

/-- Two plugins that were opened alike are alike whatever was asked of them since, as long as they
are open and their guests hold the same. All else that earlier work may leave behind is leftovers.
-/
theorem alike_of_same_guest {registry : Registry H} {m : g.Module} {settings : Settings}
    {i₁ i₂ j₁ j₂ : Instance g H} {w₁ w₂ w₁' w₂' : World H} {ops₁ ops₂ : List (Operation × World H)}
    (made₁ : (Opening.instantiate registry m settings).run w₁ = (.ok i₁, w₁'))
    (made₂ : (Opening.instantiate registry m settings).run w₂ = (.ok i₂, w₂'))
    (open₁ : (after ⟨m, settings, some i₁⟩ ops₁).live = some j₁)
    (open₂ : (after ⟨m, settings, some i₂⟩ ops₂).live = some j₂)
    (guest : j₁.guest = j₂.guest) (vars : j₁.store.vars = j₂.store.vars)
    (time : j₁.store.clock = j₂.store.clock ∨ ∀ p ∈ j₁.providers, p ≠ .system .clockTimeGet) :
    (after ⟨m, settings, some i₁⟩ ops₁).Alike (after ⟨m, settings, some i₂⟩ ops₂) := by
  have hr₁ := (ready_after made₁ rfl open₁).1
  have hr₂ := (ready_after made₂ rfl open₂).1
  have hb : j₁.store.bridge = j₂.store.bridge :=
    Except.ok.inj (hr₁.bridge.symm.trans hr₂.bridge)
  have hp : j₁.providers = j₂.providers := by
    obtain ⟨k₁, hk₁, hp₁⟩ := after_providers open₁
    obtain ⟨k₂, hk₂, hp₂⟩ := after_providers open₂
    rw [hp₁, hp₂, ← Option.some.inj hk₁, ← Option.some.inj hk₂]
    exact Opening.instantiate_providers made₁ made₂
  have he₁ := eq_of_live (after_origin ⟨m, settings, some i₁⟩ ops₁) open₁
  have he₂ := eq_of_live (after_origin ⟨m, settings, some i₂⟩ ops₂) open₂
  rw [he₁, he₂]
  exact .live m settings j₁ j₂ {
    module := hr₁.module.trans hr₂.module.symm
    providers := hp
    guest
    store := {
      phase := hr₁.idle.trans hr₂.idle.symm
      bridge := hb
      poisoned := hr₁.sound.trans hr₂.sound.symm
      vars
      system := hr₁.system.trans hr₂.system.symm
      timeoutMillis := hr₁.timeout.trans hr₂.timeout.symm
      fuelLimit := hr₁.fuel.trans hr₂.fuel.symm
      maxMemoryBytes := hr₁.pages.trans hr₂.pages.symm }
    time }

/-- Nothing that can be asked of a plugin, now or after other operations, comes to anything else
because of what earlier work left over. Answers, what plugins share and what the guest holds are the
same, and so are the variables and whether the plugin is open. -/
theorem leftovers_unnoticed {p q p' q' : Plugin g H} (h : p.Alike q)
    (ops : List (Operation × World H)) (op : Operation) {w w₁ w₂ : World H} {r₁ r₂ : Outcome}
    (hp : (perform op).run (p.after ops, w) = (r₁, (p', w₁)))
    (hq : (perform op).run (q.after ops, w) = (r₂, (q', w₂))) :
    r₁ = r₂ ∧ w₁ = w₂ ∧ p'.isClosed = q'.isClosed ∧
      p'.live.map Instance.guest = q'.live.map Instance.guest ∧
      p'.live.map (fun i => i.store.vars) = q'.live.map (fun i => i.store.vars) ∧
      p'.Alike q' := by
  obtain ⟨hr, ha, hw⟩ := perform_alike (after_alike h ops) op w
  rw [hp, hq] at hr ha hw
  exact ⟨hr, hw, ha.isClosed_eq, ha.guest_eq, ha.vars_eq, ha⟩

open Script in
theorem greedy_alike_after_call :
    Alike (⟨greedy, hasty, some (made greedy)⟩ : Plugin guest Unit)
      (after ⟨greedy, hasty, some (made greedy)⟩ [(.call "run" [1], world)]) := by
  have hm : (Opening.instantiate Registry.empty greedy hasty).run world =
      (.ok (made greedy), _) := rfl
  have h₁ : (after (⟨greedy, hasty, some (made greedy)⟩ : Plugin guest Unit) []).live =
      some (made greedy) := rfl
  have h₂ : (after ⟨greedy, hasty, some (made greedy)⟩ [(.call "run" [1], world)]).live =
      some _ := rfl
  exact alike_of_same_guest hm hm h₁ h₂ rfl rfl (.inr nofun)

open Script in
/-- A call that failed leaves a refusal and a later time behind, and can be made again with the
same outcome. -/
theorem greedy_call_repeats :
    (∃ j, (after ⟨greedy, hasty, some (made greedy)⟩ [(.call "run" [1], world)]).live = some j ∧
      j.store.limit.refused = some (twoTo 40) ∧ j.store.clock = 10) ∧
    ((perform (.call "run" [1])).run
      (after ⟨greedy, hasty, some (made greedy)⟩ [(.call "run" [1], world)], world)).1 =
        .octets (.error (.outOfMemory 1)) := by
  refine ⟨⟨_, rfl, rfl, rfl⟩, ?_⟩
  have h := leftovers_unnoticed greedy_alike_after_call [] (.call "run" [1]) (w := world) rfl rfl
  exact h.1.symm.trans rfl

end Plugin

end PluginHost
