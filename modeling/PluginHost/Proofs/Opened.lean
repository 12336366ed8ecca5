import PluginHost.Proofs.Cleanup
/-!
Plugins as they come about: opened from a module, and then only used through their operations. As
long as such a plugin is open, its instance waits for the next call with nothing left over from the
last one that could refuse it.
-/
namespace PluginHost
variable {g : Guest} {H α β : Type}

theorem run_fallible_bind {σ : Type} (t : ExceptT Failure (StateM σ) α)
    (f : α → ExceptT Failure (StateM σ) β) (s : σ) :
    (t >>= f).run s = match t.run s with
      | (.ok a, s') => (f a).run s'
      | (.error e, s') => (.error e, s') := by
  change (ExceptT.bindCont f (t.run s).1) (t.run s).2 = _
  obtain ⟨r, s'⟩ := t.run s
  cases r <;> rfl

theorem HostTask.of_bind {t : HostTask H α} {f : α → HostTask H β} {w w' : World H} {b : β}
    (h : (t >>= f).run w = (.ok b, w')) :
    ∃ a w₁, t.run w = (.ok a, w₁) ∧ (f a).run w₁ = (.ok b, w') := by
  rw [run_fallible_bind] at h
  rcases ht : t.run w with ⟨e | a, w₁⟩ <;> rw [ht] at h
  · cases h
  · exact ⟨a, w₁, rfl, h⟩

def HostTask.Settled (t : HostTask H α) : Prop := ∀ w w', (t.run w).1 = (t.run w').1

theorem HostTask.Settled.bind {t : HostTask H α} {f : α → HostTask H β} (ht : t.Settled)
    (hf : ∀ a, (f a).Settled) : (t >>= f).Settled := by
  intro w w'
  have h := ht w w'
  change (ExceptT.bindCont f (t.run w).1 (t.run w).2).1 =
    (ExceptT.bindCont f (t.run w').1 (t.run w').2).1
  rw [← h]
  cases (t.run w).1 with
  | error e => rfl
  | ok a => exact hf a _ _

theorem HostTask.Settled.ofExcept (r : Except Failure α) :
    (MonadExcept.ofExcept r : HostTask H α).Settled := by
  cases r <;> exact fun _ _ => rfl

structure Instance.Ready (i : Instance g H) (m : g.Module) (settings : Settings) : Prop where
  module : i.module = m
  idle : i.store.phase = .idle
  free : i.store.call = none
  rested : i.store.deadline = none
  sound : i.store.poisoned = false
  timeout : i.store.timeoutMillis = settings.timeoutMillis
  fuel : i.store.fuelLimit = settings.fuelLimit
  pages : i.store.limit.maxMemoryBytes = settings.maxMemoryBytes
  system : i.store.system = settings.wasi
  /-- The allocator is the one that the module exports. -/
  bridge : Opening.bridge? g m = .ok i.store.bridge

namespace Opening

theorem bind_settled (registry : Registry H) (settings : Settings) (info : ModuleInfo) :
    (bind registry settings info).Settled := by
  unfold bind
  exact .bind (fun _ _ => rfl) fun _ => .ofExcept _

def starting (m : g.Module) (providers : List (Provider H)) (settings : Settings) (w : World H) :
    Stage g H :=
  ⟨⟨m, providers.toArray, (g.start m).1, (Store.ofSettings settings).armed⟩, w, []⟩

theorem of_begin {m : g.Module} {providers : List (Provider H)} {settings : Settings}
    {w w' : World H} {i : Instance g H}
    (h : (begin m providers (.ofSettings settings)).run w = (.ok i, w')) :
    ∃ results s, Stage.execute g.stepLimit (g.start m).2 (starting m providers settings w) =
        (.ok results, s) ∧ i = { s.toInstance with store := s.store.disarmed } ∧ w' = s.world := by
  unfold starting
  rcases hs : g.start m with ⟨guest, code⟩
  simp only [begin, ExceptT.run_mk, hs] at h
  rcases he : Stage.execute g.stepLimit code
    (⟨⟨m, providers.toArray, guest, (Store.ofSettings settings).armed⟩, w, []⟩ : Stage g H) with
    ⟨e | results, s⟩ <;> rw [he] at h
  · cases h
  · obtain ⟨hi, hw⟩ := Prod.mk.inj h
    exact ⟨results, s, rfl, (Except.ok.inj hi).symm, hw.symm⟩

/-- What guest code cannot change is after the start computation as it was before. -/
theorem begin_fixed {m : g.Module} {providers : List (Provider H)} {settings : Settings}
    {w w' : World H} {i : Instance g H}
    (h : (begin m providers (.ofSettings settings)).run w = (.ok i, w')) :
    (⟨i, w', []⟩ : Stage g H).fixed =
      (⟨⟨m, providers.toArray, (g.start m).1, .ofSettings settings⟩, w, []⟩ : Stage g H).fixed := by
  obtain ⟨results, s, he, rfl, rfl⟩ := of_begin h
  have hf :=
    (Stage.execute_ticks g.stepLimit (g.start m).2 (starting m providers settings w)).fixed_eq
  rw [he] at hf
  exact congrArg (fun f : Stage.Fixed g H => { f with deadline := none }) hf

theorem begin_ready {m : g.Module} {providers : List (Provider H)} {settings : Settings}
    {w w' : World H} {i : Instance g H} {bridge : Option Bridge}
    (h : (begin m providers (.ofSettings settings)).run w = (.ok i, w'))
    (hb : bridge? g m = .ok bridge) :
    ({ i with store := { i.store with bridge } } : Instance g H).Ready m settings := by
  have hf := begin_fixed h
  have hc : i.store.call.map CallContext.function = none := congrArg Stage.Fixed.calling hf
  exact {
    module := congrArg Stage.Fixed.module hf
    idle := congrArg Stage.Fixed.phase hf
    free := Option.map_eq_none_iff.mp hc
    rested := congrArg Stage.Fixed.deadline hf
    sound := congrArg Stage.Fixed.poisoned hf
    timeout := congrArg Stage.Fixed.timeoutMillis hf
    fuel := congrArg Stage.Fixed.fuelLimit hf
    pages := congrArg Stage.Fixed.maxMemoryBytes hf
    system := congrArg Stage.Fixed.system hf
    bridge := hb }

theorem run_instantiate_other {registry : Registry H} {m : g.Module} {settings : Settings}
    (hm : (g.info m).otherImports ≠ []) (w : World H) :
    (instantiate registry m settings).run w =
      (.error (.opening (.nonFunctionImports (g.info m).otherImports)), w) := by
  unfold instantiate
  dsimp only
  rw [if_pos (by simpa using hm)]
  rfl

/-- Other modules are opened in two steps, after a line in the log where there are system calls. -/
theorem run_instantiate (registry : Registry H) {m : g.Module} (settings : Settings)
    (hm : (g.info m).otherImports = []) (w : World H) :
    ∃ events, (instantiate registry m settings).run w =
      (bind registry settings (g.info m) >>= complete m settings).run (w.logAll events) := by
  unfold instantiate
  dsimp only
  rw [if_neg (by simp [hm])]
  split
  · exact ⟨[.systemContextBuilt settings.wasi.summary], rfl⟩
  · exact ⟨[], rfl⟩

/-- What remains to be done can fail for the start computation and for the exports only. -/
theorem run_complete (m : g.Module) (settings : Settings) (ps : List (Provider H)) (w : World H) :
    match (begin m ps (.ofSettings settings)).run w, bridge? g m with
    | (.ok i, _), .ok bridge => ∃ w', (complete m settings ps).run w =
        (.ok { i with store := { i.store with bridge } }, w')
    | (.ok _, w'), .error e => (complete m settings ps).run w = (.error e, w')
    | (.error e, w'), _ => (complete m settings ps).run w = (.error e, w') := by
  unfold complete
  simp only [run_fallible_bind]
  rcases hb : (begin m ps (.ofSettings settings)).run w with ⟨e | i, w'⟩
  · rfl
  · cases bridge? g m with
    | error e => rfl
    | ok bridge =>
      cases bridge with
      | none => exact ⟨_, rfl⟩
      | some bridge => exact ⟨_, rfl⟩

theorem of_complete_ok {m : g.Module} {settings : Settings} {ps : List (Provider H)}
    {w w' : World H} {i : Instance g H} (h : (complete m settings ps).run w = (.ok i, w')) :
    ∃ i₀ w₁ bridge, (begin m ps (.ofSettings settings)).run w = (.ok i₀, w₁) ∧
      bridge? g m = .ok bridge ∧ i = { i₀ with store := { i₀.store with bridge } } := by
  have hc := run_complete m settings ps w
  rcases hb : (begin m ps (.ofSettings settings)).run w with ⟨e | i₀, w₁⟩ <;> rw [hb] at hc
  · cases hc.symm.trans h
  · cases hg : bridge? g m with
    | error e =>
      rw [hg] at hc
      cases hc.symm.trans h
    | ok bridge =>
      rw [hg] at hc
      obtain ⟨w₂, hc⟩ := hc
      obtain ⟨hi, -⟩ := Prod.mk.inj (hc.symm.trans h)
      exact ⟨i₀, w₁, bridge, rfl, rfl, (Except.ok.inj hi).symm⟩

theorem of_complete_error {m : g.Module} {settings : Settings} {ps : List (Provider H)}
    {w w' : World H} {e : Failure} (h : (complete m settings ps).run w = (.error e, w')) :
    (begin m ps (.ofSettings settings)).run w = (.error e, w') ∨ bridge? g m = .error e := by
  have hc := run_complete m settings ps w
  rcases hb : (begin m ps (.ofSettings settings)).run w with ⟨e' | i, w₁⟩ <;> rw [hb] at hc
  · exact .inl (hc.symm.trans h)
  · cases hg : bridge? g m with
    | error e' =>
      rw [hg] at hc
      obtain rfl := Except.error.inj (Prod.mk.inj (hc.symm.trans h)).1
      exact .inr rfl
    | ok bridge =>
      rw [hg] at hc
      obtain ⟨w₂, hc⟩ := hc
      cases hc.symm.trans h

theorem complete_ok_iff (m : g.Module) (settings : Settings) (ps : List (Provider H))
    (w : World H) :
    (∃ i, ((complete m settings ps).run w).1 = .ok i) ↔
      (∃ i, ((begin m ps (.ofSettings settings)).run w).1 = .ok i) ∧
        ∃ bridge, bridge? g m = .ok bridge := by
  constructor
  · rintro ⟨i, h⟩
    obtain ⟨i₀, w₁, bridge, hb, hg, -⟩ := of_complete_ok (Prod.ext h rfl)
    exact ⟨⟨i₀, congrArg Prod.fst hb⟩, bridge, hg⟩
  · rintro ⟨⟨i, hb⟩, bridge, hg⟩
    have hc := run_complete m settings ps w
    rw [show (begin m ps (.ofSettings settings)).run w = (.ok i, _) from Prod.ext hb rfl, hg] at hc
    obtain ⟨w', hc⟩ := hc
    exact ⟨_, congrArg Prod.fst hc⟩

/-- What went well when an instance was made. -/
theorem of_instantiate {registry : Registry H} {m : g.Module} {settings : Settings}
    {w w' : World H} {i : Instance g H}
    (h : (instantiate registry m settings).run w = (.ok i, w')) :
    ∃ providers i₀ bridge w₁ w₂ w₃, (g.info m).otherImports = [] ∧
      (bind registry settings (g.info m)).run w₁ = (.ok providers, w₂) ∧
      (begin m providers (.ofSettings settings)).run w₂ = (.ok i₀, w₃) ∧
      bridge? g m = .ok bridge ∧ i = { i₀ with store := { i₀.store with bridge } } := by
  by_cases hm : (g.info m).otherImports = []
  · obtain ⟨events, hr⟩ := run_instantiate registry settings hm w
    rw [hr] at h
    obtain ⟨providers, w₂, hp, h⟩ := HostTask.of_bind h
    obtain ⟨i₀, w₃, bridge, hb, hg, hi⟩ := of_complete_ok h
    exact ⟨providers, i₀, bridge, _, w₂, w₃, hm, hp, hb, hg, hi⟩
  · rw [run_instantiate_other hm] at h
    cases h

theorem of_isOk {registry : Registry H} {m : g.Module} {settings : Settings} {w : World H}
    (h : ((instantiate registry m settings).run w).1.isOk = true) :
    ∃ i w', (instantiate registry m settings).run w = (.ok i, w') := by
  rcases ho : (instantiate registry m settings).run w with ⟨e | i, w'⟩ <;> rw [ho] at h
  · cases h
  · exact ⟨i, w', rfl⟩

theorem instantiate_providers {registry : Registry H} {m : g.Module} {settings : Settings}
    {w₁ w₂ w₁' w₂' : World H} {i j : Instance g H}
    (hi : (instantiate registry m settings).run w₁ = (.ok i, w₁'))
    (hj : (instantiate registry m settings).run w₂ = (.ok j, w₂')) :
    i.providers = j.providers := by
  obtain ⟨ps, i₀, b, u, u₁, u₂, -, hp, hb, -, rfl⟩ := of_instantiate hi
  obtain ⟨ps', j₀, b', v, v₁, v₂, -, hp', hb', -, rfl⟩ := of_instantiate hj
  have he : (Except.ok ps : Except Failure _) = .ok ps' := by
    have h := bind_settled registry settings (g.info m) u v
    rwa [hp, hp'] at h
  have h₁ : i₀.providers = ps.toArray := congrArg Stage.Fixed.providers (begin_fixed hb)
  have h₂ : j₀.providers = ps'.toArray := congrArg Stage.Fixed.providers (begin_fixed hb')
  rw [← Except.ok.inj he] at h₂
  exact h₁.trans h₂.symm

theorem instantiate_ready {registry : Registry H} {m : g.Module} {settings : Settings}
    {w w' : World H} {i : Instance g H}
    (h : (instantiate registry m settings).run w = (.ok i, w')) : i.Ready m settings := by
  obtain ⟨providers, i₀, bridge, w₁, w₂, w₃, -, -, hb, hm, rfl⟩ := of_instantiate h
  exact begin_ready hb hm

end Opening

namespace Stage

/-- After an accepted call an instance is spoilt or ready again. -/
theorem Accepts.ready {s s' : Stage g H} {name : String} {t body : Task g H α}
    {r : Except Failure α} {m : g.Module} {settings : Settings} (h : s.Accepts name t body)
    (hs : s.toInstance.Ready m settings) (ht : t.run s = (r, s')) :
    s'.store.poisoned = true ∨ s'.toInstance.Ready m settings := by
  rcases hb : body.run (s.begun name) with ⟨r₁, s₁⟩
  obtain ⟨A, adopted, C, c, s₂, hw, hr, hp⟩ := h.released hb
  obtain ⟨rfl, rfl⟩ := Prod.mk.inj (ht.symm.trans hp)
  cases hc : (s₂.ended name (surface name s₁.store.guestError r₁) c).store.poisoned with
  | true => exact .inl rfl
  | false =>
    have hf := hr.ended_steady hw
    have hv : (s₂.ended name (surface name s₁.store.guestError r₁) c).store.bridge =
        s.store.bridge := congrArg Fixed.bridge hf
    exact .inr {
      module := (congrArg Fixed.module hf).trans hs.module
      idle := ended_phase ..
      free := ended_call ..
      rested := congrArg Fixed.deadline hf
      sound := hc
      timeout := (congrArg Fixed.timeoutMillis hf).trans hs.timeout
      fuel := (congrArg Fixed.fuelLimit hf).trans hs.fuel
      pages := (congrArg Fixed.maxMemoryBytes hf).trans hs.pages
      system := (congrArg Fixed.system hf).trans hs.system
      bridge := by rw [hv, hs.bridge] }

end Stage

namespace Plugin

/-- Plugins that were opened and then used through their operations, in any order and among other
plugins of the same host. -/
inductive Opened : Plugin g H → Prop
  | opened (registry : Registry H) (m : g.Module) (settings : Settings) (w w' : World H)
      (i : Instance g H)
      (made : (Opening.instantiate registry m settings).run w = (.ok i, w')) :
      Opened ⟨m, settings, some i⟩
  | called (p : Plugin g H) (before : Opened p) (name : String) (input : Bytes) (w : World H) :
      Opened ((call name input).run (p, w)).2.1
  | calledValues (p : Plugin g H) (before : Opened p) (name : String) (args : List Value)
      (w : World H) : Opened ((callValues name args).run (p, w)).2.1
  | closed (p : Plugin g H) (before : Opened p) (w : World H) : Opened (close.run (p, w)).2.1
  | variableSet (p : Plugin g H) (before : Opened p) (key : String) (value : Bytes) :
      Opened (p.setVariable key value).2
  | variablesCleared (p : Plugin g H) (before : Opened p) : Opened p.clearVariables

def closes (r : Except Failure α) (s : Stage g H) : Bool :=
  s.store.poisoned || (match r with
    | .ok _ => false
    | .error e => e.isFatal)

theorem run_bind (t : PluginAction g H α) (f : α → PluginAction g H β) (x : Plugin g H × World H) :
    (t >>= f).run x = (f (t.run x).1).run (t.run x).2 := rfl

theorem run_calling_closed (name : String) (t : Task g H α) {p : Plugin g H} (hp : p.live = none)
    (w : World H) : (calling name t).run (p, w) = (.error .closed, (p, w)) := by
  obtain ⟨m, settings, live⟩ := p
  obtain rfl := hp
  rfl

def shared (name : String) (r : Except Failure α) (s : Stage g H) : World H :=
  if s.store.poisoned then s.world.log (.pluginClosed .cleanupFailed)
  else
    match r with
    | .ok _ => s.world
    | .error e =>
      if e.isFatal then (s.world.log (.fatalError name e)).log (.pluginClosed .fatalError)
      else s.world

/-- What a call comes to in an open plugin: the answer of its task, and an instance unless the call
closes the plugin. -/
theorem run_calling_open (name : String) (t : Task g H α) {p : Plugin g H} {i : Instance g H}
    (hp : p.live = some i) (w : World H) {r : Except Failure α} {s : Stage g H}
    (ht : t.run ⟨i, w, []⟩ = (r, s)) :
    (calling name t).run (p, w) =
      (r, { p with live := if closes r s then none else some s.toInstance },
        shared name r s) := by
  obtain ⟨m, settings, live⟩ := p
  obtain rfl := hp
  have ho : (onInstance t).run (⟨m, settings, some i⟩, w) =
      ((r, s.store.poisoned), (⟨m, settings, some s.toInstance⟩, s.world)) := by
    change onInstance t (⟨m, settings, some i⟩, w) = _
    simp only [onInstance, ht]
  have hg : (get : PluginAction g H _).run (⟨m, settings, some i⟩, w) =
      ((⟨m, settings, some i⟩, w), (⟨m, settings, some i⟩, w)) := rfl
  simp only [calling, run_bind, hg, isClosed, Option.isNone_some, Bool.false_eq_true, if_false, ho]
  cases hq : s.store.poisoned with
  | true =>
    have hd : closes r s = true := by simp [closes, hq]
    simp only [hd, shared, hq, if_true]
    rfl
  | false =>
    cases r with
    | ok a =>
      have hd : closes (.ok a : Except Failure α) s = false := by simp [closes, hq]
      simp only [hd, shared, hq]
      rfl
    | error e =>
      have hd : closes (.error e : Except Failure α) s = e.isFatal := by simp [closes, hq]
      cases hf : e.isFatal <;> simp only [hd, shared, hq, hf] <;> rfl

theorem run_calling (name : String) (t : Task g H α) {p : Plugin g H} {i : Instance g H}
    (hp : p.live = some i) (w : World H) {r : Except Failure α} {s : Stage g H}
    (ht : t.run ⟨i, w, []⟩ = (r, s)) :
    ((calling name t).run (p, w)).1 = r ∧
      ((calling name t).run (p, w)).2.1 =
        { p with live := if closes r s then none else some s.toInstance } := by
  rw [run_calling_open name t hp w ht]
  exact ⟨rfl, rfl⟩

/-- The instance that a plugin has after a call is the one that the call left. -/
theorem live_of_calling {name : String} {t : Task g H α} {p : Plugin g H} {i j : Instance g H}
    {w : World H} (hi : p.live = some i)
    (hj : ((calling name t).run (p, w)).2.1.live = some j) :
    (t.run ⟨i, w, []⟩).2.toInstance = j ∧ j.store.poisoned = false := by
  rcases hr : t.run ⟨i, w, []⟩ with ⟨r, s⟩
  rw [run_calling_open name t hi w hr] at hj
  cases hc : closes r s with
  | true =>
    rw [hc] at hj
    cases hj
  | false =>
    rw [hc] at hj
    obtain rfl : s.toInstance = j := Option.some.inj hj
    simp only [closes, Bool.or_eq_false_iff] at hc
    exact ⟨rfl, hc.1⟩

def Ready (p : Plugin g H) : Prop := ∀ i, p.live = some i → i.Ready p.module p.settings

/-- A call leaves a plugin closed, or with an instance that is ready. -/
theorem calling_ready {name : String} {t : Task g H α} {p : Plugin g H} (hp : p.Ready)
    (ht : Stage.Calling name t) (w : World H) : ((calling name t).run (p, w)).2.1.Ready := by
  intro j hj
  cases hl : p.live with
  | none =>
    rw [run_calling_closed name t hl, hl] at hj
    cases hj
  | some i =>
    obtain ⟨hs, hq⟩ := live_of_calling hl hj
    obtain ⟨-, hc⟩ := run_calling name t hl w (Prod.eta _).symm
    rw [hc, ← hs]
    rcases ht ⟨i, w, []⟩ with ⟨body, ha⟩ | ⟨e, he⟩
    · rcases ha.ready (hp i hl) (Prod.eta _).symm with hn | hn
      · rw [← hs, hn] at hq
        cases hq
      · exact hn
    · rw [he.run_eq]
      exact hp i hl

theorem ready_of_variables {i : Instance g H} {m : g.Module} {settings : Settings}
    (h : i.Ready m settings) (vars : Variables) :
    ({ i with store := { i.store with vars } } : Instance g H).Ready m settings := by
  obtain ⟨hm, hi, hf, hr, hs, ht, hu, hp, hy, hb⟩ := h
  exact ⟨hm, hi, hf, hr, hs, ht, hu, hp, hy, hb⟩

/-- Between its operations an open plugin is always ready. -/
theorem Opened.ready {p : Plugin g H} (h : p.Opened) : p.Ready := by
  induction h with
  | opened registry m settings w w' j made =>
    intro i hi
    obtain rfl := Option.some.inj hi
    exact Opening.instantiate_ready made
  | called p before name input w ih =>
    exact calling_ready ih (Stage.call_calling name input) w
  | calledValues p before name args w ih =>
    exact calling_ready ih (Stage.callValues_calling name args) w
  | closed p before w ih =>
    intro i hi
    obtain ⟨m, settings, live⟩ := p
    cases live <;> cases hi
  | variableSet p before key value ih =>
    intro i hi
    obtain ⟨m, settings, live⟩ := p
    cases live with
    | none => cases hi
    | some j =>
      simp only [setVariable] at hi ⊢
      cases hv : j.store.vars.set key value with
      | ok vars =>
        rw [hv] at hi
        obtain rfl := Option.some.inj hi
        exact ready_of_variables (ih j rfl) vars
      | error e =>
        rw [hv] at hi
        exact ih i hi
  | variablesCleared p before ih =>
    intro i hi
    obtain ⟨m, settings, live⟩ := p
    cases live with
    | none => cases hi
    | some j =>
      obtain rfl := Option.some.inj hi
      exact ready_of_variables (ih j rfl) j.store.vars.clear

end Plugin

end PluginHost
