import PluginHost.Proofs.Linking
/-!
What stands behind each imported function of an opened plugin, and which modules are not opened
because something has nothing to stand behind it. Guest code that calls a stub ends there.
-/
namespace PluginHost
variable {g : Guest} {H α β : Type}

namespace Binder

variable {b : Binder H} {i : FunctionImport} {imports : List FunctionImport} {e : Failure}
  {ps qs : List (Provider H)}

theorem Binds.unique (hr : b.registry.Built) (h : b.Binds imports ps) (h' : b.Binds imports qs) :
    ps = qs :=
  List.right_unique_forall₂' (fun _ _ _ hp hq => hp.serves.unique hr hq.serves) h.fits h'.fits

/-- Each import that cannot be linked is the fault of module or registry. -/
theorem Refuses.kind_eq (h : b.Refuses i e) :
    e.kind = .instantiation ∨ e.kind = .unsupportedFeature := by
  cases h with
  | systemCall => exact .inr rfl
  | service => exact .inl rfl
  | function => exact .inl rfl
  | unresolved => exact .inl rfl
  | reference => exact .inr rfl

end Binder

def Failure.IsDefinedTwice (e : Failure) : Prop :=
  ∃ attempt ns name, e = .opening (.definedTwice attempt ns name)

theorem Binder.Refuses.not_definedTwice {b : Binder H} {i : FunctionImport} {e : Failure}
    (h : b.Refuses i e) : ¬ e.IsDefinedTwice := by
  rintro ⟨attempt, ns, name, he⟩
  cases h <;> cases he

def Settings.binder (s : Settings) (registry : Registry H) : Binder H :=
  ⟨registry, s.enableWasi, s.allowUnresolvedImports⟩

namespace Opening

def Bound (b : Binder H) (imports : List FunctionImport) :
    Except Failure (List (Provider H)) → Prop
  | .ok ps => b.Binds imports ps
  | .error e => (¬ ∃ ps, b.Binds imports ps) ∧
      (e.kind = .instantiation ∨ e.kind = .unsupportedFeature) ∧ ¬ e.IsDefinedTwice

/-- Binding links all imports and then takes their providers from what was linked. -/
theorem run_bind {registry : Registry H} {settings : Settings} {info : ModuleInfo}
    {r : Except Failure (Linker H)} {events : List Log.Event}
    (hs : ((settings.binder registry).linkAll info.imports).run [] = (r, events)) (w : World H) :
    (bind registry settings info).run w =
      (r >>= fun l => provide l info.imports, w.logAll events) := by
  unfold bind
  unfold Settings.binder at hs
  simp only [hs]
  cases r >>= fun l => provide l info.imports <;> rfl

theorem bind_bound {registry : Registry H} (hr : registry.Built) (settings : Settings)
    (info : ModuleInfo) (w : World H) :
    ∃ r events, (bind registry settings info).run w = (r, w.logAll events) ∧
      Bound (settings.binder registry) info.imports r := by
  have hl := (settings.binder registry).linkAll_links hr info.imports []
  rcases hs : ((settings.binder registry).linkAll info.imports).run [] with ⟨r, events⟩
  have hb := run_bind hs w
  rw [hs] at hl
  refine ⟨_, events, hb, ?_⟩
  cases r with
  | error e =>
    obtain ⟨i, hi, hn⟩ := hl
    refine ⟨?_, hn.kind_eq, hn.not_definedTwice⟩
    rintro ⟨ps, hps⟩
    obtain ⟨n, hk⟩ := List.getElem?_of_mem hi
    obtain ⟨p, -, hp⟩ := Binder.forall₂_getElem? hps.fits hk
    exact hn.not_fits hr hp
  | ok linker =>
    obtain ⟨hd, -, hc⟩ := hl
    change Bound _ _ (provide linker info.imports)
    unfold provide
    cases hp : Binder.providers? linker info.imports with
    | some ps => exact hd.binds hp
    | none =>
      refine ⟨?_, .inl rfl, ?_⟩
      · rintro ⟨ps, hps⟩
        rw [hps.providers?_eq hr hd hc] at hp
        cases hp
      · rintro ⟨attempt, ns, name, he⟩
        cases he

/-- How the imports of a module decide whether it is opened, and what stands behind them then. -/
structure ByPriority (registry : Registry H) (m : g.Module) (settings : Settings) (w : World H) :
    Prop where
  /-- Opened instances have a provider that fits for each import in turn. -/
  bound : ∀ i w', (instantiate registry m settings).run w = (.ok i, w') →
    (g.info m).otherImports = [] ∧
      (settings.binder registry).Binds (g.info m).imports i.providers.toList
  /-- Other modules are refused before any of their code runs. -/
  refused : (¬ ((g.info m).otherImports = [] ∧
      ∃ ps, (settings.binder registry).Binds (g.info m).imports ps)) →
    ∃ e events, (instantiate registry m settings).run w = (.error e, w.logAll events) ∧
      (e.kind = .instantiation ∨ e.kind = .unsupportedFeature)
  /-- Where all imports have providers that fit, only start computation and exports are left to
  decide. -/
  decided : (g.info m).otherImports = [] →
    ∀ ps, (settings.binder registry).Binds (g.info m).imports ps →
    ∃ events, ((∃ i, ((instantiate registry m settings).run w).1 = .ok i) ↔
      (∃ i, ((begin m ps (.ofSettings settings)).run (w.logAll events)).1 = .ok i) ∧
        ∃ bridge, bridge? g m = .ok bridge)
  /-- No name is ever defined twice, nor is that tried. -/
  once : ∀ linker events,
    ((settings.binder registry).linkAll (g.info m).imports).run [] = (.ok linker, events) →
      (linker.map Prod.fst).Nodup
  untried : ∀ e w', (instantiate registry m settings).run w = (.error e, w') → ¬ e.IsDefinedTwice
  /-- Guest code that calls a stub ends there. -/
  stubbed : ∀ ps, (settings.binder registry).Binds (g.info m).imports ps →
    ∀ (s : Stage g H) (n index depth : Nat) (args : List Value) (caller : Caller)
      (code code' : g.Code) (t : g.State) (f : FunctionImport),
      s.providers = ps.toArray → (g.info m).imports[index]? = some f →
      (settings.binder registry).Serves f (.unresolved f.ns f.name f.signature) →
      g.step s.module code s.guest = .call index args caller depth code' t →
      Stage.execute (n + 1) code s =
        (.error (.raised (.unknownImport f.ns f.name)), { s with guest := t })

variable {registry : Registry H} {m : g.Module} {settings : Settings} {w w' : World H}

theorem bridge?_not_definedTwice {e : Failure} (h : bridge? g m = .error e) :
    ¬ e.IsDefinedTwice := by
  rintro ⟨attempt, ns, name, rfl⟩
  unfold bridge? at h
  repeat' split at h
  all_goals cases h

theorem begin_not_definedTwice {ps : List (Provider H)} {t : Store} {e : Failure}
    (h : (begin m ps t).run w = (.error e, w')) : ¬ e.IsDefinedTwice := by
  rintro ⟨attempt, ns, name, rfl⟩
  simp only [begin, ExceptT.run_mk] at h
  split at h
  split at h <;> cases h

/-- What a module comes to whose imports are all functions. -/
theorem instantiate_bound (hr : registry.Built) (hm : (g.info m).otherImports = [])
    (settings : Settings) (w : World H) :
    ∃ r events, Bound (settings.binder registry) (g.info m).imports r ∧
      (instantiate registry m settings).run w =
        match r with
        | .error e => (.error e, w.logAll events)
        | .ok ps => (complete m settings ps).run (w.logAll events) := by
  obtain ⟨before, hi⟩ := run_instantiate registry settings hm w
  obtain ⟨r, events, hb, hB⟩ := bind_bound hr settings (g.info m) (w.logAll before)
  have hw : (w.logAll before).logAll events = w.logAll (before ++ events) := by
    simp [World.logAll, Log.Journal.emitAll]
  refine ⟨r, before ++ events, hB, ?_⟩
  rw [hi, run_fallible_bind, hb, hw]
  cases r <;> rfl

/-- Imports are bound by one priority and in no other way, however many there are, in whatever order
and however often one is repeated. -/
theorem instantiate_by_priority (hr : registry.Built) (m : g.Module) (settings : Settings)
    (w : World H) : ByPriority registry m settings w where
  bound := by
    intro i w' h
    obtain ⟨ps, i₀, bridge, w₁, w₂, w₃, hm, hb, hs, -, rfl⟩ := of_instantiate h
    refine ⟨hm, ?_⟩
    have hp : i₀.providers = ps.toArray := congrArg Stage.Fixed.providers (begin_fixed hs)
    obtain ⟨r, events, hb', hB⟩ := bind_bound hr settings (g.info m) w₁
    rw [hb] at hb'
    rw [← (Prod.mk.inj hb').1] at hB
    rw [hp]
    exact hB
  refused := by
    intro hn
    by_cases hm : (g.info m).otherImports = []
    · obtain ⟨r, events, hB, hi⟩ := instantiate_bound hr hm settings w
      cases r with
      | ok ps => exact absurd ⟨hm, ps, hB⟩ hn
      | error e => exact ⟨e, events, hi, hB.2.1⟩
    · exact ⟨_, [], run_instantiate_other hm w, .inl rfl⟩
  decided := by
    intro hm ps hps
    obtain ⟨r, events, hB, hi⟩ := instantiate_bound hr hm settings w
    cases r with
    | error e => exact absurd ⟨ps, hps⟩ hB.1
    | ok qs =>
      obtain rfl : qs = ps := Binder.Binds.unique hr hB hps
      refine ⟨events, ?_⟩
      rw [hi]
      exact complete_ok_iff m settings qs (w.logAll events)
  once := by
    intro linker events hl
    have h := (settings.binder registry).linkAll_links hr (g.info m).imports []
    rw [hl] at h
    exact h.1.once
  untried := by
    intro e w' h
    by_cases hm : (g.info m).otherImports = []
    · obtain ⟨r, events, hB, hi⟩ := instantiate_bound hr hm settings w
      rw [hi] at h
      cases r with
      | error e' =>
        obtain rfl := Except.error.inj (Prod.mk.inj h).1
        exact hB.2.2
      | ok ps => exact (of_complete_error h).elim begin_not_definedTwice bridge?_not_definedTwice
    · rw [run_instantiate_other hm] at h
      rintro ⟨attempt, ns, name, rfl⟩
      cases h
  stubbed := by
    intro ps hps s n index depth args caller code code' t f hs hf hu hc
    obtain ⟨p, hp, hfit⟩ := Binder.forall₂_getElem? hps.fits hf
    obtain rfl : p = .unresolved f.ns f.name f.signature := hfit.serves.unique hr hu
    have hl : s.providers[index]? = some (.unresolved f.ns f.name f.signature) := by
      rw [hs, List.getElem?_toArray, hp]
    rw [Stage.execute_succ, hc]
    simp only [hl]
    rfl

end Opening

namespace Wasm

def importer : Program where
  imports := [
    ⟨Name.serviceNamespace, "log_info", .function ⟨[.i32, .i32], []⟩⟩,
    ⟨"env", "same", .function ⟨[.i32], [.i32]⟩⟩, ⟨"env", "same", .function ⟨[.i32], [.i32]⟩⟩,
    ⟨"env", "missing", .function ⟨[], []⟩⟩]
  exports := []
  imported := #[⟨[.i32, .i32], []⟩, ⟨[.i32], [.i32]⟩, ⟨[.i32], [.i32]⟩, ⟨[], []⟩]
  functions := #[]
  types := #[]
  memories := []
  tables := []
  globals := []
  elems := #[]
  data := #[]
  start := none

def same : HostFunction Unit := .ofValues "same" ⟨[.i32], [.i32]⟩ fun args => .done args

end Wasm

namespace Opening
open Wasm

theorem importer_bound_by_priority :
    (⟨[same]⟩ : Registry Unit).Built ∧
      ∃ i w', (instantiate (g := engine) ⟨[same]⟩ importer
          { allowUnresolvedImports := true }).run
          ⟨.start none "" default, ()⟩ = (.ok i, w') ∧
        i.providers.toList = [.service (.log .info), .function same, .function same,
          .unresolved "env" "missing" ⟨[], []⟩] ∧
        (Settings.binder { allowUnresolvedImports := true } ⟨[same]⟩).Binds
          (engine.info importer).imports i.providers.toList := by
  have hr : (⟨[same]⟩ : Registry Unit).Built := .register .empty _ same .empty rfl
  have hp := instantiate_by_priority (g := engine) hr importer
    { allowUnresolvedImports := true } ⟨.start none "" default, ()⟩
  exact ⟨hr, _, _, rfl, rfl, (hp.bound _ _ rfl).2⟩

end Opening

end PluginHost
