import PluginHost.Proofs.Binding
import PluginHost.Proofs.Loading
/-!
Which modules are refused because they import a system call that there is none of. Imports are
looked at in order, and what was linked for a name stays: so of the imports of one name the first
decides whether a stub can stand for them, and with it the kind of the failure.
-/
namespace PluginHost
variable {g : Guest} {H : Type}

namespace FunctionImport

def Alike (i j : FunctionImport) : Prop := i.ns = j.ns ∧ i.name = j.name

instance (i j : FunctionImport) : Decidable (i.Alike j) := inferInstanceAs (Decidable (_ ∧ _))

def Missing (i : FunctionImport) : Prop :=
  i.ns = Name.systemNamespace ∧ SystemCall.ofName? i.name = none

def Leads (is : List FunctionImport) (i : FunctionImport) : Prop :=
  is.find? (fun j => j.Alike i) = some i

variable {is : List FunctionImport} {i j : FunctionImport}

theorem leads_cons : Leads (i :: is) j ↔ i = j ∨ ¬ i.Alike j ∧ Leads is j := by
  unfold Leads
  by_cases h : i.Alike j
  · simp [h]
  · have hn : i ≠ j := by
      rintro rfl
      exact h ⟨rfl, rfl⟩
    simp [h, hn]

theorem Leads.mem (h : Leads is i) : i ∈ is := List.mem_of_find?_eq_some h

theorem exists_leads (h : i ∈ is) : ∃ j, Leads is j ∧ j.Alike i := by
  induction is with
  | nil => cases h
  | cons k is ih =>
    by_cases hk : k.Alike i
    · exact ⟨k, leads_cons.mpr (.inl rfl), hk⟩
    · have hm : i ∈ is := by
        rcases List.mem_cons.mp h with rfl | hm
        · exact absurd ⟨rfl, rfl⟩ hk
        · exact hm
      obtain ⟨j, hj, ha⟩ := ih hm
      refine ⟨j, leads_cons.mpr (.inr ⟨fun hkj => hk ⟨hkj.1.trans ha.1, hkj.2.trans ha.2⟩, hj⟩), ha⟩

/-- A stub can stand for all imports of a missing system call, or for none. -/
def Consistent (imports : List FunctionImport) : Prop :=
  ∀ i ∈ imports, ∀ j ∈ imports, i.Alike j → i.Missing →
    (i.signature.results = [.i32] ↔ j.signature.results = [.i32])

theorem Consistent.perm {js : List FunctionImport} (h : Consistent is) (hp : js.Perm is) :
    Consistent js :=
  fun i hi j hj => h i (hp.mem_iff.mp hi) j (hp.mem_iff.mp hj)

end FunctionImport

namespace Binder
open FunctionImport

/-- A stub answers with one number, so it stands for imports with no other results. -/
theorem run_stub {i : FunctionImport} (hosted : i.signature.isHosted = true)
    (es : List Log.Event) :
    (stub i : Choice (Provider H)).run es =
      if i.signature.results = [.i32] then
        (.ok (.noSystem i.name i.signature), es ++ [.systemCallStub i.name])
      else (.error (.unsupported (.systemCall i.name i.signature)), es) := by
  unfold stub
  simp only [Choice.requireHosted_eq]
  by_cases hr : i.signature.results = [.i32]
  · simp only [hr, hosted, ne_eq, not_true_eq_false, if_false, if_true]
    rfl
  · simp only [hr, ne_eq, not_false_eq_true, if_true, if_false]
    rfl

def Stuck (linker : Linker H) (i : FunctionImport) : Prop :=
  linker.lookup (i.ns, i.name) = none ∧ i.signature.results ≠ [.i32]

theorem stuck_defined (linker : Linker H) (i j : FunctionImport) (p : Provider H) :
    Stuck (linker ++ [((i.ns, i.name), p)]) j ↔ ¬ i.Alike j ∧ Stuck linker j := by
  have ha : (j.ns, j.name) = (i.ns, i.name) ↔ i.Alike j := by
    simp [Alike, eq_comm]
  unfold Stuck
  rw [lookup_defined, Option.or_eq_none_iff]
  by_cases h : i.Alike j
  · simp [ha.mpr h, h]
  · simp [mt ha.mp h, h]

/-- Linking stubs fails exactly if there is no stub for an import that is the first of its name. -/
theorem linkStubs_fails_iff {is : List FunctionImport}
    (hosted : ∀ i ∈ is, i.signature.isHosted = true) (linker : Linker H) (es : List Log.Event) :
    (∃ e, ((linkStubs is linker).run es).1 = .error e) ↔ ∃ i, Leads is i ∧ Stuck linker i := by
  -- What is linked for one import is there for all that are alike, which later rounds pass over.
  induction is generalizing linker es with
  | nil =>
    constructor
    · rintro ⟨e, he⟩
      cases he
    · rintro ⟨i, hi, -⟩
      cases hi.mem
  | cons i is ih =>
    obtain ⟨hi, his⟩ := List.forall_mem_cons.mp hosted
    unfold linkStubs
    cases hl : linker.lookup (i.ns, i.name) with
    | some p =>
      simp only [Option.isSome_some, if_true]
      rw [ih his]
      -- Imports that are alike have their provider, so none of them is stuck.
      have hs {j : FunctionImport} (hj : Stuck linker j) : ¬ i.Alike j := by
        rintro ⟨hns, hname⟩
        rw [hns, hname, hj.1] at hl
        cases hl
      constructor
      · rintro ⟨j, hj, hj'⟩
        exact ⟨j, leads_cons.mpr (.inr ⟨hs hj', hj⟩), hj'⟩
      · rintro ⟨j, hj, hj'⟩
        rcases leads_cons.mp hj with rfl | ⟨-, hj⟩
        · exact absurd ⟨rfl, rfl⟩ (hs hj')
        · exact ⟨j, hj, hj'⟩
    | none =>
      simp only [Option.isSome_none, Bool.false_eq_true, if_false, run_fallible_bind,
        run_stub hi]
      by_cases hr : i.signature.results = [.i32]
      · simp only [hr, if_true, Choice.run_define linker _ _ _ _ hl]
        rw [ih his]
        simp only [stuck_defined]
        constructor
        · rintro ⟨j, hj, ha, hj'⟩
          exact ⟨j, leads_cons.mpr (.inr ⟨ha, hj⟩), hj'⟩
        · rintro ⟨j, hj, hj'⟩
          rcases leads_cons.mp hj with rfl | ⟨ha, hj⟩
          · exact absurd hr hj'.2
          · exact ⟨j, hj, ha, hj'⟩
      · simp only [hr, if_false]
        exact ⟨fun _ => ⟨i, leads_cons.mpr (.inl rfl), hl, hr⟩, fun _ => ⟨_, rfl⟩⟩

/-- Imports of the system interface are alike only to such imports. -/
theorem leads_filter_iff (b : Binder H) (imports : List FunctionImport) (i : FunctionImport) :
    Leads (imports.filter b.isSystem) i ↔ Leads imports i ∧ b.isSystem i = true := by
  unfold Leads
  rw [List.find?_filter]
  have hs {j : FunctionImport} (h : j.Alike i) : b.isSystem j = b.isSystem i := by
    unfold isSystem
    rw [h.1]
  cases hi : b.isSystem i with
  | true =>
    have hp : (fun j => b.isSystem j && decide (j.Alike i)) = fun j => decide (j.Alike i) := by
      funext j
      by_cases h : j.Alike i
      · simp [h, hs h, hi]
      · simp [h]
    simp [hp]
  | false =>
    simp only [Bool.false_eq_true, and_false, iff_false]
    intro h
    have hj := List.find?_some h
    simp [hi] at hj

variable {b : Binder H} {imports : List FunctionImport}

def Unstubbed (imports : List FunctionImport) (i : FunctionImport) : Prop :=
  Leads imports i ∧ i.Missing ∧ i.signature.results ≠ [.i32]

theorem stuck_systemLinker_iff {i : FunctionImport} (hi : i.ns = Name.systemNamespace) :
    Stuck (systemLinker SystemCall.all : Linker H) i ↔
      SystemCall.ofName? i.name = none ∧ i.signature.results ≠ [.i32] := by
  unfold Stuck SystemCall.ofName?
  rw [lookup_systemLinker, if_pos hi, Option.map_eq_none_iff]

theorem exists_unstubbed_iff (hc : Consistent imports) :
    (∃ i, Unstubbed imports i) ↔ ∃ i ∈ imports, i.Missing ∧ i.signature.results ≠ [.i32] := by
  constructor
  · rintro ⟨i, hl, hm, hr⟩
    exact ⟨i, hl.mem, hm, hr⟩
  · rintro ⟨i, hi, hm, hr⟩
    obtain ⟨j, hj, hns, hname⟩ := exists_leads hi
    refine ⟨j, hj, ⟨hns.trans hm.1, hname ▸ hm.2⟩, fun h => hr ?_⟩
    exact (hc i hi j hj.mem ⟨hns.symm, hname.symm⟩ hm).mpr h

theorem linkStubs_systemLinker_fails_iff (hw : b.enableWasi = true)
    (hosted : ∀ i ∈ imports, i.signature.isHosted = true) (es : List Log.Event) :
    (∃ e, ((linkStubs (imports.filter b.isSystem) (systemLinker SystemCall.all : Linker H)).run
      es).1 = .error e) ↔ ∃ i, Unstubbed imports i := by
  rw [linkStubs_fails_iff fun i hi => hosted i (List.mem_filter.mp hi).1]
  refine exists_congr fun i => ?_
  rw [leads_filter_iff, isSystem_eq_true_iff]
  constructor
  · rintro ⟨⟨hl, -, hn⟩, hs⟩
    obtain ⟨hu, hr⟩ := (stuck_systemLinker_iff hn).mp hs
    exact ⟨hl, ⟨hn, hu⟩, hr⟩
  · rintro ⟨hl, ⟨hn, hu⟩, hr⟩
    exact ⟨⟨hl, hw, hn⟩, (stuck_systemLinker_iff hn).mpr ⟨hu, hr⟩⟩

/-- Linking fails for a missing system call exactly if nothing stands for one that is imported; any
other failure is another kind. -/
theorem linkAll_unsupported_iff (hr : b.registry.Built) (hw : b.enableWasi = true)
    (hosted : ∀ i ∈ imports, i.signature.isHosted = true) (es : List Log.Event) :
    (∃ e, ((b.linkAll imports).run es).1 = .error e ∧ e.kind = .unsupportedFeature) ↔
      ∃ i, Unstubbed imports i := by
  have hl : b.Linked (imports.filter b.isSystem) (systemLinker SystemCall.all) :=
    (linked_systemLinker hw).mono fun i hi => by cases hi
  have hs := linkStubs_links (fun i hi => (List.mem_filter.mp hi).2)
    (imports.filter b.isSystem) (fun _ hi => hi) _ hl es
  rw [← linkStubs_systemLinker_fails_iff hw hosted es]
  unfold linkAll
  simp only [hw, if_true, run_fallible_bind,
    run_addSystem SystemCall.all ([] : Linker H) es calls_nodup (by simp), List.nil_append]
  rcases ht : (linkStubs (imports.filter b.isSystem) (systemLinker SystemCall.all : Linker H)).run
    es with ⟨e | l, es'⟩ <;> rw [ht] at hs
  · obtain ⟨i, hi, he⟩ := hs
    have hsys := (List.mem_filter.mp hi).2
    have hk : e.kind = .unsupportedFeature := by
      cases he <;> simp_all [Failure.kind]
    exact ⟨fun _ => ⟨e, rfl⟩, fun _ => ⟨e, rfl, hk⟩⟩
  · have ho := hs.1.linkOthers_own hr es'
    constructor
    · rintro ⟨e, he, hk⟩
      dsimp only at he
      rw [he] at ho
      obtain ⟨i, hi, hn⟩ := ho
      obtain ⟨him, hsys⟩ := List.mem_filter.mp hi
      have hh := hosted i him
      cases hn <;> simp_all [Failure.kind]
    · rintro ⟨e, he⟩
      cases he

end Binder

namespace Opening
open FunctionImport Binder
variable {m : g.Module} {registry : Registry H} {settings : Settings} {w w' : World H}
  {e : Failure}

/-- What fails behind the imports is the fault of the module alone. -/
theorem complete_kind {ps : List (Provider H)}
    (h : (complete m settings ps).run w = (.error e, w')) : e.kind = .instantiation := by
  rcases of_complete_error h with hs | hg
  · simp only [begin, ExceptT.run_mk] at hs
    split at hs
    split at hs <;> cases hs
    rfl
  · unfold bridge? at hg
    repeat' split at hg
    all_goals cases hg <;> rfl

theorem provide_kind {linker : Linker H} {imports : List FunctionImport}
    (h : provide linker imports = .error e) : e.kind = .instantiation := by
  unfold provide at h
  split at h <;> cases h
  rfl

def Unsupported (registry : Registry H) (m : g.Module) (settings : Settings) (w : World H) : Prop :=
  ∃ e w', (instantiate registry m settings).run w = (.error e, w') ∧ e.kind = .unsupportedFeature

theorem unsupported_iff_kind (h : (instantiate registry m settings).run w = (.error e, w')) :
    Unsupported registry m settings w ↔ e.kind = .unsupportedFeature := by
  constructor
  · rintro ⟨e', u, he, hk⟩
    obtain rfl := Except.error.inj (Prod.mk.inj (h.symm.trans he)).1
    exact hk
  · exact fun hk => ⟨e, w', h, hk⟩

theorem linkAll_of_unsupported (hm : (g.info m).otherImports = [])
    (h : (instantiate registry m settings).run w = (.error e, w'))
    (hk : e.kind = .unsupportedFeature) :
    (((settings.binder registry).linkAll (g.info m).imports).run []).1 = .error e := by
  obtain ⟨before, hi⟩ := run_instantiate registry settings hm w
  rw [hi, run_fallible_bind] at h
  rcases hs : ((settings.binder registry).linkAll (g.info m).imports).run [] with ⟨e' | l, events⟩
  · rw [run_bind hs] at h
    exact congrArg Except.error (Except.error.inj (Prod.mk.inj h).1)
  · rw [run_bind hs] at h
    have hk' : e.kind = .instantiation := by
      have hl : ((Except.ok l : Except Failure (Linker H)) >>=
          fun l => provide l (g.info m).imports) = provide l (g.info m).imports := rfl
      rw [hl] at h
      cases hp : provide l (g.info m).imports with
      | error e' =>
        rw [hp] at h
        obtain rfl := Except.error.inj (Prod.mk.inj h).1
        exact provide_kind hp
      | ok ps =>
        rw [hp] at h
        exact complete_kind h
    rw [hk'] at hk
    cases hk

/-- Opening fails for a missing feature exactly if linking does. -/
theorem unsupported_iff (hm : (g.info m).otherImports = []) :
    Unsupported registry m settings w ↔
      ∃ e, (((settings.binder registry).linkAll (g.info m).imports).run []).1 = .error e ∧
        e.kind = .unsupportedFeature := by
  constructor
  · rintro ⟨e, w', he, hk⟩
    exact ⟨e, linkAll_of_unsupported hm he hk, hk⟩
  · rintro ⟨e, he, hk⟩
    obtain ⟨before, hi⟩ := run_instantiate registry settings hm w
    rcases hs : ((settings.binder registry).linkAll (g.info m).imports).run [] with ⟨r, events⟩
    obtain rfl : r = .error e := by rwa [hs] at he
    refine ⟨e, (w.logAll before).logAll events, ?_, hk⟩
    rw [hi, run_fallible_bind, run_bind hs]
    rfl

/-- Whatever a module with imported functions is refused for, it is one of two kinds. -/
theorem instantiate_kind (hr : registry.Built) (hm : (g.info m).otherImports = [])
    (h : (instantiate registry m settings).run w = (.error e, w')) :
    e.kind = .instantiation ∨ e.kind = .unsupportedFeature := by
  obtain ⟨r, events, hb, hi⟩ := instantiate_bound hr hm settings w
  rw [hi] at h
  cases r with
  | error e' =>
    obtain rfl := Except.error.inj (Prod.mk.inj h).1
    exact hb.2.1
  | ok ps => exact .inl (complete_kind h)

end Opening

namespace Wasm
open FunctionImport Binder Opening

structure Decides (registry : Registry H) (p : Program) (settings : Settings) : Prop where
  /-- Of the imports of a missing system call the first decides. -/
  first : ∀ w, Unsupported (g := engine) registry p settings w ↔
    ∃ i, Unstubbed (engine.info p).imports i
  /-- If these agree, any one of them does. -/
  any : Consistent (engine.info p).imports → ∀ w,
    Unsupported (g := engine) registry p settings w ↔
      ∃ i ∈ (engine.info p).imports, i.Missing ∧ i.signature.results ≠ [.i32]
  kinds : ∀ w e w', (instantiate (g := engine) registry p settings).run w = (.error e, w') →
    e.kind = .instantiation ∨ e.kind = .unsupportedFeature
  /-- Then the order has no say in the kind of the failure. -/
  order : Consistent (engine.info p).imports → ∀ bytes q, engine.load bytes = .ok q →
    (engine.info q).otherImports = [] → (engine.info q).imports.Perm (engine.info p).imports →
    ∀ w w' u u' e e', (instantiate (g := engine) registry p settings).run w = (.error e, w') →
      (instantiate (g := engine) registry q settings).run u = (.error e', u') → e.kind = e'.kind

theorem unsupported_iff_unstubbed {bytes : Bytes} {p : Program}
    (loaded : engine.load bytes = .ok p) (functions : (engine.info p).otherImports = [])
    {registry : Registry H} (built : registry.Built) {settings : Settings}
    (enabled : settings.enableWasi = true) (w : World H) :
    Unsupported (g := engine) registry p settings w ↔
      ∃ i, Unstubbed (engine.info p).imports i := by
  rw [Opening.unsupported_iff functions]
  exact linkAll_unsupported_iff (b := settings.binder registry) built enabled
    (fun i hi => imports_hosted loaded hi) []

/-- A loaded module is refused for a missing feature, where system calls are enabled, exactly if the
first import of some missing system call has other results than one number. That any such import
will do, in any place, holds only where those of one name agree. -/
theorem missing_system_call_decides {bytes : Bytes} {p : Program}
    (loaded : engine.load bytes = .ok p) (functions : (engine.info p).otherImports = [])
    {registry : Registry H} (built : registry.Built) {settings : Settings}
    (enabled : settings.enableWasi = true) : Decides registry p settings where
  first := unsupported_iff_unstubbed loaded functions built enabled
  any hc w :=
    (unsupported_iff_unstubbed loaded functions built enabled w).trans (exists_unstubbed_iff hc)
  kinds w e w' := instantiate_kind built functions
  order := by
    intro hc bytes' q hq hm hp w w' u u' e e' he he'
    have hi : (∃ i, Unstubbed (engine.info q).imports i) ↔
        ∃ i, Unstubbed (engine.info p).imports i := by
      rw [exists_unstubbed_iff hc, exists_unstubbed_iff (hc.perm hp)]
      simp only [hp.mem_iff]
    have hu : e.kind = .unsupportedFeature ↔ e'.kind = .unsupportedFeature := by
      rw [← unsupported_iff_kind he, ← unsupported_iff_kind he',
        unsupported_iff_unstubbed loaded functions built enabled,
        unsupported_iff_unstubbed hq hm built enabled, hi]
    rcases instantiate_kind built functions he with hk | hk <;>
      rcases instantiate_kind built hm he' with hk' | hk' <;> simp_all

namespace Absent
open Typing

def types : List SubType := [functionType [] [.i32], functionType [] []]

def module (places : List Nat) : Module where
  types := types.toArray
  groups := [⟨1, false⟩, ⟨1, false⟩]
  imports := places.map fun t => ⟨Name.systemNamespace, "no_such", .function t⟩

def importBytes (place : UInt8) : Bytes :=
  [22, 119, 97, 115, 105, 95, 115, 110, 97, 112, 115, 104, 111, 116, 95, 112, 114, 101, 118, 105,
    101, 119, 49, 7, 110, 111, 95, 115, 117, 99, 104, 0, place]

def bytes (places : List UInt8) : Bytes :=
  [0, 97, 115, 109, 1, 0, 0, 0, 1, 8, 2, 96, 0, 1, 127, 96, 0, 0, 2] ++
    [UInt8.ofNat (1 + 33 * places.length), UInt8.ofNat places.length] ++ places.flatMap importBytes

theorem checkModule_eq (features : Features) (hf : features = .all ∨ features = .engine)
    (places : List Nat) (hp : places = [1] ∨ places = [0, 1] ∨ places = [1, 0]) :
    checkModule features (module places) = .ok () := by
  have hd : distinct ((module places).exports.map ModuleExport.name) = true :=
    (distinct_iff _).mpr (by simp [module])
  have ht : ∀ s ∈ types, Types.Plain s := by
    simp only [types, List.forall_mem_cons]
    exact ⟨⟨rfl, rfl, fun _ => rfl⟩, ⟨rfl, rfl, fun _ => rfl⟩, by simp⟩
  obtain ⟨seen, ht⟩ := Types.addGroups_plain ht (by decide)
  have ht : Types.addGroups {} (module places).types (module places).groups = _ := ht
  unfold checkModule moduleType addTypes
  rw [show Types.restart {} = {} from rfl, ht, hd]
  rcases hf with rfl | rfl <;> rcases hp with rfl | rfl | rfl <;> rfl

theorem loads : engine.load (bytes [1]) = .ok (.ofModule (module [1])) :=
  (load_eq_ok_iff ..).mpr ⟨module [1], rfl, checkModule_eq _ (.inl rfl) _ (.inl rfl),
    checkModule_eq _ (.inr rfl) _ (.inl rfl), rfl⟩

theorem twice_loads : engine.load (bytes [0, 1]) = .ok (.ofModule (module [0, 1])) :=
  (load_eq_ok_iff ..).mpr ⟨module [0, 1], rfl, checkModule_eq _ (.inl rfl) _ (.inr (.inl rfl)),
    checkModule_eq _ (.inr rfl) _ (.inr (.inl rfl)), rfl⟩

theorem reversed_loads : engine.load (bytes [1, 0]) = .ok (.ofModule (module [1, 0])) :=
  (load_eq_ok_iff ..).mpr ⟨module [1, 0], rfl, checkModule_eq _ (.inl rfl) _ (.inr (.inr rfl)),
    checkModule_eq _ (.inr rfl) _ (.inr (.inr rfl)), rfl⟩

def refusal? (p : Program) : Option FailureKind :=
  match ((instantiate (g := engine) Registry.empty p { enableWasi := true }).run
    echoing.world).1 with
  | .error e => some e.kind
  | .ok _ => none

theorem of_refusal? {p : Program} {kind : FailureKind} (h : refusal? p = some kind) :
    ∃ e w, (instantiate (g := engine) Registry.empty p { enableWasi := true }).run
      echoing.world = (.error e, w) ∧ e.kind = kind := by
  unfold refusal? at h
  rcases ho : (instantiate (g := engine) Registry.empty p { enableWasi := true }).run
    echoing.world with ⟨e | i, w⟩ <;> rw [ho] at h
  · exact ⟨e, w, rfl, Option.some.inj h⟩
  · cases h

end Absent

/-- A module that imports a missing system call once, without results, is refused for it. -/
theorem absent_system_call_unsupported :
    engine.load (Absent.bytes [1]) = .ok (.ofModule (Absent.module [1])) ∧
      (engine.info (.ofModule (Absent.module [1]))).otherImports = [] ∧
      Unsupported (g := engine) Registry.empty (.ofModule (Absent.module [1]))
        { enableWasi := true } echoing.world := by
  have hw : ({ enableWasi := true } : Settings).enableWasi = true := rfl
  have hd := missing_system_call_decides (H := Unit) Absent.loads rfl .empty hw
  have hi : (engine.info (.ofModule (Absent.module [1]))).imports =
      [⟨Name.systemNamespace, "no_such", ⟨[], []⟩⟩] := rfl
  have hc : Consistent (engine.info (.ofModule (Absent.module [1]))).imports := by
    rw [hi]
    intro i hi j hj _ _
    rw [List.mem_singleton.mp hi, List.mem_singleton.mp hj]
  refine ⟨Absent.loads, rfl, (hd.any hc _).mpr ?_⟩
  rw [hi]
  exact ⟨_, List.mem_singleton_self _, ⟨rfl, by decide +kernel⟩, by decide⟩

/-- Of two modules that import a missing system call in two ways, in one order or the other, one is
refused for it and the other for a clash of types. -/
theorem repeated_import_decides_by_order :
    let p : Program := .ofModule (Absent.module [0, 1])
    let q : Program := .ofModule (Absent.module [1, 0])
    engine.load (Absent.bytes [0, 1]) = .ok p ∧ engine.load (Absent.bytes [1, 0]) = .ok q ∧
      (engine.info q).imports.Perm (engine.info p).imports ∧
      (∃ i ∈ (engine.info p).imports, i.Missing ∧ i.signature.results ≠ [.i32]) ∧
      (∃ e w, (instantiate (g := engine) Registry.empty p { enableWasi := true }).run
        echoing.world = (.error e, w) ∧ e.kind = .instantiation) ∧
      ∃ e w, (instantiate (g := engine) Registry.empty q { enableWasi := true }).run
        echoing.world = (.error e, w) ∧ e.kind = .unsupportedFeature := by
  refine ⟨Absent.twice_loads, Absent.reversed_loads, ?_, ?_, ?_, ?_⟩
  · exact .swap ..
  · exact ⟨⟨Name.systemNamespace, "no_such", ⟨[], []⟩⟩, by decide +kernel, ⟨rfl, by decide +kernel⟩,
      by decide⟩
  · exact Absent.of_refusal? (by decide +kernel)
  · exact Absent.of_refusal? (by decide +kernel)

end Wasm
end PluginHost
