import PluginHost.Proofs.Loading
import PluginHost.Proofs.Stubs
/-!
Loaded modules and the types of host functions. What the engine runs are just the types that
signatures name, so that no module that was loaded is refused for the type of a host function.
-/
namespace PluginHost.Wasm
variable {H : Type}

/-- The engine runs values of just these types without any proposal, whatever types a module
names. -/
theorem checkVal_iff (types : Typing.Types) (v : ValType) :
    Typing.checkVal types Features.engine v = .ok () ↔ v ∈ ValType.hosted := by
  constructor
  · exact fun h => (ValType.mem_hosted_iff v).mpr (Typing.checkVal_hosted h)
  · intro h
    simp only [ValType.hosted, List.mem_cons, List.not_mem_nil, or_false] at h
    obtain rfl | rfl | rfl | rfl | rfl | rfl | rfl := h <;> rfl

open Opening Binder in
/-- A module that was loaded is never refused for the type of a host function. -/
theorem instantiate_not_foreign {bytes : Bytes} {p : Program} (loaded : engine.load bytes = .ok p)
    {registry : Registry H} (hr : registry.Built) (settings : Settings) (w : World H)
    (s : Signature) :
    ((instantiate (g := engine) registry p settings).run w).1 ≠
      .error (.unsupported (.referenceType s)) := by
  intro h
  by_cases hm : (engine.info p).otherImports = []
  · have hf := linkAll_of_unsupported hm (Prod.ext h rfl) rfl
    have hl := (settings.binder registry).linkAll_links hr (engine.info p).imports []
    rw [hf] at hl
    obtain ⟨i, hi, hn⟩ := hl
    cases hn with
    | reference foreign =>
      rw [imports_hosted loaded hi] at foreign
      cases foreign
  · rw [run_instantiate_other hm] at h
    cases h

open Opening in
/-- Signatures without other references and function types over the values that the engine runs are
the same thing in two forms. So a loaded module is refused for many reasons, but never for the type
of a function that the host would have to provide. -/
theorem host_types_invertible :
    (∀ s : Signature,
      ((∃ t, FuncType.ofSignature s = .ok t) ↔ .ref ∉ s.params ∧ .ref ∉ s.results) ∧
      (∀ t, FuncType.ofSignature s = .ok t → t.signature = s) ∧
      ∀ e, FuncType.ofSignature s = .error e → e = .unsupported (.referenceType s)) ∧
    (∀ t : FuncType, t.Hosted → FuncType.ofSignature t.signature = .ok t) ∧
    (∀ (types : Typing.Types) (v : ValType),
      Typing.checkVal types Features.engine v = .ok () ↔ v ∈ ValType.hosted) ∧
    ∀ (bytes : Bytes) (p : Program), engine.load bytes = .ok p →
      ∀ registry : Registry H, registry.Built →
      ∀ (settings : Settings) (w : World H) (s : Signature),
        ((instantiate (g := engine) registry p settings).run w).1 ≠
          .error (.unsupported (.referenceType s)) := by
  refine ⟨fun s => ⟨FuncType.exists_ofSignature_iff s, fun t ht => ?_, fun e he => ?_⟩,
    fun t ht => ?_, checkVal_iff, fun bytes p loaded registry hr settings w s => ?_⟩
  · exact ((FuncType.ofSignature_eq_ok_iff s t).mp ht).2
  · exact FuncType.ofSignature_error he
  · exact (FuncType.ofSignature_eq_ok_iff t.signature t).mpr ⟨ht, rfl⟩
  · exact instantiate_not_foreign loaded hr settings w s

namespace Referring
open Typing

def type : FuncType := ⟨[.ref .externref, .v128], [.ref .funcref]⟩

/-- A module that imports a function with references in its type. -/
def bytes : Bytes :=
  [0, 97, 115, 109, 1, 0, 0, 0, 1, 7, 1, 96, 2, 111, 123, 1, 112, 2, 9, 1, 3, 101, 110, 118, 1,
    102, 0, 0]

def module : Module where
  types := #[functionType type.params type.results]
  groups := [⟨1, false⟩]
  imports := [⟨Name.defaultNamespace, "f", .function 0⟩]

theorem checkModule_eq (features : Features) (h : features = .all ∨ features = .engine) :
    checkModule features module = .ok () := by
  have hp : ∀ s ∈ [functionType type.params type.results], Types.Plain s := by
    simp only [List.forall_mem_cons]
    exact ⟨⟨rfl, rfl, fun _ => rfl⟩, by simp⟩
  obtain ⟨seen, ht⟩ := Types.addGroups_plain hp (by decide)
  have ht : Types.addGroups {} module.types module.groups = _ := ht
  have hd : distinct (module.exports.map ModuleExport.name) = true := by decide
  unfold checkModule moduleType addTypes
  rw [show Types.restart {} = {} from rfl, ht, hd]
  rcases h with rfl | rfl <;> rfl

theorem loads : engine.load bytes = .ok (.ofModule module) :=
  (load_eq_ok_iff ..).mpr
    ⟨module, rfl, checkModule_eq _ (.inl rfl), checkModule_eq _ (.inr rfl), rfl⟩

end Referring

/-- The type of the import is found again from its signature, so the import gets a stub. With any
other reference there is no type. -/
theorem referring_module_hosted :
    FuncType.ofSignature Referring.type.signature = .ok Referring.type ∧
    Referring.type.signature = ⟨[.externref, .v128], [.funcref]⟩ ∧
    (¬ ∃ t, FuncType.ofSignature ⟨[.i32], [.ref]⟩ = .ok t) ∧
    ∀ s, ((Opening.instantiate (g := engine) Registry.empty (.ofModule Referring.module)
      { allowUnresolvedImports := true }).run echoing.world).1 ≠
        .error (.unsupported (.referenceType s)) := by
  obtain ⟨hs, ht, -, hl⟩ := host_types_invertible (H := Unit)
  exact ⟨ht _ ⟨by decide, by decide⟩, (hs _).2.1 _ rfl, (hs _).1.not.mpr (by decide),
    hl _ _ Referring.loads _ .empty _ _⟩

end PluginHost.Wasm
