import PluginHost.Provider
/-!
The types under which host functions are linked. A signature names such a type exactly if it has no
references but those to functions and to things outside, and the type is shown as this signature.
-/
namespace PluginHost

def Signature.isHosted (s : Signature) : Bool := !(s.params ++ s.results).contains .ref

namespace Wasm

namespace ValType

def hosted : List ValType := [.i32, .i64, .f32, .f64, .v128, .ref .funcref, .ref .externref]

theorem mem_hosted_iff (v : ValType) : v ∈ hosted ↔ v.toValueType ≠ .ref := by
  cases v with
  | ref r =>
    by_cases hf : r = .funcref
    · simp [hosted, toValueType, hf]
    · by_cases he : r = .externref
      · simp [hosted, toValueType, he, RefType.externref, RefType.funcref, RefType.ofKind]
      · simp [hosted, toValueType, hf, he]
  | _ => simp [hosted, toValueType]

theorem ofValueType?_eq_some_iff (t : ValueType) (v : ValType) :
    ofValueType? t = some v ↔ v ∈ hosted ∧ v.toValueType = t := by
  constructor
  · intro h
    cases t <;> cases h <;> decide
  · rintro ⟨hv, rfl⟩
    simp only [hosted, List.mem_cons, List.not_mem_nil, or_false] at hv
    obtain rfl | rfl | rfl | rfl | rfl | rfl | rfl := hv <;> rfl

theorem ofValueType?_eq_none_iff (t : ValueType) : ofValueType? t = none ↔ t = .ref := by
  cases t <;> simp [ofValueType?]

theorem mapM_ofValueType?_iff (ts : List ValueType) (vs : List ValType) :
    ts.mapM ofValueType? = some vs ↔ (∀ v ∈ vs, v ∈ hosted) ∧ vs.map toValueType = ts := by
  induction ts generalizing vs with
  | nil => cases vs <;> simp
  | cons t ts ih =>
    simp only [List.mapM_cons, Option.bind_eq_bind, Option.bind_eq_some_iff,
      ofValueType?_eq_some_iff, ih, Option.pure_def, Option.some.injEq]
    constructor
    · rintro ⟨v, ⟨hv, rfl⟩, vs, ⟨hvs, rfl⟩, rfl⟩
      exact ⟨List.forall_mem_cons.mpr ⟨hv, hvs⟩, rfl⟩
    · rintro ⟨hvs, he⟩
      cases vs with
      | nil => cases he
      | cons v vs =>
        obtain ⟨hv, hvs⟩ := List.forall_mem_cons.mp hvs
        obtain ⟨hn, he⟩ := List.cons.inj he
        exact ⟨v, ⟨hv, hn⟩, vs, ⟨hvs, he⟩, rfl⟩

/-- Only the other references are shown of no list of such types. -/
theorem exists_hosted_iff (ts : List ValueType) :
    (∃ vs : List ValType, (∀ v ∈ vs, v ∈ hosted) ∧ vs.map toValueType = ts) ↔ .ref ∉ ts := by
  constructor
  · rintro ⟨vs, hvs, rfl⟩ hm
    obtain ⟨v, hv, he⟩ := List.mem_map.mp hm
    exact (mem_hosted_iff v).mp (hvs v hv) he
  · intro hn
    induction ts with
    | nil => exact ⟨[], by simp⟩
    | cons t ts ih =>
      rw [List.mem_cons, not_or] at hn
      obtain ⟨vs, hvs, he⟩ := ih hn.2
      cases hv : ofValueType? t with
      | none => exact absurd ((ofValueType?_eq_none_iff t).mp hv).symm hn.1
      | some v =>
        obtain ⟨hm, ht⟩ := (ofValueType?_eq_some_iff t v).mp hv
        exact ⟨v :: vs, List.forall_mem_cons.mpr ⟨hm, hvs⟩, by rw [List.map_cons, ht, he]⟩

end ValType

namespace FuncType

def Hosted (t : FuncType) : Prop :=
  (∀ v ∈ t.params, v ∈ ValType.hosted) ∧ ∀ v ∈ t.results, v ∈ ValType.hosted

theorem ofSignature_eq_ok_iff (s : Signature) (t : FuncType) :
    ofSignature s = .ok t ↔ t.Hosted ∧ t.signature = s := by
  obtain ⟨ps, rs⟩ := s
  obtain ⟨params, results⟩ := t
  have hp := ValType.mapM_ofValueType?_iff ps params
  have hr := ValType.mapM_ofValueType?_iff rs results
  have hs : (⟨params, results⟩ : FuncType).Hosted ∧
      (⟨params, results⟩ : FuncType).signature = ⟨ps, rs⟩ ↔
        ps.mapM ValType.ofValueType? = some params ∧
        rs.mapM ValType.ofValueType? = some results := by
    rw [hp, hr]
    simp only [Hosted, signature, Signature.mk.injEq]
    exact and_and_and_comm
  rw [hs, ofSignature]
  dsimp only
  cases ps.mapM ValType.ofValueType? with
  | none => simp
  | some params' => cases rs.mapM ValType.ofValueType? <;> simp

theorem exists_ofSignature_iff (s : Signature) :
    (∃ t, ofSignature s = .ok t) ↔ .ref ∉ s.params ∧ .ref ∉ s.results := by
  rw [← ValType.exists_hosted_iff, ← ValType.exists_hosted_iff]
  simp only [ofSignature_eq_ok_iff]
  constructor
  · rintro ⟨t, ht, rfl⟩
    exact ⟨⟨t.params, ht.1, rfl⟩, ⟨t.results, ht.2, rfl⟩⟩
  · rintro ⟨⟨ps, hps, hp⟩, rs, hrs, hr⟩
    exact ⟨⟨ps, rs⟩, ⟨hps, hrs⟩, by rw [signature, hp, hr]⟩

theorem ofSignature_error {s : Signature} {e : Failure} (h : ofSignature s = .error e) :
    e = .unsupported (.referenceType s) := by
  unfold ofSignature at h
  split at h
  · cases h
  · exact (Except.error.inj h).symm

theorem isHosted_iff (s : Signature) : s.isHosted = true ↔ ∃ t, ofSignature s = .ok t := by
  simp [exists_ofSignature_iff, Signature.isHosted]

end FuncType

end Wasm

theorem Choice.requireHosted_eq (s : Signature) :
    Choice.requireHosted s =
      if s.isHosted then pure () else throw (.unsupported (.referenceType s)) := by
  unfold Choice.requireHosted
  cases h : Wasm.FuncType.ofSignature s with
  | ok t =>
    rw [if_pos ((Wasm.FuncType.isHosted_iff s).mpr ⟨t, h⟩)]
    rfl
  | error e =>
    have hn : ¬ s.isHosted = true := by
      rw [Wasm.FuncType.isHosted_iff, h]
      rintro ⟨t, ht⟩
      cases ht
    rw [if_neg hn, Wasm.FuncType.ofSignature_error h]
    rfl

end PluginHost
