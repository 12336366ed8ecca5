import PluginHost.Signature
import PluginHost.Proofs.Json.Compact
/-!
The two written forms of a signature. Each says the whole signature: the JSON form is read back as
the signature it was written for, and no two signatures are shown alike.
-/
namespace PluginHost
open Json Json.Reader

/-! ### The JSON form -/

namespace Signature

def types? : Tree → Option (List ValueType) :=
  Tree.list? (Tree.choice? (ValueType.all.map fun t => (t.name, t)))

def change? (key : String) (t : Tree) : Option (Signature → Signature) :=
  match key with
  | "params" => (types? t).map fun ts s => { s with params := ts }
  | "results" => (types? t).map fun ts s => { s with results := ts }
  | _ => none

theorem recordForm_viewed : recordForm.Viewed change? where
  distinct := by decide
  sees := by
    have ht : Sees (Reader.list typeReader) types? := (sees_choice _).list
    simp only [recordForm, List.forall_mem_cons, List.not_mem_nil, false_implies, implies_true,
      and_true]
    exact ⟨ht.map _, ht.map _⟩

def names (types : List ValueType) : Tree := Tree.ofList (types.map fun t => Tree.ofText t.name)

theorem lookup_name (t : ValueType) :
    (ValueType.all.map fun t => (t.name, t)).lookup t.name = some t := by
  cases t <;> decide

theorem types?_names (types : List ValueType) : types? (names types) = some types := by
  apply list?_ofList
  intro t
  simp [Tree.ofText, Tree.choice?, keyOf_pieces, lookup_name]

def tree (s : Signature) : Tree :=
  Tree.ofMembers [("params", names s.params), ("results", names s.results)]

theorem spells_tree (s : Signature) : s.tree.Spells s.json := by
  let text (types : List ValueType) := Json.array (types.map fun t => Json.string t.name)
  have hn (types : List ValueType) : (names types).Spells (text types) :=
    spells_array fun t _ => spells_ofText t.name
  exact @spells_object _ text names [("params", s.params), ("results", s.results)]
    fun m _ => hn m.2

theorem view?_tree (s : Signature) : recordForm.view? change? s.tree = some s := by
  simp only [Record.view?, Record.entries?, tree, Tree.ofMembers, entries_ofTrees]
  simp [Record.told, Record.finished, Record.keys, recordForm, change?, types?_names]

theorem ofJson_json (s : Signature) : ofJson s.json = .ok s := by
  have h : (ofJson s.json).toOption = some s := by
    rw [ofJson, whole_spelled (sees_record recordForm_viewed) s.spells_tree, view?_tree]
  cases hr : ofJson s.json with
  | ok s' =>
    rw [hr] at h
    exact congrArg Except.ok (Option.some.inj h)
  | error f =>
    rw [hr] at h
    exact nomatch h

end Signature

/-! ### The shown form -/

def Resumes (c : Char) (rest : List Char) : Prop := ∀ d ∈ rest.head?, d = c

/-- A text has one stretch before a character. -/
theorem stretch_unique {c : Char} {xs xs' ys ys' : List Char} (hx : c ∉ xs) (hx' : c ∉ xs')
    (hy : Resumes c ys) (hy' : Resumes c ys') (h : xs ++ ys = xs' ++ ys') :
    xs = xs' ∧ ys = ys' := by
  induction xs generalizing xs' with
  | nil =>
    cases xs' with
    | nil => exact ⟨rfl, h⟩
    | cons d ds =>
      rw [List.nil_append] at h
      have hd : d = c := hy d (by simp [h])
      exact absurd List.mem_cons_self (hd ▸ hx')
  | cons d ds ih =>
    cases xs' with
    | nil =>
      rw [List.nil_append] at h
      have hd : d = c := hy' d (by simp [← h])
      exact absurd List.mem_cons_self (hd ▸ hx)
    | cons d' ds' =>
      rw [List.cons_append, List.cons_append, List.cons.injEq] at h
      obtain ⟨rfl, hrest⟩ := h
      obtain ⟨rfl, rfl⟩ := ih (List.not_mem_of_not_mem_cons hx)
        (List.not_mem_of_not_mem_cons hx') hrest
      exact ⟨rfl, rfl⟩

namespace ValueType

theorem name_injective : Function.Injective name := by
  intro t u h
  rw [← Option.some_inj, ← Signature.lookup_name t, h, Signature.lookup_name u]

theorem name_chars (t : ValueType) :
    t.name.toList ≠ [] ∧ ',' ∉ t.name.toList ∧ ')' ∉ t.name.toList := by
  cases t <;> decide

end ValueType

namespace Signature

def moreListed (types : List ValueType) : List Char := afterFirst ", " (types.map ValueType.name)

theorem moreListed_cons (t : ValueType) (ts : List ValueType) :
    moreListed (t :: ts) = ',' :: ' ' :: (t.name.toList ++ moreListed ts) := by
  simp [moreListed, afterFirst]

theorem toList_listed_cons (t : ValueType) (ts : List ValueType) :
    (listed (t :: ts)).toList = t.name.toList ++ moreListed ts :=
  toList_intercalate_cons _ _ _

theorem resumes_moreListed (ts : List ValueType) : Resumes ',' (moreListed ts) := by
  cases ts with
  | nil => simp [Resumes, moreListed, afterFirst]
  | cons t ts => simp [Resumes, moreListed_cons]

theorem first_unique {t u : ValueType} {ts us : List ValueType}
    (h : t.name.toList ++ moreListed ts = u.name.toList ++ moreListed us) :
    t = u ∧ moreListed ts = moreListed us := by
  obtain ⟨hn, hm⟩ := stretch_unique t.name_chars.2.1 u.name_chars.2.1 (resumes_moreListed ts)
    (resumes_moreListed us) h
  exact ⟨ValueType.name_injective (String.toList_injective hn), hm⟩

theorem moreListed_injective : Function.Injective moreListed := by
  intro ts us h
  induction ts generalizing us with
  | nil =>
    cases us with
    | nil => rfl
    | cons u us => simp [moreListed, afterFirst] at h
  | cons t ts ih =>
    cases us with
    | nil => simp [moreListed, afterFirst] at h
    | cons u us =>
      simp only [moreListed_cons, List.cons.injEq, true_and] at h
      obtain ⟨rfl, hm⟩ := first_unique h
      rw [ih hm]

theorem toList_listed_nil : (listed []).toList = [] := by decide

theorem listed_injective : Function.Injective listed := by
  intro ts us h
  have hl := congrArg String.toList h
  cases ts with
  | nil =>
    cases us with
    | nil => rfl
    | cons u us => simp [toList_listed_nil, toList_listed_cons, u.name_chars] at hl
  | cons t ts =>
    cases us with
    | nil => simp [toList_listed_nil, toList_listed_cons, t.name_chars] at hl
    | cons u us =>
      rw [toList_listed_cons, toList_listed_cons] at hl
      obtain ⟨rfl, hm⟩ := first_unique hl
      rw [moreListed_injective hm]

theorem not_mem_moreListed (ts : List ValueType) : ')' ∉ moreListed ts := by
  induction ts with
  | nil => simp [moreListed, afterFirst]
  | cons t ts ih => simp [moreListed_cons, ih, t.name_chars]

theorem not_mem_listed (ts : List ValueType) : ')' ∉ (listed ts).toList := by
  cases ts with
  | nil => decide
  | cons t ts => simp [toList_listed_cons, not_mem_moreListed, t.name_chars]

theorem toList_text (s : Signature) :
    s.text.toList = '(' :: ((listed s.params).toList ++
      ')' :: ' ' :: '-' :: '>' :: ' ' :: '(' :: ((listed s.results).toList ++ [')'])) := by
  simp [text]

/-- The parameters end with the first closing bracket, and the results with the last. -/
theorem text_injective : Function.Injective text := by
  intro s s' h
  have hl := congrArg String.toList h
  rw [toList_text, toList_text] at hl
  -- Neither list holds a closing bracket, so the first one ends the parameters.
  obtain ⟨hp, hr⟩ := stretch_unique (not_mem_listed s.params) (not_mem_listed s'.params)
    (by simp [Resumes]) (by simp [Resumes]) (List.cons.inj hl).2
  simp only [List.cons.injEq, true_and, List.append_left_inj] at hr
  cases s
  cases s'
  rw [Signature.mk.injEq]
  exact ⟨listed_injective (String.toList_injective hp),
    listed_injective (String.toList_injective hr)⟩

theorem isBytes_iff (s : Signature) : s.isBytes = true ↔ s.text = "(i32, i32) -> (i64)" := by
  have hb : bytes.text = "(i32, i32) -> (i64)" := by decide
  rw [isBytes, decide_eq_true_iff, ← hb, text_injective.eq_iff]

/-- Neither written form loses anything of a signature, whatever lists of types it has. -/
theorem written_forms_faithful :
    (∀ s : Signature, ofJson s.json = .ok s) ∧
    (∀ (text : String) (s : Signature), ofJson text = .ok s → ofJson s.json = .ok s) ∧
    (∀ s s' : Signature, s.text = s'.text → s = s') ∧
    ∀ s : Signature, s.isBytes = true ↔ s.text = "(i32, i32) -> (i64)" :=
  ⟨ofJson_json, fun _ s _ => ofJson_json s, fun _ _ h => text_injective h, isBytes_iff⟩

/-- A signature read from lists in place of an object, with a type as the key of an object. -/
theorem listed_signature_faithful :
    ofJson " [[\"i32\", \x7b\"\u0072ef\" : null\x7d], []]" = .ok ⟨[.i32, .ref], []⟩ ∧
    ofJson (Signature.json ⟨[.i32, .ref], []⟩) = .ok ⟨[.i32, .ref], []⟩ ∧
    (⟨[.i32, .i32], [.i64]⟩ : Signature) = bytes :=
  have h : ofJson " [[\"i32\", \x7b\"\u0072ef\" : null\x7d], []]" = .ok ⟨[.i32, .ref], []⟩ := by
    rfl
  ⟨h, written_forms_faithful.2.1 _ _ h, written_forms_faithful.2.2.1 _ _ (by decide)⟩

end Signature

end PluginHost
