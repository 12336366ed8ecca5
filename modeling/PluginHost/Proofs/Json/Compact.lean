import PluginHost.Json.Written
import PluginHost.Proofs.Json.Records
/-!
What the writer puts down. Each of its texts is a value of the notation without blanks, with each
character in the shortest way that JSON has for it; so a reader of values takes it back.
-/
namespace PluginHost.Json
open Reader

/-- A value that is written as the text `s`, whatever follows it. -/
def Tree.Spells (t : Tree) (s : String) : Prop := ∀ rest, t.write rest = s.toList ++ rest

/-! ### Strings -/

def HexDigit.last (n : Nat) : HexDigit := ⟨⟨n % 16, Nat.mod_lt n (Nat.succ_pos 15)⟩, false⟩

def controlUnit (n : Nat) : CodeUnit := ⟨.last 0, .last 0, .last (n / 16), .last n⟩

def Letter.written? (c : Char) : Option Letter :=
  [quote, backslash, backspace, formFeed, newline, carriageReturn, tab].find? (·.meant = c)

abbrev Plain (c : Char) : Prop := 0x20 ≤ c.toNat ∧ c ≠ '"' ∧ c ≠ '\\'

def pieceOf (c : Char) : Piece :=
  if h : Plain c then .plain c h
  else match Letter.written? c with
    | some l => .letter l
    | none => .unit (controlUnit c.toNat)

theorem pieceOf_plain {c : Char} (h : Plain c) : pieceOf c = .plain c h :=
  dif_pos h

/-- What holds of a quote, a backslash and the controls holds of all characters that cannot stand
for themselves. -/
theorem of_escaped {P : Char → Prop} {c : Char} (h : ¬ Plain c)
    (hquote : P '"') (hback : P '\\') (hcontrol : ∀ n < 0x20, P (Char.ofNat n)) : P c := by
  by_cases hq : c = '"'
  · exact hq ▸ hquote
  · by_cases hb : c = '\\'
    · exact hb ▸ hback
    · have hn : c.toNat < 0x20 := Nat.lt_of_not_le fun hn => h ⟨hn, hq, hb⟩
      exact Char.ofNat_toNat c ▸ hcontrol c.toNat hn

theorem Piece.write_append (p : Piece) (cs rest : List Char) :
    p.write (cs ++ rest) = p.write cs ++ rest := by
  cases p <;> simp [Piece.write]

theorem writtenChar_plain {c : Char} (h : Plain c) :
    writtenChar c = String.singleton c := by
  unfold writtenChar
  split
  case h_8 => simp [Nat.not_lt.mpr h.1]
  all_goals exact absurd h (by decide)

theorem write_pieceOf (c : Char) (rest : List Char) :
    (pieceOf c).write rest = (writtenChar c).toList ++ rest := by
  by_cases h : Plain c
  · simp [pieceOf_plain h, writtenChar_plain h, Piece.write]
  · have hw : (pieceOf c).write [] = (writtenChar c).toList := by
      apply of_escaped h <;> decide
    rw [← hw, ← Piece.write_append, List.nil_append]

def Piece.meant? : Piece → Option Char
  | plain c _ => some c
  | letter l => some l.meant
  | unit u => if u.IsHigh ∨ u.IsLow then none else some (Char.ofNat u.value)

theorem meant_cons {p : Piece} {c : Char} (h : p.meant? = some c) (ps : List Piece) :
    meant (p :: ps) = (meant ps).map (c :: ·) := by
  cases p with
  | plain d hd =>
    cases h
    rfl
  | letter l =>
    cases h
    rfl
  | unit u =>
    simp only [Piece.meant?] at h
    split at h
    · cases h
    · rename_i hn
      obtain ⟨hh, hl⟩ := not_or.mp hn
      cases h
      rw [meant.eq_def]
      simp only [if_neg hh, if_neg hl]

theorem meant?_pieceOf (c : Char) : (pieceOf c).meant? = some c := by
  by_cases h : Plain c
  · simp [pieceOf_plain h, Piece.meant?]
  · apply of_escaped h <;> decide

theorem meant_pieces (cs : List Char) : meant (cs.map pieceOf) = some cs := by
  induction cs with
  | nil => rfl
  | cons c cs ih => simp [meant_cons (meant?_pieceOf c), ih]

def Tree.ofText (s : String) : Tree := .text (s.toList.map pieceOf)

theorem keyOf_pieces (s : String) : keyOf (s.toList.map pieceOf) = some s := by
  simp [keyOf, meant_pieces]

theorem write_pieces (cs rest : List Char) :
    (cs.map pieceOf).foldr Piece.write rest =
      (String.join (cs.map writtenChar)).toList ++ rest := by
  induction cs with
  | nil => simp
  | cons c cs ih => simp [ih, write_pieceOf]

theorem writeString_pieces (s : String) (rest : List Char) :
    writeString (s.toList.map pieceOf) rest = (string s).toList ++ rest := by
  simp [writeString, string, write_pieces]

theorem spells_ofText (s : String) : (Tree.ofText s).Spells (string s) :=
  writeString_pieces s

/-! ### Lists and objects -/

def afterFirst (sep : String) (ss : List String) : List Char :=
  ss.flatMap fun s => sep.toList ++ s.toList

theorem toList_intercalate_cons (sep s : String) (ss : List String) :
    (sep.intercalate (s :: ss)).toList = s.toList ++ afterFirst sep ss := by
  induction ss generalizing s with
  | nil => simp [afterFirst]
  | cons s' ss ih =>
    rw [String.intercalate_cons_cons, String.toList_append, String.toList_append, ih]
    simp [afterFirst]

def Items.ofTrees : List Tree → Items
  | [] => .nil
  | t :: ts => .cons noBlanks t noBlanks (Items.ofTrees ts)

def Members.ofTrees : List (String × Tree) → Members
  | [] => .nil
  | (k, t) :: ms =>
    .cons noBlanks (k.toList.map pieceOf) noBlanks noBlanks t noBlanks (Members.ofTrees ms)

def Tree.ofList (ts : List Tree) : Tree := .list noBlanks (Items.ofTrees ts)

def Tree.ofMembers (ms : List (String × Tree)) : Tree := .object noBlanks (Members.ofTrees ms)

@[simp] theorem trees_ofTrees (ts : List Tree) : (Items.ofTrees ts).trees = ts := by
  induction ts with
  | nil => rfl
  | cons t ts ih => simp [Items.ofTrees, Items.trees, ih]

@[simp] theorem entries_ofTrees (ms : List (String × Tree)) :
    (Members.ofTrees ms).entries = ms.map fun m => (some m.1, m.2) := by
  induction ms with
  | nil => rfl
  | cons m ms ih => simp [Members.ofTrees, Members.entries, keyOf_pieces, ih]

section Sequences
variable {α : Type} {text : α → String} {tree : α → Tree}

theorem write_items {xs : List α} (h : ∀ x ∈ xs, (tree x).Spells (text x)) (rest : List Char) :
    (Items.ofTrees (xs.map tree)).write false rest = afterFirst "," (xs.map text) ++ rest := by
  induction xs with
  | nil => rfl
  | cons x xs ih =>
    obtain ⟨hx, hxs⟩ := List.forall_mem_cons.mp h
    simp [Items.ofTrees, Items.write, noBlanks, separated, afterFirst, hx _, ih hxs]

theorem spells_array {xs : List α} (h : ∀ x ∈ xs, (tree x).Spells (text x)) :
    (Tree.ofList (xs.map tree)).Spells (array (xs.map text)) := by
  intro rest
  cases xs with
  | nil => simp [Tree.ofList, Items.ofTrees, Tree.write, Items.write, noBlanks, array]
  | cons x xs =>
    obtain ⟨hx, hxs⟩ := List.forall_mem_cons.mp h
    simp [-String.toList_intercalate, Tree.ofList, Items.ofTrees, Tree.write, Items.write,
      noBlanks, separated, array, toList_intercalate_cons, hx _, write_items hxs]

theorem list?_ofList {view : Tree → Option α} (h : ∀ x, view (tree x) = some x) (xs : List α) :
    Tree.list? view (Tree.ofList (xs.map tree)) = some xs := by
  simp only [Tree.list?, Tree.ofList, trees_ofTrees]
  induction xs with
  | nil => rfl
  | cons x xs ih => rw [List.map_cons, List.mapM_cons, h, ih]; rfl

theorem write_members {ms : List (String × α)} (h : ∀ m ∈ ms, (tree m.2).Spells (text m.2))
    (rest : List Char) :
    (Members.ofTrees (ms.map fun m => (m.1, tree m.2))).write false rest =
      afterFirst "," (ms.map fun m => string m.1 ++ ":" ++ text m.2) ++ rest := by
  induction ms with
  | nil => rfl
  | cons m ms ih =>
    obtain ⟨hm, hms⟩ := List.forall_mem_cons.mp h
    simp [Members.ofTrees, Members.write, noBlanks, separated, afterFirst, writeString_pieces,
      hm _, ih hms]

/-- Members are written as an object of what their values are written as. -/
theorem spells_object {ms : List (String × α)} (h : ∀ m ∈ ms, (tree m.2).Spells (text m.2)) :
    (Tree.ofMembers (ms.map fun m => (m.1, tree m.2))).Spells
      (object (ms.map fun m => (m.1, text m.2))) := by
  intro rest
  cases ms with
  | nil => simp [Tree.ofMembers, Members.ofTrees, Tree.write, Members.write, noBlanks, object]
  | cons m ms =>
    obtain ⟨hm, hms⟩ := List.forall_mem_cons.mp h
    simp [-String.toList_intercalate, Tree.ofMembers, Members.ofTrees, Tree.write, Members.write,
      noBlanks, separated, object, toList_intercalate_cons, writeString_pieces, hm _,
      write_members hms, Function.comp_def]

end Sequences

/-- A reader takes from a written text what is viewed in the value it was written for. -/
theorem whole_spelled {α : Type} {r : Reader α} {view : Tree → Option α} (hr : Sees r view)
    {t : Tree} {s : String} (h : t.Spells s) : (whole r s).toOption = view t := by
  have hs : t.document noBlanks noBlanks = s := by
    simp [Tree.document, noBlanks, h []]
  rw [← hs, whole_document hr]

end PluginHost.Json
