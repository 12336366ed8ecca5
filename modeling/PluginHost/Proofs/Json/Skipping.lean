import PluginHost.Proofs.Json.Numbers
/-!
Values of no interest are passed over, whatever they are and however deep lists and objects lie in
each other: the reader comes to what follows the value inside the brackets that are open.
-/
namespace PluginHost.Json
open Reader

def Starts (c : Char) : Prop :=
  isBlank c = false ∧ c ≠ ',' ∧ c ≠ ']' ∧ c ≠ '}'

theorem starts_of_isDigit {c : Char} (hc : c.isDigit = true) : Starts c := by
  refine ⟨isBlank_of_isDigit hc, ?_, ?_, ?_⟩ <;>
  · rintro rfl
    exact absurd hc (by decide)

theorem Tree.write_cons (t : Tree) (rest : List Char) :
    ∃ c cs, t.write rest = c :: cs ∧ Starts c := by
  cases t with
  | null => exact ⟨_, _, rfl, by decide, by decide, by decide, by decide⟩
  | flag b => cases b <;> exact ⟨_, _, rfl, by decide, by decide, by decide, by decide⟩
  | text ps => exact ⟨_, _, rfl, by decide, by decide, by decide, by decide⟩
  | list inner items => exact ⟨_, _, rfl, by decide, by decide, by decide, by decide⟩
  | object inner members => exact ⟨_, _, rfl, by decide, by decide, by decide, by decide⟩
  | number n =>
    unfold Tree.write Numeral.write
    split
    · exact ⟨_, _, rfl, by decide, by decide, by decide, by decide⟩
    · obtain ⟨c, cs, he, hc⟩ := n.writeUnsigned_cons rest
      exact ⟨c, cs, he, starts_of_isDigit hc⟩

/-- Behind a value in a list comes a comma or the end. -/
theorem Items.stops (items : Items) (after : Blanks) (rest : List Char) :
    Stops (after.1 ++ items.write false (']' :: rest)) := by
  cases items with
  | nil => exact (Stops.bracket _).blanks after
  | cons => exact (Stops.comma _).blanks after

/-- Behind a value in an object comes a comma or the end. -/
theorem Members.stops (members : Members) (after : Blanks) (rest : List Char) :
    Stops (after.1 ++ members.write false ('}' :: rest)) := by
  cases members with
  | nil => exact (Stops.brace _).blanks after
  | cons => exact (Stops.comma _).blanks after

/-! A value takes at least one character. -/

theorem Exponent.length_write (e : Exponent) (rest : List Char) :
    rest.length ≤ (e.write rest).length := by
  obtain ⟨capital, sign, ds⟩ := e
  cases sign <;> simp only [Exponent.write, List.length_cons, List.length_append] <;> omega

theorem Numeral.length_write (n : Numeral) (rest : List Char) :
    rest.length < (n.write rest).length := by
  have he : rest.length ≤ (n.writeExponent rest).length := by
    unfold writeExponent
    split
    · exact Nat.le_refl _
    · exact Exponent.length_write _ _
  have hf : rest.length ≤ (n.writeFraction rest).length := by
    unfold writeFraction
    split
    · exact he
    · simp only [List.length_cons, List.length_append]
      omega
  have hd : 0 < (Nat.toDigits 10 n.whole).length := List.length_pos_iff.mpr Nat.toDigits_ne_nil
  unfold write writeUnsigned
  split <;> simp only [List.length_cons, List.length_append] <;> omega

theorem length_writeString (ps : List Piece) (rest : List Char) :
    rest.length + 2 ≤ (writeString ps rest).length := by
  have h := length_le_foldr_write ps ('"' :: rest)
  simp only [writeString, List.length_cons] at h ⊢
  omega

mutual

theorem Tree.length_write (t : Tree) (rest : List Char) : rest.length < (t.write rest).length := by
  match t with
  | .null => simp +arith [Tree.write]
  | .flag true => simp +arith [Tree.write]
  | .flag false => simp +arith [Tree.write]
  | .number n => exact n.length_write rest
  | .text ps =>
    have h := length_writeString ps rest
    simp only [Tree.write]
    omega
  | .list inner items =>
    have h := items.length_write true (']' :: rest)
    simp only [Tree.write, List.length_cons, List.length_append] at h ⊢
    omega
  | .object inner members =>
    have h := members.length_write true ('}' :: rest)
    simp only [Tree.write, List.length_cons, List.length_append] at h ⊢
    omega

theorem Items.length_write (items : Items) (first : Bool) (rest : List Char) :
    rest.length ≤ (items.write first rest).length := by
  match items with
  | .nil => simp [Items.write]
  | .cons before value after more =>
    have h := more.length_write false rest
    have hv := value.length_write (after.1 ++ more.write false rest)
    simp only [List.length_append] at hv
    cases first <;> simp only [Items.write, separated, List.length_cons, List.length_append,
      reduceIte, Bool.false_eq_true] <;> omega

theorem Members.length_write (members : Members) (first : Bool) (rest : List Char) :
    rest.length ≤ (members.write first rest).length := by
  match members with
  | .nil => simp [Members.write]
  | .cons before key gap lead value after more =>
    have h := more.length_write false rest
    have hv := value.length_write (after.1 ++ more.write false rest)
    have hk := length_writeString key
      (gap.1 ++ ':' :: (lead.1 ++ value.write (after.1 ++ more.write false rest)))
    simp only [List.length_append, List.length_cons] at hv hk
    cases first <;> simp only [Members.write, separated, List.length_cons, List.length_append,
      reduceIte, Bool.false_eq_true] <;> omega

end

namespace Reader

def proceed (comma : Bool) (closings values : Nat) (open_ : List Bracket) : Reader Unit := do
  match ← skipClosing closings comma open_ with
  | none => pure ()
  | some open_ => do
    if open_.head? = some .object then skipKey
    skipInside values open_

def within (values : Nat) : Option (List Bracket) → Reader Unit
  | none => pure ()
  | some open_ => do
    if open_.head? = some .object then skipKey
    skipInside values open_

theorem take_proceed (comma : Bool) (closings values : Nat) (open_ : List Bracket)
    (cs : List Char) :
    take (proceed comma closings values open_) cs =
      (take (skipClosing closings comma open_) cs).bind fun x => take (within values x.1) x.2 :=
  take_bind ..

section Closing
variable {n : Nat} {bs : List Bracket}

theorem take_skipClosing_nil (comma : Bool) (cs : List Char) :
    take (skipClosing (n + 1) comma []) cs = some (none, cs) := rfl

theorem take_skipClosing_list (comma : Bool) (b : Blanks) (cs : List Char) :
    take (skipClosing (n + 1) comma (.list :: bs)) (b.1 ++ ']' :: cs) =
      take (skipClosing n true bs) cs := by
  rw [skipClosing]
  simp [take_afterBlanks?_append, take_afterBlanks?_cons (c := ']') rfl]

theorem take_skipClosing_object (comma : Bool) (b : Blanks) (cs : List Char) :
    take (skipClosing (n + 1) comma (.object :: bs)) (b.1 ++ '}' :: cs) =
      take (skipClosing n true bs) cs := by
  rw [skipClosing]
  simp [take_afterBlanks?_append, take_afterBlanks?_cons (c := '}') rfl]

theorem take_skipClosing_comma (k : Bracket) (b : Blanks) (cs : List Char) :
    take (skipClosing (n + 1) true (k :: bs)) (b.1 ++ ',' :: cs) = some (some (k :: bs), cs) := by
  rw [skipClosing]
  simp [take_afterBlanks?_append, take_afterBlanks?_cons (c := ',') rfl]

/-- Behind an opening bracket a value can start. -/
theorem take_skipClosing_first (k : Bracket) (b b' : Blanks) {c : Char} (hc : Starts c)
    (cs : List Char) :
    take (skipClosing (n + 1) false (k :: bs)) (b.1 ++ (b'.1 ++ c :: cs)) =
      some (some (k :: bs), c :: cs) := by
  obtain ⟨hb, -, hl, ho⟩ := hc
  rw [skipClosing]
  simp [take_afterBlanks?_append, take_afterBlanks?_cons hb, hl, ho]

end Closing

theorem take_skipKey (b : Blanks) (key : List Piece) (gap : Blanks) (cs : List Char) :
    take skipKey (b.1 ++ writeString key (gap.1 ++ ':' :: cs)) = some ((), cs) := by
  unfold skipKey writeString
  simp [take_afterBlanks?_append, take_afterBlanks?_cons (c := '"') rfl, take_skipString,
    take_afterBlanks?_cons (c := ':') rfl]

def opening : Reader (Option Bracket) := do
  match ← afterBlanks? with
  | none => failPeek .endInValue
  | some c =>
    if c = 'n' then do skip; ident ['u', 'l', 'l']; pure none
    else if c = 't' then do skip; ident ['r', 'u', 'e']; pure none
    else if c = 'f' then do skip; ident ['a', 'l', 's', 'e']; pure none
    else if c = '-' then do skip; skipNumber; pure none
    else if c.isDigit then do skipNumber; pure none
    else if c = '"' then do skip; skipString; pure none
    else if c = '[' then do skip; pure (some Bracket.list)
    else if c = '{' then do skip; pure (some Bracket.object)
    else failPeek .expectedValue

theorem take_ite {α : Type} (p : Prop) [Decidable p] (r s : Reader α) (cs : List Char) :
    take (if p then r else s) cs = if p then take r cs else take s cs :=
  apply_ite (fun r => take r cs) p r s

theorem ite_bind {α β : Type} (p : Prop) [Decidable p] (x y : Option α) (f : α → Option β) :
    (if p then x else y).bind f = if p then x.bind f else y.bind f :=
  apply_ite (fun o => o.bind f) p x y

theorem take_skipInside_eq (n : Nat) (bs : List Bracket) (cs : List Char) :
    take (skipInside (n + 1) bs) cs =
      (take opening cs).bind fun x =>
        match x.1 with
        | none => take (proceed true n n bs) x.2
        | some b => take (proceed false n n (b :: bs)) x.2 := by
  rw [skipInside]
  unfold opening
  simp only [take_bind, take_afterBlanks?, Option.bind_some]
  cases cs.dropWhile isBlank with
  | nil => rfl
  | cons c cs =>
    simp only [List.head?_cons, take_ite, ite_bind, take_bind, take_pure, take_skip,
      Option.bind_assoc, Option.bind_some, take_failPeek, Option.bind_none, take_proceed]
    rfl

theorem take_opening_append (b : Blanks) (cs : List Char) :
    take opening (b.1 ++ cs) = take opening cs := by
  unfold opening
  rw [take_bind, take_bind, take_afterBlanks?_append]

theorem take_opening_number (n : Numeral) {rest : List Char} (hr : Stops rest) :
    take opening (n.write rest) = some (none, rest) := by
  have hs := take_skipNumber n hr
  unfold Numeral.write
  split
  · unfold opening
    rw [take_bind, take_afterBlanks?_cons rfl]
    simp [hs]
  · obtain ⟨c, cs, he, hc⟩ := n.writeUnsigned_cons rest
    rw [he] at hs ⊢
    have hne : c ≠ 'n' ∧ c ≠ 't' ∧ c ≠ 'f' ∧ c ≠ '-' := by
      refine ⟨?_, ?_, ?_, ?_⟩ <;>
      · rintro rfl
        exact absurd hc (by decide)
    unfold opening
    rw [take_bind, take_afterBlanks?_cons (isBlank_of_isDigit hc)]
    simp [hne, hc, hs]

theorem take_opening_scalar (t : Tree) (ht : ∀ b items, t ≠ .list b items)
    (ho : ∀ b members, t ≠ .object b members) {rest : List Char} (hr : Stops rest) :
    take opening (t.write rest) = some (none, rest) := by
  cases t with
  | null => rfl
  | flag v => cases v <;> rfl
  | number n => exact take_opening_number n hr
  | text ps =>
    unfold opening Tree.write writeString
    rw [take_bind, take_afterBlanks?_cons rfl]
    simp [take_skipString]
  | list b items => exact absurd rfl (ht b items)
  | object b members => exact absurd rfl (ho b members)

end Reader

section Proceed
variable {c f : Nat} {bs : List Bracket}

theorem take_skipInside_append (b : Blanks) (cs : List Char) :
    take (skipInside (f + 1) bs) (b.1 ++ cs) = take (skipInside (f + 1) bs) cs := by
  rw [take_skipInside_eq, take_skipInside_eq, take_opening_append]

theorem take_proceed_element (first : Bool) (b b' : Blanks) {d : Char} (hd : Starts d)
    (cs : List Char) :
    take (proceed (!first) (c + 1) (f + 1) (.list :: bs))
        (b.1 ++ separated first (b'.1 ++ d :: cs)) =
      take (skipInside (f + 1) (.list :: bs)) (b'.1 ++ d :: cs) := by
  unfold proceed
  cases first with
  | true =>
    rw [take_skipInside_append, take_bind]
    change ((take (skipClosing (c + 1) false _) (b.1 ++ (b'.1 ++ d :: cs))).bind _) = _
    rw [take_skipClosing_first _ b b' hd]
    rfl
  | false =>
    rw [take_bind]
    change ((take (skipClosing (c + 1) true _) (b.1 ++ ',' :: (b'.1 ++ d :: cs))).bind _) = _
    rw [take_skipClosing_comma]
    rfl

theorem take_proceed_member (first : Bool) (b b' : Blanks) (key : List Piece) (gap : Blanks)
    (cs : List Char) :
    take (proceed (!first) (c + 1) f (.object :: bs))
        (b.1 ++ separated first (b'.1 ++ writeString key (gap.1 ++ ':' :: cs))) =
      take (skipInside f (.object :: bs)) cs := by
  have hd : Starts '"' := ⟨rfl, by decide, by decide, by decide⟩
  have hk : take skipKey (writeString key (gap.1 ++ ':' :: cs)) = some ((), cs) :=
    take_skipKey ⟨[], by simp⟩ key gap cs
  unfold proceed
  cases first with
  | true =>
    rw [take_bind]
    change ((take (skipClosing (c + 1) false _) (b.1 ++ (b'.1 ++ '"' :: _))).bind _) = _
    rw [take_skipClosing_first _ b b' hd]
    change take (skipKey >>= fun _ => skipInside f (.object :: bs)) (writeString key _) = _
    rw [take_bind, hk]
    rfl
  | false =>
    rw [take_bind]
    change ((take (skipClosing (c + 1) true _) (b.1 ++ ',' :: _)).bind _) = _
    rw [take_skipClosing_comma]
    change take (skipKey >>= fun _ => skipInside f (.object :: bs)) _ = _
    rw [take_bind, take_skipKey]
    rfl

theorem take_proceed_endList (comma : Bool) (b : Blanks) (cs : List Char) :
    take (proceed comma (c + 1) f (.list :: bs)) (b.1 ++ ']' :: cs) =
      take (proceed true c f bs) cs := by
  unfold proceed
  rw [take_bind, take_bind, take_skipClosing_list]

theorem take_proceed_endObject (comma : Bool) (b : Blanks) (cs : List Char) :
    take (proceed comma (c + 1) f (.object :: bs)) (b.1 ++ '}' :: cs) =
      take (proceed true c f bs) cs := by
  unfold proceed
  rw [take_bind, take_bind, take_skipClosing_object]

end Proceed

theorem length_le_separated (first : Bool) (cs : List Char) :
    cs.length ≤ (separated first cs).length := by
  unfold separated
  split <;> simp

mutual

/-- Behind a value the reader goes on with what is open. The induction is on the value; the steps
that are left suffice for the characters that are left. -/
theorem Tree.take_skipInside (t : Tree) {n : Nat} (open_ : List Bracket) (b : Blanks)
    {rest : List Char} (hr : Stops rest) (hn : (b.1 ++ t.write rest).length + 2 ≤ n) :
    ∃ c f, rest.length < c ∧ rest.length + 2 ≤ f ∧
      take (skipInside n open_) (b.1 ++ t.write rest) = take (proceed true c f open_) rest := by
  obtain ⟨m, rfl⟩ : ∃ m, n = m + 1 := ⟨n - 1, by omega⟩
  rw [List.length_append] at hn
  rw [take_skipInside_eq, take_opening_append]
  match t with
  | .list inner items =>
    have hl : (Tree.list inner items).write rest =
        '[' :: (inner.1 ++ items.write true (']' :: rest)) := rfl
    rw [hl, List.length_cons] at hn
    exact items.take_proceed true open_ inner (by omega) (by omega)
  | .object inner members =>
    have hl : (Tree.object inner members).write rest =
        '{' :: (inner.1 ++ members.write true ('}' :: rest)) := rfl
    rw [hl, List.length_cons] at hn
    exact members.take_proceed true open_ inner (by omega) (by omega)
  | .null =>
    have hl := Tree.null.length_write rest
    rw [take_opening_scalar .null (by simp) (by simp) hr]
    exact ⟨m, m, by omega, by omega, rfl⟩
  | .flag v =>
    have hl := (Tree.flag v).length_write rest
    rw [take_opening_scalar (.flag v) (by simp) (by simp) hr]
    exact ⟨m, m, by omega, by omega, rfl⟩
  | .number a =>
    have hl := (Tree.number a).length_write rest
    rw [take_opening_scalar (.number a) (by simp) (by simp) hr]
    exact ⟨m, m, by omega, by omega, rfl⟩
  | .text ps =>
    have hl := (Tree.text ps).length_write rest
    rw [take_opening_scalar (.text ps) (by simp) (by simp) hr]
    exact ⟨m, m, by omega, by omega, rfl⟩

theorem Items.take_proceed (items : Items) (first : Bool) {c f : Nat} (open_ : List Bracket)
    (b : Blanks) {rest : List Char}
    (hc : (b.1 ++ items.write first (']' :: rest)).length < c)
    (hf : (b.1 ++ items.write first (']' :: rest)).length + 2 ≤ f) :
    ∃ c' f', rest.length < c' ∧ rest.length + 2 ≤ f' ∧
      take (proceed (!first) c f (.list :: open_)) (b.1 ++ items.write first (']' :: rest)) =
        take (proceed true c' f' open_) rest := by
  obtain ⟨c, rfl⟩ : ∃ m, c = m + 1 := ⟨c - 1, by omega⟩
  obtain ⟨f, rfl⟩ : ∃ m, f = m + 1 := ⟨f - 1, by omega⟩
  match items with
  | .nil =>
    simp only [Items.write, List.length_append, List.length_cons] at hc hf
    exact ⟨c, f + 1, by omega, by omega, take_proceed_endList _ b rest⟩
  | .cons before value after more =>
    have hr := more.stops after rest
    obtain ⟨d, cs, hd, hv⟩ := value.write_cons (after.1 ++ more.write false (']' :: rest))
    have hl := length_le_separated first
      (before.1 ++ value.write (after.1 ++ more.write false (']' :: rest)))
    simp only [Items.write] at hc hf ⊢
    rw [List.length_append] at hc hf
    obtain ⟨c', f', hc', hf', ht⟩ := value.take_skipInside (n := f + 1) (.list :: open_) before hr
      (by omega)
    obtain ⟨c'', f'', hc'', hf'', ht'⟩ := more.take_proceed false open_ after hc' hf'
    refine ⟨c'', f'', hc'', hf'', ?_⟩
    rw [hd, take_proceed_element first b before hv cs, ← hd, ht]
    exact ht'

theorem Members.take_proceed (members : Members) (first : Bool) {c f : Nat}
    (open_ : List Bracket) (b : Blanks) {rest : List Char}
    (hc : (b.1 ++ members.write first ('}' :: rest)).length < c)
    (hf : (b.1 ++ members.write first ('}' :: rest)).length + 2 ≤ f) :
    ∃ c' f', rest.length < c' ∧ rest.length + 2 ≤ f' ∧
      take (proceed (!first) c f (.object :: open_)) (b.1 ++ members.write first ('}' :: rest)) =
        take (proceed true c' f' open_) rest := by
  obtain ⟨c, rfl⟩ : ∃ m, c = m + 1 := ⟨c - 1, by omega⟩
  obtain ⟨f, rfl⟩ : ∃ m, f = m + 1 := ⟨f - 1, by omega⟩
  match members with
  | .nil =>
    simp only [Members.write, List.length_append, List.length_cons] at hc hf
    exact ⟨c, f + 1, by omega, by omega, take_proceed_endObject _ b rest⟩
  | .cons before key gap lead value after more =>
    have hr := more.stops after rest
    have hk := length_writeString key
      (gap.1 ++ ':' :: (lead.1 ++ value.write (after.1 ++ more.write false ('}' :: rest))))
    have hl := length_le_separated first (before.1 ++ writeString key
      (gap.1 ++ ':' :: (lead.1 ++ value.write (after.1 ++ more.write false ('}' :: rest)))))
    simp only [Members.write] at hc hf ⊢
    simp only [List.length_append, List.length_cons] at hc hf hk hl
    obtain ⟨c', f', hc', hf', ht⟩ := value.take_skipInside (n := f + 1) (.object :: open_) lead hr
      (by simp only [List.length_append]; omega)
    obtain ⟨c'', f'', hc'', hf'', ht'⟩ := more.take_proceed false open_ after hc' hf'
    refine ⟨c'', f'', hc'', hf'', ?_⟩
    rw [take_proceed_member first b before key gap, ht]
    exact ht'

end

theorem take_skipValue_eq (cs : List Char) :
    take skipValue cs = take (skipInside (cs.length + 2) []) cs := by
  unfold take skipValue
  rfl

theorem take_skipValue (t : Tree) (b : Blanks) {rest : List Char} (hr : Stops rest) :
    take skipValue (b.1 ++ t.write rest) = some ((), rest) := by
  obtain ⟨c, f, hc, -, ht⟩ := t.take_skipInside [] b hr (Nat.le_refl _)
  obtain ⟨c, rfl⟩ : ∃ m, c = m + 1 := ⟨c - 1, by omega⟩
  rw [take_skipValue_eq, ht]
  unfold proceed
  rw [take_bind, take_skipClosing_nil]
  rfl

end PluginHost.Json
