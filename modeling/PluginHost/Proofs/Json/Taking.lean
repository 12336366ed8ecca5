import PluginHost.Proofs.Json.Notation
/-!
What a reader takes off a text and what it leaves, no matter which problem it reports if it takes
nothing. Strings and numbers are taken for what they stand for.
-/
namespace PluginHost.Json
open Reader

namespace Reader
variable {α β : Type}

def take (r : Reader α) (cs : List Char) : Option (α × List Char) := (r cs).toOption

@[simp] theorem take_pure (a : α) (cs : List Char) : take (pure a) cs = some (a, cs) := rfl

@[simp] theorem take_bind (r : Reader α) (f : α → Reader β) (cs : List Char) :
    take (r >>= f) cs = (take r cs).bind fun x => take (f x.1) x.2 := by
  change (bind (r cs) fun x => f x.1 x.2).toOption = _
  unfold take
  cases r cs <;> rfl

@[simp] theorem take_map (f : α → β) (r : Reader α) (cs : List Char) :
    take (f <$> r) cs = (take r cs).map fun x => (f x.1, x.2) := by
  change (bind (r cs) fun x => pure (f x.1, x.2)).toOption = _
  unfold take
  cases r cs <;> rfl

@[simp] theorem take_failPeek (p : Problem) (cs : List Char) :
    take (failPeek p : Reader α) cs = none := rfl

@[simp] theorem take_failHere (p : Problem) (cs : List Char) :
    take (failHere p : Reader α) cs = none := rfl

@[simp] theorem take_failLater (p : Problem) (cs : List Char) :
    take (failLater p : Reader α) cs = none := rfl

@[simp] theorem take_peek? (cs : List Char) : take peek? cs = some (cs.head?, cs) := rfl

@[simp] theorem take_next? (cs : List Char) : take next? cs = some (cs.head?, cs.tail) := rfl

@[simp] theorem take_skip (cs : List Char) : take skip cs = some ((), cs.tail) := rfl

@[simp] theorem take_digits (cs : List Char) :
    take digits cs = some (cs.takeWhile Char.isDigit, cs.dropWhile Char.isDigit) := rfl

theorem take_afterBlanks? (cs : List Char) :
    take afterBlanks? cs = some ((cs.dropWhile isBlank).head?, cs.dropWhile isBlank) := rfl

theorem take_afterBlanks?_append (b : Blanks) (cs : List Char) :
    take afterBlanks? (b.1 ++ cs) = take afterBlanks? cs := by
  have hb : ∀ c ∈ b.1, isBlank c = true := by
    intro c hc
    have hm := b.2 c hc
    simp only [List.mem_cons, List.not_mem_nil, or_false] at hm
    rcases hm with rfl | rfl | rfl | rfl <;> rfl
  rw [take_afterBlanks?, take_afterBlanks?, List.dropWhile_append_of_pos hb]

/-- A character that is not blank is not passed over. -/
theorem take_afterBlanks?_cons {c : Char} (hc : isBlank c = false) (cs : List Char) :
    take afterBlanks? (c :: cs) = some (some c, c :: cs) := by
  rw [take_afterBlanks?, List.dropWhile_cons_of_neg (by simp [hc])]
  rfl

theorem take_valueStart (b : Blanks) {c : Char} (hc : isBlank c = false) (cs : List Char) :
    take valueStart (b.1 ++ c :: cs) = some (c, c :: cs) := by
  unfold valueStart
  rw [take_bind, take_afterBlanks?_append, take_afterBlanks?_cons hc]
  rfl

theorem take_ident (word cs : List Char) : take (ident word) (word ++ cs) = some ((), cs) := by
  induction word with
  | nil => rfl
  | cons c word ih => simpa [ident] using ih

end Reader

/-! ### Strings -/

theorem hexDigit?_written (d : HexDigit) : hexDigit? d.written = some d.value.val := by
  obtain ⟨value, upper⟩ := d
  revert value upper
  decide

theorem letterEscape?_written (l : Letter) : letterEscape? l.written = some l.meant := by
  cases l <;> rfl

theorem Letter.written_ne (l : Letter) : l.written ≠ 'u' := by
  cases l <;> decide

theorem take_hexEscape (u : CodeUnit) (rest : List Char) :
    take hexEscape (u.written ++ rest) = some (u.value, rest) := by
  simp [take, hexEscape, CodeUnit.written, hexDigit?_written, CodeUnit.value, Except.toOption]

section Escapes
variable {u : CodeUnit}

theorem take_unicodeEscape (hh : ¬u.IsHigh) (hl : ¬u.IsLow) (rest : List Char) :
    take unicodeEscape (u.written ++ rest) = some (Char.ofNat u.value, rest) := by
  have hs : u.value < 0xD800 ∨ 0xDBFF < u.value := by
    unfold CodeUnit.IsHigh at hh
    omega
  have hl' : ¬(0xDC00 ≤ u.value ∧ u.value ≤ 0xDFFF) := hl
  unfold unicodeEscape
  rw [take_bind, take_hexEscape, Option.bind_some]
  dsimp only
  rw [if_neg hl', if_pos hs, take_pure]

theorem take_unicodeEscape_low (hl : u.IsLow) (rest : List Char) :
    take unicodeEscape (u.written ++ rest) = none := by
  have hl' : 0xDC00 ≤ u.value ∧ u.value ≤ 0xDFFF := hl
  unfold unicodeEscape
  rw [take_bind, take_hexEscape, Option.bind_some]
  dsimp only
  rw [if_pos hl', take_failHere]

theorem take_unicodeEscape_pair (hh : u.IsHigh) (v : CodeUnit) (rest : List Char) :
    take unicodeEscape (u.written ++ '\\' :: 'u' :: (v.written ++ rest)) =
      if v.IsLow then some (u.joined v, rest) else none := by
  have hl : ¬(0xDC00 ≤ u.value ∧ u.value ≤ 0xDFFF) := by
    unfold CodeUnit.IsHigh at hh
    omega
  have hs : ¬(u.value < 0xD800 ∨ 0xDBFF < u.value) := by
    unfold CodeUnit.IsHigh at hh
    omega
  unfold unicodeEscape
  rw [take_bind, take_hexEscape, Option.bind_some]
  dsimp only
  rw [if_neg hl, if_neg hs]
  simp only [take_bind, take_peek?, take_skip, Option.bind_some, List.head?_cons, List.tail_cons,
    ne_eq, not_true_eq_false, if_false, take_hexEscape]
  by_cases hv : v.IsLow
  · have hv' : ¬(v.value < 0xDC00 ∨ 0xDFFF < v.value) := by
      unfold CodeUnit.IsLow at hv
      omega
    have hj : (u.value - 0xD800) * 0x400 + (v.value - 0xDC00) + 0x10000 =
        0x10000 + 0x400 * (u.value - 0xD800) + (v.value - 0xDC00) := by omega
    rw [if_pos hv, if_neg hv', take_pure, hj]
    rfl
  · have hv' : v.value < 0xDC00 ∨ 0xDFFF < v.value := by
      unfold CodeUnit.IsLow at hv
      omega
    rw [if_neg hv, if_pos hv', take_failHere]

theorem take_unicodeEscape_alone (hh : u.IsHigh) {rest : List Char}
    (hr : ∀ cs, rest ≠ '\\' :: 'u' :: cs) : take unicodeEscape (u.written ++ rest) = none := by
  have hl : ¬(0xDC00 ≤ u.value ∧ u.value ≤ 0xDFFF) := by
    unfold CodeUnit.IsHigh at hh
    omega
  have hs : ¬(u.value < 0xD800 ∨ 0xDBFF < u.value) := by
    unfold CodeUnit.IsHigh at hh
    omega
  unfold unicodeEscape
  rw [take_bind, take_hexEscape, Option.bind_some]
  dsimp only
  rw [if_neg hl, if_neg hs]
  simp only [take_bind, take_peek?, Option.bind_some]
  match rest, hr with
  | [], _ => rfl
  | [c], _ =>
    simp only [List.head?_cons, take_bind, take_skip, Option.bind_some, List.tail_cons]
    split <;> rfl
  | c :: d :: cs, hr =>
    simp only [List.head?_cons, take_bind, take_skip, Option.bind_some, List.tail_cons]
    by_cases hc : c = '\\'
    · subst hc
      have hd : d ≠ 'u' := by
        rintro rfl
        exact hr cs rfl
      rw [if_neg (by simp)]
      simp [hd]
    · rw [if_pos hc]
      rfl

end Escapes

/-- Pieces that do not start with a code unit do not start like one. -/
theorem foldr_write_ne {ps : List Piece} (hp : ∀ v qs, ps ≠ .unit v :: qs) (rest : List Char) :
    ∀ cs, ps.foldr Piece.write ('"' :: rest) ≠ '\\' :: 'u' :: cs := by
  intro cs
  match ps with
  | [] => simp
  | .plain c h :: qs => simp [Piece.write, h.2.2]
  | .letter l :: qs => simp [Piece.write, l.written_ne]
  | .unit v :: qs => exact absurd rfl (hp v qs)

theorem take_escape_letter (l : Letter) (rest : List Char) :
    take escape (l.written :: rest) = some (l.meant, rest) := by
  cases l <;> rfl

theorem take_escape_unit (rest : List Char) : take escape ('u' :: rest) = take unicodeEscape rest :=
  rfl

theorem take_stringTail_escape (fuel : Nat) (done rest : List Char) :
    take (stringTail (fuel + 1) done) ('\\' :: rest) =
      (take escape rest).bind fun x => take (stringTail fuel (x.1 :: done)) x.2 := by
  simp [stringTail]

theorem map_done_cons (c : Char) (done rest : List Char) (o : Option (List Char)) :
    (o.map fun cs => (String.ofList ((c :: done).reverse ++ cs), rest)) =
      (o.map (c :: ·)).map fun cs => (String.ofList (done.reverse ++ cs), rest) := by
  cases o <;> simp

/-- A string is taken for what its pieces mean. -/
theorem take_stringTail (ps : List Piece) (rest : List Char) {fuel : Nat} (done : List Char)
    (hf : ps.length < fuel) :
    take (stringTail fuel done) (ps.foldr Piece.write ('"' :: rest)) =
      (meant ps).map fun cs => (String.ofList (done.reverse ++ cs), rest) := by
  obtain ⟨fuel, rfl⟩ : ∃ n, fuel = n + 1 := ⟨fuel - 1, by omega⟩
  -- Two halves of a character count as one piece here, as they do for the reader.
  fun_induction meant ps generalizing fuel done with
  | case1 => simp [stringTail]
  | case2 c h ps ih =>
    have hc : ¬ c.toNat < 0x20 := Nat.not_lt.mpr h.1
    obtain ⟨fuel, rfl⟩ : ∃ n, fuel = n + 1 := ⟨fuel - 1, by simp at hf; omega⟩
    rw [← map_done_cons, ← ih _ fuel (by simpa using hf)]
    simp [stringTail, Piece.write, h.2, hc]
  | case3 l ps ih =>
    obtain ⟨fuel, rfl⟩ : ∃ n, fuel = n + 1 := ⟨fuel - 1, by simp at hf; omega⟩
    rw [← map_done_cons, ← ih _ fuel (by simpa using hf)]
    simp only [List.foldr_cons, Piece.write, take_stringTail_escape, take_escape_letter,
      Option.bind_some]
  | case4 u hu v ps hv ih =>
    obtain ⟨fuel, rfl⟩ : ∃ n, fuel = n + 1 := ⟨fuel - 1, by simp at hf; omega⟩
    rw [← map_done_cons, ← ih _ fuel (by simp at hf; omega)]
    simp only [List.foldr_cons, Piece.write, take_stringTail_escape, take_escape_unit,
      take_unicodeEscape_pair hu, if_pos hv, Option.bind_some]
  | case5 u hu v ps hv =>
    simp only [List.foldr_cons, Piece.write, take_stringTail_escape, take_escape_unit,
      take_unicodeEscape_pair hu, if_neg hv, Option.bind_none, Option.map_none]
  | case6 u ps hu hp =>
    have hr := foldr_write_ne (fun v qs he => hp v qs he) rest
    simp only [List.foldr_cons, Piece.write, take_stringTail_escape, take_escape_unit,
      take_unicodeEscape_alone hu hr, Option.bind_none, Option.map_none]
  | case7 u ps hu hl =>
    simp only [List.foldr_cons, Piece.write, take_stringTail_escape, take_escape_unit,
      take_unicodeEscape_low hl, Option.bind_none, Option.map_none]
  | case8 u ps hu hl ih =>
    obtain ⟨fuel, rfl⟩ : ∃ n, fuel = n + 1 := ⟨fuel - 1, by simp at hf; omega⟩
    rw [← map_done_cons, ← ih _ fuel (by simpa using hf)]
    simp only [List.foldr_cons, Piece.write, take_stringTail_escape, take_escape_unit,
      take_unicodeEscape hu hl, Option.bind_some]

theorem length_le_foldr_write (ps : List Piece) (rest : List Char) :
    ps.length + rest.length ≤ (ps.foldr Piece.write rest).length := by
  induction ps with
  | nil => simp
  | cons p ps ih =>
    rw [List.foldr_cons]
    cases p <;> simp [Piece.write, CodeUnit.written] <;> omega

theorem take_stringBody (ps : List Piece) (rest : List Char) :
    take stringBody (ps.foldr Piece.write ('"' :: rest)) =
      (keyOf ps).map fun s => (s, rest) := by
  have hl := length_le_foldr_write ps ('"' :: rest)
  unfold stringBody keyOf
  change take (stringTail _ []) _ = _
  rw [take_stringTail ps rest [] (by omega), Option.map_map]
  rfl

theorem take_skipStringTail (ps : List Piece) (rest : List Char) {fuel : Nat}
    (hf : ps.length < fuel) :
    take (skipStringTail fuel) (ps.foldr Piece.write ('"' :: rest)) = some ((), rest) := by
  induction ps generalizing fuel with
  | nil =>
    obtain ⟨fuel, rfl⟩ : ∃ n, fuel = n + 1 := ⟨fuel - 1, by omega⟩
    simp [skipStringTail]
  | cons p ps ih =>
    obtain ⟨fuel, rfl⟩ : ∃ n, fuel = n + 1 := ⟨fuel - 1, by omega⟩
    have hr : take (skipStringTail fuel) (ps.foldr Piece.write ('"' :: rest)) = some ((), rest) :=
      ih (by simpa using hf)
    cases p with
    | plain c h =>
      have hc : ¬ c.toNat < 0x20 := Nat.not_lt.mpr h.1
      simp [skipStringTail, Piece.write, h.2, hc, hr]
    | letter l =>
      simp [skipStringTail, Piece.write, l.written_ne, letterEscape?_written, hr]
    | unit u =>
      simp [skipStringTail, Piece.write, take_hexEscape, hr]

theorem take_skipString (ps : List Piece) (rest : List Char) :
    take skipString (ps.foldr Piece.write ('"' :: rest)) = some ((), rest) := by
  have hl := length_le_foldr_write ps ('"' :: rest)
  exact take_skipStringTail ps rest (by omega)

end PluginHost.Json
