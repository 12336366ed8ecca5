import PluginHost.Proofs.Json.Taking
/-!
Numbers are taken for what they are written as. One that is written as a natural number of 64 bits
is taken for that; what any other is taken for is none.
-/
namespace PluginHost.Json
open Reader

inductive Stops : List Char → Prop where
  | nothing : Stops []
  | space (cs : List Char) : Stops (' ' :: cs)
  | newline (cs : List Char) : Stops ('\n' :: cs)
  | tab (cs : List Char) : Stops ('\t' :: cs)
  | carriageReturn (cs : List Char) : Stops ('\r' :: cs)
  | comma (cs : List Char) : Stops (',' :: cs)
  | bracket (cs : List Char) : Stops (']' :: cs)
  | brace (cs : List Char) : Stops ('}' :: cs)

def DigitFree (rest : List Char) : Prop := ∀ c ∈ rest.head?, c.isDigit = false

theorem Stops.digitFree {rest : List Char} (h : Stops rest) : DigitFree rest := by
  intro c hc
  cases h <;> cases hc <;> rfl

theorem Stops.blanks {rest : List Char} (h : Stops rest) (b : Blanks) : Stops (b.1 ++ rest) := by
  obtain ⟨bs, hb⟩ := b
  cases bs with
  | nil => exact h
  | cons c bs =>
    have hm := hb c List.mem_cons_self
    simp only [List.mem_cons, List.not_mem_nil, or_false] at hm
    rcases hm with rfl | rfl | rfl | rfl
    · exact .space _
    · exact .newline _
    · exact .tab _
    · exact .carriageReturn _

theorem take_digits_append {ds rest : List Char} (hd : ∀ c ∈ ds, c.isDigit = true)
    (hr : DigitFree rest) : take digits (ds ++ rest) = some (ds, rest) := by
  have ht : rest.takeWhile Char.isDigit = [] := by
    cases rest with
    | nil => rfl
    | cons c cs => exact List.takeWhile_cons_of_neg (by simp [hr c rfl])
  have hdrop : rest.dropWhile Char.isDigit = rest := by
    cases rest with
    | nil => rfl
    | cons c cs => exact List.dropWhile_cons_of_neg (by simp [hr c rfl])
  rw [take_digits, List.takeWhile_append_of_pos hd, List.dropWhile_append_of_pos hd, ht, hdrop,
    List.append_nil]

namespace Reader

def leading : Reader (List Char) := do
  match ← next? with
  | none => failHere .endInValue
  | some c =>
    if ¬ c.isDigit then failHere .invalidNumber
    else if c = '0' then
      match ← peek? with
      | some d => if d.isDigit then failPeek .invalidNumber else pure [c]
      | none => pure [c]
    else do
      let ds ← digits
      pure (c :: ds)

def numberAfter (positive : Bool) (ds : List Char) : Reader Number := do
  let (n, taken) := gather 0 ds
  let dropped : Int := ds.length - taken
  match ← peek? with
  | some '.' => decimalPart positive n dropped
  | some 'e' | some 'E' => exponentPart positive n dropped
  | _ =>
    if 0 < dropped then realOf positive n dropped
    else if positive then pure (.natural n)
    else if n = 0 ∨ twoTo 63 < n then pure (.real (-n.toUInt64.toFloat))
    else pure (.negative (-(n : Int)))

theorem take_number (positive : Bool) (cs : List Char) :
    take (number positive) cs =
      (take leading cs).bind fun x => take (numberAfter positive x.1) x.2 := by
  unfold number leading
  simp only [take_bind, take_next?, Option.bind_some]
  cases cs with
  | nil => rfl
  | cons c cs =>
    simp only [List.head?_cons, List.tail_cons]
    by_cases hc : c.isDigit
    · have hn : ¬¬c.isDigit = true := fun hf => hf hc
      rw [if_neg hn, if_neg hn]
      by_cases hz : c = '0'
      · rw [if_pos hz, if_pos hz]
        cases cs with
        | nil => rfl
        | cons d cs =>
          simp only [take_bind, take_peek?, Option.bind_some, List.head?_cons]
          split <;> rfl
      · rw [if_neg hz, if_neg hz]
        simp only [take_bind, take_digits, Option.bind_some, take_pure]
        rfl
    · rw [if_pos hc, if_pos hc]
      rfl

theorem head?_toDigits {n : Nat} (h : (Nat.toDigits 10 n).head? = some '0') : n = 0 := by
  induction n using Nat.strongRecOn with
  | ind n ih =>
    rw [Nat.toDigits_eq_if (by decide)] at h
    split at h
    · exact Nat.digitChar_eq_zero.mp (Option.some.inj h)
    · have hh : (Nat.toDigits 10 (n / 10)).head? = some '0' := by
        cases hc : Nat.toDigits 10 (n / 10) with
        | nil => exact absurd hc Nat.toDigits_ne_nil
        | cons c cs => rwa [hc] at h
      have hz := ih (n / 10) (by omega) hh
      omega

theorem take_leading (n : Nat) {rest : List Char} (hr : DigitFree rest) :
    take leading (Nat.toDigits 10 n ++ rest) = some (Nat.toDigits 10 n, rest) := by
  have hd : ∀ c ∈ Nat.toDigits 10 n, c.isDigit = true := fun c hc =>
    Nat.isDigit_of_mem_toDigits (by decide) (by decide) hc
  have hz := head?_toDigits (n := n)
  have hn : Nat.toDigits 10 n = ['0'] ∨ (Nat.toDigits 10 n).head? ≠ some '0' := by
    by_cases hh : (Nat.toDigits 10 n).head? = some '0'
    · exact .inl (by rw [hz hh]; rfl)
    · exact .inr hh
  cases he : Nat.toDigits 10 n with
  | nil => exact absurd he Nat.toDigits_ne_nil
  | cons c ds =>
    rw [he] at hd hn
    have hc : ¬¬c.isDigit = true := fun hf => hf (hd c List.mem_cons_self)
    unfold leading
    simp only [take_bind, take_next?, Option.bind_some, List.cons_append, List.head?_cons,
      List.tail_cons]
    rw [if_neg hc]
    rcases hn with hn | hn
    · obtain ⟨rfl, rfl⟩ := List.cons.inj hn
      rw [if_pos rfl]
      cases rest with
      | nil => rfl
      | cons d cs => simp [hr d rfl]
    · have h₀ : c ≠ '0' := fun hf => hn (by rw [hf]; rfl)
      rw [if_neg h₀, take_bind,
        take_digits_append (fun d hm => hd d (List.mem_cons_of_mem c hm)) hr]
      rfl

theorem le_ofDigitChars (n : Nat) (ds : List Char) : n ≤ Nat.ofDigitChars 10 ds n := by
  induction ds generalizing n with
  | nil => exact Nat.le_refl n
  | cons c ds ih =>
    rw [Nat.ofDigitChars_cons]
    have hi := ih (10 * n + (c.toNat - '0'.toNat))
    omega

theorem gather_cons (n : Nat) (c : Char) (ds : List Char) :
    gather n (c :: ds) =
      if 10 * n + (c.toNat - '0'.toNat) < UInt64.size then
        ((gather (10 * n + (c.toNat - '0'.toNat)) ds).1,
          (gather (10 * n + (c.toNat - '0'.toNat)) ds).2 + 1)
      else (n, 0) := by
  rw [gather, Nat.mul_comm n 10]

/-- All digits of a number of 64 bits are gathered. -/
theorem gather_of_lt {n : Nat} {ds : List Char} (h : Nat.ofDigitChars 10 ds n < UInt64.size) :
    gather n ds = (Nat.ofDigitChars 10 ds n, ds.length) := by
  induction ds generalizing n with
  | nil => rfl
  | cons c ds ih =>
    rw [Nat.ofDigitChars_cons] at h ⊢
    have hm := le_ofDigitChars (10 * n + (c.toNat - '0'.toNat)) ds
    rw [gather_cons, if_pos (Nat.lt_of_le_of_lt hm h), ih h]
    rfl

theorem gather_of_ge {n : Nat} {ds : List Char} (hn : n < UInt64.size)
    (h : UInt64.size ≤ Nat.ofDigitChars 10 ds n) : (gather n ds).2 < ds.length := by
  induction ds generalizing n with
  | nil => exact absurd h (Nat.not_le.mpr hn)
  | cons c ds ih =>
    rw [Nat.ofDigitChars_cons] at h
    rw [gather_cons]
    split
    · rename_i hm
      exact Nat.succ_lt_succ (ih hm h)
    · exact Nat.succ_pos _

def NeverNatural (r : Reader Number) : Prop :=
  ∀ cs x rest, take r cs = some (x, rest) → ∀ n, x ≠ .natural n

theorem realOf_never (positive : Bool) (n : Nat) (e : Int) :
    NeverNatural (realOf positive n e) := by
  intro cs x rest h m
  unfold realOf at h
  split at h
  · rw [take_pure] at h
    cases h
    exact Number.noConfusion
  · exact nomatch h

theorem NeverNatural.bind {α : Type} {r : Reader α} {f : α → Reader Number}
    (h : ∀ a, NeverNatural (f a)) : NeverNatural (r >>= f) := by
  intro cs x rest hr
  rw [take_bind, Option.bind_eq_some_iff] at hr
  obtain ⟨a, -, ha⟩ := hr
  exact h _ _ _ _ ha

theorem NeverNatural.fail {r : Reader Number} (h : ∀ cs, take r cs = none) : NeverNatural r := by
  intro cs x rest hr
  rw [h cs] at hr
  exact nomatch hr

theorem exponentPart_never (positive : Bool) (n : Nat) (e : Int) :
    NeverNatural (exponentPart positive n e) := by
  unfold exponentPart
  refine .bind fun _ => .bind fun sign => ?_
  have hrest (up : Bool) : NeverNatural (do
      match ← next? with
      | none => failHere .endInValue
      | some c =>
        if c.isDigit then
          let ds ← digits
          realOf positive n (if up then e + valueOf (c :: ds) else e - valueOf (c :: ds))
        else failHere .invalidNumber) := by
    refine .bind fun o => ?_
    split
    · exact .fail fun _ => rfl
    · split
      · exact .bind fun ds => realOf_never _ _ _
      · exact .fail fun _ => rfl
  split
  · exact .bind fun _ => hrest true
  · exact .bind fun _ => hrest false
  · exact hrest true

theorem decimalPart_never (positive : Bool) (n : Nat) (e : Int) :
    NeverNatural (decimalPart positive n e) := by
  unfold decimalPart
  refine .bind fun _ => .bind fun ds => ?_
  split
  · refine .bind fun o => ?_
    split <;> exact .fail fun _ => rfl
  · dsimp only
    refine .bind fun o => ?_
    split
    · exact exponentPart_never _ _ _
    · exact exponentPart_never _ _ _
    · exact realOf_never _ _ _

theorem numberAfter_never (ds : List Char) : NeverNatural (numberAfter false ds) := by
  unfold numberAfter
  dsimp only
  refine .bind fun o => ?_
  split
  · exact decimalPart_never _ _ _
  · exact exponentPart_never _ _ _
  · exact exponentPart_never _ _ _
  · split
    · exact realOf_never _ _ _
    · rw [if_neg (by decide)]
      intro cs x rest h m
      split at h <;>
      · rw [take_pure] at h
        cases h
        exact Number.noConfusion

theorem number_never : NeverNatural (number false) := by
  intro cs x rest h
  rw [take_number, Option.bind_eq_some_iff] at h
  obtain ⟨a, -, ha⟩ := h
  exact numberAfter_never _ _ _ _ ha

theorem take_numberAfter_stops (positive : Bool) (ds : List Char) {rest : List Char}
    (hr : Stops rest) :
    take (numberAfter positive ds) rest =
      take (if 0 < (ds.length : Int) - (gather 0 ds).2 then
          realOf positive (gather 0 ds).1 (ds.length - (gather 0 ds).2)
        else if positive then pure (.natural (gather 0 ds).1)
        else if (gather 0 ds).1 = 0 ∨ twoTo 63 < (gather 0 ds).1 then
          pure (.real (-(gather 0 ds).1.toUInt64.toFloat))
        else pure (.negative (-((gather 0 ds).1 : Int)))) rest := by
  cases hr <;> rfl

theorem take_numberAfter_natural {n : Nat} (hn : n < UInt64.size) {rest : List Char}
    (hr : Stops rest) :
    take (numberAfter true (Nat.toDigits 10 n)) rest = some (.natural n, rest) := by
  have hg : gather 0 (Nat.toDigits 10 n) = (n, (Nat.toDigits 10 n).length) := by
    have hv : Nat.ofDigitChars 10 (Nat.toDigits 10 n) 0 = n := Nat.ofDigitChars_ten_toDigits
    rw [gather_of_lt (by rw [hv]; exact hn), hv]
  rw [take_numberAfter_stops true _ hr, hg, if_neg (by omega), if_pos rfl, take_pure]

theorem take_numberAfter_large {n : Nat} (hn : UInt64.size ≤ n) {rest : List Char}
    (hr : Stops rest) {x : Number} {rest' : List Char}
    (h : take (numberAfter true (Nat.toDigits 10 n)) rest = some (x, rest')) (m : Nat) :
    x ≠ .natural m := by
  have hg : (gather 0 (Nat.toDigits 10 n)).2 < (Nat.toDigits 10 n).length :=
    gather_of_ge (by decide) (by rw [Nat.ofDigitChars_ten_toDigits]; exact hn)
  rw [take_numberAfter_stops true _ hr, if_pos (by omega)] at h
  exact realOf_never _ _ _ _ _ _ h m

end Reader

namespace Reader

/-- With a fraction or an exponent a number is no natural one. -/
theorem numberAfter_marked {c : Char} (hc : c = '.' ∨ c = 'e' ∨ c = 'E') {ds cs : List Char}
    {x : Number} {rest : List Char}
    (h : take (numberAfter true ds) (c :: cs) = some (x, rest)) (m : Nat) : x ≠ .natural m := by
  unfold numberAfter at h
  rcases hc with rfl | rfl | rfl
  · exact decimalPart_never _ _ _ _ _ _ h m
  · exact exponentPart_never _ _ _ _ _ _ h m
  · exact exponentPart_never _ _ _ _ _ _ h m

end Reader

namespace Numeral

theorem writeFraction_cases (n : Numeral) (rest : List Char) :
    (n.fraction = none ∧ n.exponent = none ∧ n.writeFraction rest = rest) ∨
      ((n.fraction.isSome || n.exponent.isSome) = true ∧
        ∃ c cs, n.writeFraction rest = c :: cs ∧ (c = '.' ∨ c = 'e' ∨ c = 'E')) := by
  unfold writeFraction writeExponent
  cases n.fraction with
  | some ds => exact .inr ⟨rfl, _, _, rfl, .inl rfl⟩
  | none =>
    cases n.exponent with
    | none => exact .inl ⟨rfl, rfl, rfl⟩
    | some e =>
      refine .inr ⟨rfl, _, _, rfl, ?_⟩
      cases e.capital
      · exact .inr (.inl rfl)
      · exact .inr (.inr rfl)

theorem digitFree_writeFraction (n : Numeral) {rest : List Char} (hr : Stops rest) :
    DigitFree (n.writeFraction rest) := by
  obtain ⟨-, -, he⟩ | ⟨-, c, cs, he, hc⟩ := n.writeFraction_cases rest
  · rw [he]
    exact hr.digitFree
  · rw [he]
    intro d hd
    cases hd
    rcases hc with rfl | rfl | rfl <;> rfl

end Numeral

/-- A number without a minus is taken for the natural number that it is written as. -/
theorem take_number_unsigned {n : Numeral} (hm : n.minus = false) {rest : List Char}
    (hr : Stops rest) :
    (∃ m, n.natural? = some m ∧ m < UInt64.size ∧
      take (number true) (n.writeUnsigned rest) = some (.natural m, rest)) ∨
    ((∀ m, n.natural? = some m → UInt64.size ≤ m) ∧
      ∀ x rest', take (number true) (n.writeUnsigned rest) = some (x, rest') →
        ∀ m, x ≠ .natural m) := by
  have ht : take (number true) (n.writeUnsigned rest) =
      take (numberAfter true (Nat.toDigits 10 n.whole)) (n.writeFraction rest) := by
    rw [take_number, Numeral.writeUnsigned, take_leading n.whole (n.digitFree_writeFraction hr)]
    rfl
  rw [ht]
  unfold Numeral.natural?
  obtain ⟨hf, he, hw⟩ | ⟨hs, c, cs, hw, hc⟩ := n.writeFraction_cases rest
  · rw [hw, hm, hf, he]
    rcases Nat.lt_or_ge n.whole UInt64.size with hn | hn
    · exact .inl ⟨_, rfl, hn, take_numberAfter_natural hn hr⟩
    · refine .inr ⟨fun m hm => ?_, fun x rest' => take_numberAfter_large hn hr⟩
      rwa [← Option.some.inj hm]
  · rw [hw, hm, Bool.false_or, hs]
    exact .inr ⟨fun m hm => (nomatch hm), fun x rest' h => numberAfter_marked hc h⟩

theorem isBlank_of_isDigit {c : Char} (hc : c.isDigit = true) : isBlank c = false := by
  unfold isBlank
  simp only [Bool.or_eq_false_iff, decide_eq_false_iff_not]
  refine ⟨⟨⟨?_, ?_⟩, ?_⟩, ?_⟩ <;>
  · rintro rfl
    exact absurd hc (by decide)

theorem Numeral.writeUnsigned_cons (n : Numeral) (rest : List Char) :
    ∃ c cs, n.writeUnsigned rest = c :: cs ∧ c.isDigit = true := by
  unfold writeUnsigned
  cases he : Nat.toDigits 10 n.whole with
  | nil => exact absurd he Nat.toDigits_ne_nil
  | cons c ds =>
    have hm : c ∈ Nat.toDigits 10 n.whole := by
      rw [he]
      exact List.mem_cons_self
    exact ⟨c, _, rfl, Nat.isDigit_of_mem_toDigits (by decide) (by decide) hm⟩

def Reader.bounded (bound : Nat) (expected : String) : Number → Reader Nat
  | .natural n => if n < bound then pure n else failHere (.wrongValue (.integer n) expected)
  | .negative n => failHere (.wrongValue (.integer n) expected)
  | .real x => failHere (.wrongType (.real x.toBits) expected)

theorem take_bounded_never (bound : Nat) (expected : String) {r : Reader Number} {cs : List Char}
    (h : ∀ x rest, take r cs = some (x, rest) → ∀ m, x ≠ .natural m) :
    ((take r cs).bind fun x => take (bounded bound expected x.1) x.2) = none := by
  cases ht : take r cs with
  | none => rfl
  | some x =>
    obtain ⟨x, rest⟩ := x
    cases x with
    | natural m => exact absurd rfl (h _ _ ht m)
    | negative m => rfl
    | real x => rfl

theorem take_natural {bound : Nat} (hb : bound ≤ UInt64.size) (expected : String) (b : Blanks)
    (n : Numeral) {rest : List Char} (hr : Stops rest) :
    take (natural bound expected) (b.1 ++ n.write rest) =
      n.natural?.bind fun m => if m < bound then some (m, rest) else none := by
  cases hm : n.minus with
  | true =>
    have hn : n.natural? = none := by
      unfold Numeral.natural?
      rw [hm]
      rfl
    have hstart : take (natural bound expected) (b.1 ++ n.write rest) =
        (take (number false) (n.writeUnsigned rest)).bind fun x =>
          take (bounded bound expected x.1) x.2 := by
      unfold natural Numeral.write
      rw [if_pos hm, take_bind, take_valueStart b rfl, Option.bind_some]
      dsimp only
      rw [if_pos rfl, take_bind, take_skip, Option.bind_some, take_bind]
      rfl
    rw [hn, hstart]
    exact take_bounded_never bound expected (number_never _)
  | false =>
    obtain ⟨c, cs, hcs, hc⟩ := n.writeUnsigned_cons rest
    have hne : c ≠ '-' := by
      rintro rfl
      exact absurd hc (by decide)
    have hstart : take (natural bound expected) (b.1 ++ n.write rest) =
        (take (number true) (n.writeUnsigned rest)).bind fun x =>
          take (bounded bound expected x.1) x.2 := by
      unfold natural Numeral.write
      rw [if_neg (by simp [hm]), hcs, take_bind, take_valueStart b (isBlank_of_isDigit hc),
        Option.bind_some]
      dsimp only
      rw [if_neg hne, if_pos hc, take_bind]
      rfl
    rw [hstart]
    obtain ⟨m, hn, hl, ht⟩ | ⟨hn, ht⟩ := take_number_unsigned hm hr
    · rw [hn, ht, Option.bind_some, Option.bind_some]
      change take (if m < bound then pure m else _) rest = _
      split <;> rfl
    · rw [take_bounded_never bound expected ht]
      cases he : n.natural? with
      | none => rfl
      | some m => rw [Option.bind_some, if_neg (Nat.not_lt.mpr (Nat.le_trans hb (hn m he)))]

/-! ### Numbers of no interest -/

namespace Reader

def skipDigits : Reader Unit := do
  match ← next? with
  | some c => if c.isDigit then do let _ ← digits else failHere .invalidNumber
  | none => failHere .invalidNumber

def skipExponent : Reader Unit := do
  skip
  match ← peek? with
  | some '+' | some '-' => skip
  | _ => pure ()
  skipDigits

def skipAfter : Reader Unit := do
  match ← peek? with
  | some '.' => do
    skip
    let ds ← digits
    if ds.isEmpty then failPeek .invalidNumber
    match ← peek? with
    | some 'e' | some 'E' => skipExponent
    | _ => pure ()
  | some 'e' | some 'E' => skipExponent
  | _ => pure ()

end Reader

theorem take_skipNumber_eq (cs : List Char) :
    take skipNumber cs = (take leading cs).bind fun x => take skipAfter x.2 := by
  unfold skipNumber leading
  simp only [take_bind, take_next?, Option.bind_some]
  cases cs with
  | nil => rfl
  | cons c cs =>
    simp only [List.head?_cons, List.tail_cons]
    by_cases hc : c.isDigit
    · have hn : ¬¬c.isDigit = true := fun hf => hf hc
      rw [if_neg hn, if_neg hn]
      by_cases hz : c = '0'
      · rw [if_pos hz, if_pos hz]
        cases cs with
        | nil => rfl
        | cons d cs =>
          simp only [take_bind, take_peek?, Option.bind_some, List.head?_cons]
          split <;> rfl
      · rw [if_neg hz, if_neg hz]
        rfl
    · rw [if_pos hc, if_pos hc]
      rfl

theorem take_skipDigits (ds : Digits) {rest : List Char} (hr : DigitFree rest) :
    take skipDigits (ds.1 ++ rest) = some ((), rest) := by
  obtain ⟨ds, hne, hd⟩ := ds
  cases ds with
  | nil => exact absurd rfl hne
  | cons c ds =>
    have hds : ∀ d ∈ ds, d.isDigit = true := fun d hm => hd d (List.mem_cons_of_mem c hm)
    unfold skipDigits
    simp only [List.cons_append, take_bind, take_next?, Option.bind_some, List.head?_cons,
      List.tail_cons]
    rw [if_pos (hd c List.mem_cons_self), take_bind, take_digits_append hds hr]
    rfl

theorem take_skipExponent (e : Exponent) {rest : List Char} (hr : DigitFree rest) :
    take skipExponent (e.write rest) = some ((), rest) := by
  have ht := take_skipDigits e.digits hr
  unfold Exponent.write
  cases e.sign with
  | some minus => cases minus <;> exact ht
  | none =>
    obtain ⟨ds, hne, hd⟩ := e.digits
    cases ds with
    | nil => exact absurd rfl hne
    | cons c ds =>
      have hc := hd c List.mem_cons_self
      unfold skipExponent
      simp only [take_bind, take_skip, take_peek?, Option.bind_some, List.tail_cons,
        List.cons_append, List.head?_cons]
      split
      · rename_i h
        cases h
        exact absurd hc (by decide)
      · rename_i h
        cases h
        exact absurd hc (by decide)
      · exact take_skipDigits ⟨c :: ds, hne, hd⟩ hr

def Reader.skipExponent? : Reader Unit := do
  match ← peek? with
  | some 'e' | some 'E' => skipExponent
  | _ => pure ()

theorem writeExponent_cases (n : Numeral) (rest : List Char) :
    n.writeExponent rest = rest ∨
      ∃ (e : Exponent) (c : Char) (cs : List Char), n.writeExponent rest = e.write rest ∧
        e.write rest = c :: cs ∧ (c = 'e' ∨ c = 'E') := by
  unfold Numeral.writeExponent
  cases n.exponent with
  | none => exact .inl rfl
  | some e =>
    refine .inr ⟨e, _, _, rfl, rfl, ?_⟩
    cases e.capital
    · exact .inl rfl
    · exact .inr rfl

theorem digitFree_writeExponent (n : Numeral) {rest : List Char} (hr : Stops rest) :
    DigitFree (n.writeExponent rest) := by
  obtain he | ⟨e, c, cs, he, hw, hc⟩ := writeExponent_cases n rest
  · rw [he]
    exact hr.digitFree
  · rw [he, hw]
    intro d hd
    cases hd
    rcases hc with rfl | rfl <;> rfl

theorem take_skipExponent? (n : Numeral) {rest : List Char} (hr : Stops rest) :
    take skipExponent? (n.writeExponent rest) = some ((), rest) := by
  obtain he | ⟨e, c, cs, he, hw, hc⟩ := writeExponent_cases n rest
  · rw [he]
    cases hr <;> rfl
  · have ht := take_skipExponent e hr.digitFree
    rw [he]
    rw [hw] at ht ⊢
    rcases hc with rfl | rfl <;> exact ht

theorem take_skipAfter (n : Numeral) {rest : List Char} (hr : Stops rest) :
    take skipAfter (n.writeFraction rest) = some ((), rest) := by
  have hx := take_skipExponent? n hr
  unfold Numeral.writeFraction
  cases n.fraction with
  | none =>
    obtain he | ⟨e, c, cs, he, hw, hc⟩ := writeExponent_cases n rest
    · dsimp only
      rw [he]
      cases hr <;> rfl
    · rw [he, hw] at hx
      dsimp only
      rw [he, hw]
      rcases hc with rfl | rfl <;> exact hx
  | some ds =>
    have hd := take_digits_append ds.2.2 (digitFree_writeExponent n hr)
    have he : ds.1.isEmpty = false := by simp [ds.2.1]
    unfold skipAfter
    simp only [take_bind, take_peek?, Option.bind_some, List.head?_cons, take_skip, List.tail_cons,
      hd, he]
    exact hx

theorem take_skipNumber (n : Numeral) {rest : List Char} (hr : Stops rest) :
    take skipNumber (n.writeUnsigned rest) = some ((), rest) := by
  rw [take_skipNumber_eq, Numeral.writeUnsigned,
    take_leading n.whole (n.digitFree_writeFraction hr), Option.bind_some, take_skipAfter n hr]

end PluginHost.Json
