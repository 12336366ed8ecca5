import PluginHost.Counting
/-!
The shortest decimal that reads back as a given binary number. A positive number
`mantissa * 2 ^ exponent` stands for an interval of reals that round to it; the interval holds its
ends exactly when the mantissa is even. `shortest` takes the coarsest grid of multiples of a power
of ten that meets the interval, and on it the point nearest to the number. All arithmetic is on
natural numbers.
-/
namespace PluginHost.Decimal

structure Binary where
  mantissa : Nat
  exponent : Int
  /-- The next smaller number is half as far away as the next larger one. -/
  lowEdge : Bool
  deriving DecidableEq, Inhabited

def Binary.ofBits? (bits : UInt64) : Option Binary :=
  let field := (bits >>> 52 &&& 0x7FF).toNat
  let fraction := (bits &&& 0xFFFFFFFFFFFFF).toNat
  if field = 0 then
    if fraction = 0 then none else some ⟨fraction, -1074, false⟩
  else some ⟨twoTo 52 + fraction, (field : Int) - 1075, fraction = 0 ∧ 1 < field⟩

structure Digits where
  digits : Nat
  exponent : Int
  deriving DecidableEq, Inhabited

structure Scaled where
  value : Nat
  low : Nat
  high : Nat
  unit : Nat

def Binary.scaled (b : Binary) (k : Int) : Scaled :=
  let factor := twoTo (b.exponent - 2).toNat * Nat.pow 10 (-k).toNat
  { value := 4 * b.mantissa * factor
    low := (4 * b.mantissa - if b.lowEdge then 1 else 2) * factor
    high := (4 * b.mantissa + 2) * factor
    unit := Nat.pow 10 k.toNat * twoTo (2 - b.exponent).toNat }

def Binary.holds (b : Binary) (s : Scaled) (point : Nat) : Bool :=
  let x := point * s.unit
  if b.mantissa % 2 = 0 then s.low ≤ x && x ≤ s.high else s.low < x && x < s.high

def Binary.onGrid? (b : Binary) (k : Int) : Option Digits :=
  let s := b.scaled k
  let below := s.value / s.unit
  let above := below + 1
  match b.holds s below && 0 < below, b.holds s above with
  | false, false => none
  | true, false => some ⟨below, k⟩
  | false, true => some ⟨above, k⟩
  | true, true =>
    if s.value - below * s.unit ≤ above * s.unit - s.value then some ⟨below, k⟩
    else some ⟨above, k⟩

def Binary.coarsest (b : Binary) : Nat → Int → Digits
  | 0, k => ⟨0, k⟩
  | steps + 1, k => (b.onGrid? k).getD (b.coarsest steps (k - 1))

/-- The shortest decimal that reads back as the number; its grid lies between `10 ^ 309` and
`10 ^ -324`. -/
def Binary.shortest (b : Binary) : Digits := b.coarsest 640 309

end PluginHost.Decimal
