/-!
JSON numbers as they are read: natural and negative integers of 64 bits stay exact, all others are
taken to floating point by one multiplication or division by a power of ten.
-/
namespace PluginHost.Json

inductive Number where
  | natural (n : Nat)
  | negative (n : Int)
  | real (x : Float)
  deriving Inhabited

def powerOfTen (n : Nat) : Float := Float.ofScientific 1 false n

/-- Divides by `1e308` while the power of ten that is left to divide by is larger than that. -/
def scaleDown : Nat → Float → Nat → Float
  | 0, x, _ => x
  | fuel + 1, x, n =>
    if n ≤ 308 then x / powerOfTen n
    else if x == 0.0 then x
    else scaleDown fuel (x / 1e308) (n - 308)

def realOfParts? (positive : Bool) (significand : Nat) (exponent : Int) : Option Float :=
  let x := significand.toUInt64.toFloat
  let signed (y : Float) := some (if positive then y else -y)
  if exponent < 0 then signed (scaleDown 8 x exponent.natAbs)
  else if exponent ≤ 308 then
    let y := x * powerOfTen exponent.toNat
    if y.isInf then none else signed y
  else if x == 0.0 then signed x
  else none

end PluginHost.Json
