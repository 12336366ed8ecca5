import PluginHost.Counting
import PluginHost.Failure
import PluginHost.Wasm.Instruction
/-!
Arithmetic of the instruction set. Integers are words without sign; instructions that look at a sign
read the word in two's complement. Floating-point numbers are given by their bits.
-/
namespace PluginHost.Wasm

namespace IntUnary

def leadingZeros (w n : Nat) : Nat := if n = 0 then w else w - 1 - n.log2

def trailingZeros : (w n : Nat) → Nat
  | 0, _ => 0
  | w + 1, n => if n % 2 = 1 then 0 else 1 + trailingZeros w (n / 2)

def ones : (w n : Nat) → Nat
  | 0, _ => 0
  | w + 1, n => n % 2 + ones w (n / 2)

def eval (op : IntUnary) (a : BitVec w) : BitVec w :=
  match op with
  | .clz => BitVec.ofNat w (leadingZeros w a.toNat)
  | .ctz => BitVec.ofNat w (trailingZeros w a.toNat)
  | .popcnt => BitVec.ofNat w (ones w a.toNat)
  | .extendS bits => (a.setWidth bits).signExtend w

end IntUnary

namespace IntBinary

/-- The result, or why there is none. Amounts of shifts count modulo the width. -/
def eval (op : IntBinary) (a b : BitVec w) : Except TrapCause (BitVec w) :=
  let amount := b.toNat % w
  match op with
  | .add => .ok (a + b)
  | .sub => .ok (a - b)
  | .mul => .ok (a * b)
  | .divS =>
    if b = 0 then .error .divideByZero
    else if a = BitVec.intMin w ∧ b = BitVec.allOnes w then .error .integerOverflow
    else .ok (a.sdiv b)
  | .divU => if b = 0 then .error .divideByZero else .ok (a / b)
  | .remS => if b = 0 then .error .divideByZero else .ok (a.srem b)
  | .remU => if b = 0 then .error .divideByZero else .ok (a % b)
  | .and => .ok (a &&& b)
  | .or => .ok (a ||| b)
  | .xor => .ok (a ^^^ b)
  | .shl => .ok (a <<< amount)
  | .shrS => .ok (a.sshiftRight amount)
  | .shrU => .ok (a >>> amount)
  | .rotl => .ok (a.rotateLeft amount)
  | .rotr => .ok (a.rotateRight amount)

end IntBinary

def IntCompare.eval (op : IntCompare) (a b : BitVec w) : Bool :=
  match op with
  | .eq => a == b
  | .ne => a != b
  | .ltS => a.slt b
  | .ltU => a.ult b
  | .gtS => b.slt a
  | .gtU => b.ult a
  | .leS => a.sle b
  | .leU => a.ule b
  | .geS => b.sle a
  | .geU => b.ule a

/-! Floating-point numbers by their bits: a sign, an exponent and a fraction. -/
namespace FloatBits

def fractionBits : Width → Nat
  | .w32 => 23
  | .w64 => 52

def topExponent : Width → Nat
  | .w32 => 255
  | .w64 => 2047

def fraction (w : Width) (n : Nat) : Nat := n % twoTo (fractionBits w)

def exponent (w : Width) (n : Nat) : Nat := n / twoTo (fractionBits w) % (topExponent w + 1)

def isNegative (w : Width) (n : Nat) : Bool := n.testBit (w.bits - 1)

def isNaN (w : Width) (n : Nat) : Bool := exponent w n = topExponent w && fraction w n ≠ 0

def isInfinite (w : Width) (n : Nat) : Bool := exponent w n = topExponent w && fraction w n = 0

def quietBit (w : Width) : Nat := twoTo (fractionBits w - 1)

def quiet (w : Width) (n : Nat) : Nat := n ||| quietBit w

/-- The NaN of operations without a NaN operand: negative and quiet. -/
def freshNaN (w : Width) : Nat :=
  twoTo (w.bits - 1) + topExponent w * twoTo (fractionBits w) + quietBit w

def truncated (w : Width) (n : Nat) : Int :=
  let e := exponent w n
  let m := if e = 0 then fraction w n else twoTo (fractionBits w) + fraction w n
  let shift : Int := (max e 1 : Nat) - (fractionBits w + topExponent w / 2 : Nat)
  let size : Nat :=
    if 0 ≤ shift then m * twoTo shift.toNat else m / twoTo (-shift).toNat
  if isNegative w n then -size else size

def range (int : Width) (signed : Bool) : Int × Int :=
  let half : Int := twoTo (int.bits - 1)
  if signed then (-half, half - 1) else (0, 2 * half - 1)

def toInteger (int float : Width) (signed saturating : Bool) (n : Nat) : Except TrapCause Int :=
  let (low, high) := range int signed
  if isNaN float n then if saturating then .ok 0 else .error .invalidConversion
  else if isInfinite float n then
    if saturating then .ok (if isNegative float n then low else high) else .error .integerOverflow
  else
    let v := truncated float n
    if v < low then if saturating then .ok low else .error .integerOverflow
    else if high < v then if saturating then .ok high else .error .integerOverflow
    else .ok v

/-- The result of an operation, where a NaN operand goes through and a fresh one is negative. -/
def propagate (w : Width) (operands : List Nat) (result : Nat) : Nat :=
  match operands.find? (isNaN w) with
  | some n => quiet w n
  | none => if isNaN w result then freshNaN w else result

def nearestEven (x : Float) : Float :=
  if x.abs < 4503599627370496.0 then
    let down := x.floor
    let rest := x - down
    let r :=
      if rest < 0.5 then down
      else if rest > 0.5 then down + 1.0
      else if (down / 2.0).floor * 2.0 == down then down else down + 1.0
    if r == 0.0 then (if x < 0.0 || 1.0 / x < 0.0 then -0.0 else 0.0) else r
  else x

def truncate (x : Float) : Float := if x < 0.0 || 1.0 / x < 0.0 then x.ceil else x.floor

/-- Operations on numbers of 64 bits; narrow ones go through them without loss. -/
def unary (op : FloatUnary) (x : Float) : Float :=
  match op with
  | .abs => x.abs
  | .neg => -x
  | .ceil => x.ceil
  | .floor => x.floor
  | .trunc => truncate x
  | .nearest => nearestEven x
  | .sqrt => x.sqrt

def least (x y : Float) : Float :=
  if x < y then x else if y < x then y else if 1.0 / x < 0.0 then x else y

def greatest (x y : Float) : Float :=
  if x < y then y else if y < x then x else if 1.0 / x < 0.0 then y else x

def binary (op : FloatBinary) (x y : Float) : Float :=
  match op with
  | .add => x + y
  | .sub => x - y
  | .mul => x * y
  | .div => x / y
  | .min => least x y
  | .max => greatest x y
  | .copysign => x

def value (w : Width) (n : Nat) : Float :=
  match w with
  | .w32 => (Float32.ofBits (UInt32.ofNat n)).toFloat
  | .w64 => Float.ofBits (UInt64.ofNat n)

def bits (w : Width) (x : Float) : Nat :=
  match w with
  | .w32 => x.toFloat32.toBits.toNat
  | .w64 => x.toBits.toNat

def evalUnary (w : Width) (op : FloatUnary) (n : Nat) : Nat :=
  let signBit := twoTo (w.bits - 1)
  match op with
  | .abs => n % signBit
  | .neg => n ^^^ signBit
  | op => propagate w [n] (bits w (unary op (value w n)))

def evalBinary (w : Width) (op : FloatBinary) (n m : Nat) : Nat :=
  let signBit := twoTo (w.bits - 1)
  match op with
  | .copysign => n % signBit + m / signBit * signBit
  | op => propagate w [n, m] (bits w (binary op (value w n) (value w m)))

def evalCompare (w : Width) (op : FloatCompare) (n m : Nat) : Bool :=
  let x := value w n
  let y := value w m
  match op with
  | .eq => x == y
  | .ne => !(x == y)
  | .lt => x < y
  | .gt => y < x
  | .le => x ≤ y
  | .ge => y ≤ x

def ofInteger (w : Width) (v : Int) : Nat :=
  let a := v.natAbs
  if a = 0 then 0
  else
    let p := fractionBits w + 1
    let length := a.log2 + 1
    let (m, e) : Nat × Nat :=
      if length ≤ p then (a * twoTo (p - length), length)
      else
        let q := a / twoTo (length - p)
        let r := a % twoTo (length - p)
        let half := twoTo (length - p - 1)
        let q := if half < r ∨ r = half ∧ q % 2 = 1 then q + 1 else q
        if q = twoTo p then (twoTo (p - 1), length + 1) else (q, length)
    let n := (e - 1 + topExponent w / 2) * twoTo (fractionBits w) + (m - twoTo (p - 1))
    if v < 0 then n + twoTo (w.bits - 1) else n

end FloatBits

def Conversion.eval (c : Conversion) (n : Nat) : Except TrapCause Nat :=
  match c with
  | .wrap => .ok (n % UInt32.size)
  | .extendS => .ok ((BitVec.ofNat 32 n).signExtend 64).toNat
  | .extendU => .ok n
  | .truncate int float signed saturating => do
    let v ← FloatBits.toInteger int float signed saturating n
    return (v % twoTo int.bits).toNat
  | .convert float int signed =>
    .ok (FloatBits.ofInteger float (if signed then (BitVec.ofNat int.bits n).toInt else n))
  | .demote =>
    if FloatBits.isNaN .w64 n then
      .ok (FloatBits.quiet .w32
        (n / twoTo 63 * twoTo 31 + 255 * twoTo 23 + n % twoTo 52 / twoTo 29))
    else .ok (FloatBits.bits .w32 (FloatBits.value .w64 n))
  | .promote =>
    if FloatBits.isNaN .w32 n then
      .ok (FloatBits.quiet .w64
        (n / twoTo 31 * twoTo 63 + 2047 * twoTo 52 + n % twoTo 23 * twoTo 29))
    else .ok (FloatBits.bits .w64 (FloatBits.value .w32 n))
  | .toBits _ => .ok n
  | .ofBits _ => .ok n

end PluginHost.Wasm
