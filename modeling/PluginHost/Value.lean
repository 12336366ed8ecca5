import PluginHost.Signature
/-!
Values that cross the border between host and guest. Floating-point numbers and vectors are their
bits; a reference to a function is the function's index in its instance.
-/
namespace PluginHost

inductive Value where
  | i32 (n : UInt32)
  | i64 (n : UInt64)
  | f32 (bits : UInt32)
  | f64 (bits : UInt64)
  | v128 (bits : BitVec 128)
  | funcref (target : Option Nat)
  | externref (target : Option Nat)
  /-- A null of another reference type. -/
  | ref
  deriving DecidableEq

instance : Inhabited Value := ⟨.i32 0⟩

namespace Value

def kind : Value → ValueType
  | .i32 _ => .i32
  | .i64 _ => .i64
  | .f32 _ => .f32
  | .f64 _ => .f64
  | .v128 _ => .v128
  | .funcref _ => .funcref
  | .externref _ => .externref
  | .ref => .ref

def zero : ValueType → Value
  | .i32 => .i32 0
  | .i64 => .i64 0
  | .f32 => .f32 0
  | .f64 => .f64 0
  | .v128 => .v128 0
  | .funcref => .funcref none
  | .externref => .externref none
  | .ref => .ref

end Value

end PluginHost
