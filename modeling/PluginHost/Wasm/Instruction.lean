import PluginHost.Wasm.Feature
import PluginHost.Wasm.Type
/-!
Instructions. Code is a flat list as it stands in a module: blocks are opened by an instruction and
closed by `end_`. Of instructions that the engine does not run, only what checking needs is kept.
-/
namespace PluginHost.Wasm

inductive Width where
  | w32
  | w64
  deriving DecidableEq, Inhabited

namespace Width

def bits : Width → Nat
  | .w32 => 32
  | .w64 => 64

def int : Width → ValType
  | .w32 => .i32
  | .w64 => .i64

def float : Width → ValType
  | .w32 => .f32
  | .w64 => .f64

end Width

inductive IntBinary where
  | add
  | sub
  | mul
  | divS
  | divU
  | remS
  | remU
  | and
  | or
  | xor
  | shl
  | shrS
  | shrU
  | rotl
  | rotr
  deriving DecidableEq, Inhabited

inductive IntUnary where
  | clz
  | ctz
  | popcnt
  /-- Spreads the sign of the lowest so many bits. -/
  | extendS (bits : Nat)
  deriving DecidableEq, Inhabited

inductive IntCompare where
  | eq
  | ne
  | ltS
  | ltU
  | gtS
  | gtU
  | leS
  | leU
  | geS
  | geU
  deriving DecidableEq, Inhabited

inductive FloatUnary where
  | abs
  | neg
  | ceil
  | floor
  | trunc
  | nearest
  | sqrt
  deriving DecidableEq, Inhabited

inductive FloatBinary where
  | add
  | sub
  | mul
  | div
  | min
  | max
  | copysign
  deriving DecidableEq, Inhabited

inductive FloatCompare where
  | eq
  | ne
  | lt
  | gt
  | le
  | ge
  deriving DecidableEq, Inhabited

inductive Conversion where
  | wrap
  | extendS
  | extendU
  /-- Toward zero; saturating or trapping where the result does not fit. -/
  | truncate (int float : Width) (signed saturating : Bool)
  | convert (float int : Width) (signed : Bool)
  | demote
  | promote
  | toBits (width : Width)
  | ofBits (width : Width)
  deriving DecidableEq, Inhabited

structure MemArg where
  align : Nat
  memory : Nat
  offset : Nat
  /-- The offset is not written as a number of 32 bits. -/
  long : Bool
  deriving DecidableEq, Inhabited

inductive BlockType where
  | empty
  | result (type : ValType)
  | defined (index : Nat)
  deriving DecidableEq, Inhabited

structure Catch where
  tag : Option Nat
  withReference : Bool
  label : Nat
  deriving DecidableEq, Inhabited

inductive Aggregate where
  | structNew (type : Nat)
  | structNewDefault (type : Nat)
  /-- With a sign for packed fields. -/
  | structGet (type field : Nat) (signed : Option Bool)
  | structSet (type field : Nat)
  | arrayNew (type : Nat)
  | arrayNewDefault (type : Nat)
  | arrayNewFixed (type count : Nat)
  | arrayNewData (type data : Nat)
  | arrayNewElem (type elem : Nat)
  | arrayGet (type : Nat) (signed : Option Bool)
  | arraySet (type : Nat)
  | arrayLen
  | arrayFill (type : Nat)
  | arrayCopy (target source : Nat)
  | arrayInitData (type data : Nat)
  | arrayInitElem (type elem : Nat)
  | refTest (type : RefType)
  | refCast (type : RefType)
  | brOnCast (label : Nat) (source target : RefType) (onFail : Bool)
  | anyConvertExternal
  | externalConvertAny
  | refI31 (shared : Bool)
  | i31Get (signed : Bool)
  deriving DecidableEq, Inhabited

inductive Atomic where
  | get (signed : Option Bool)
  | set
  | combine
  | exchange
  | compareExchange
  deriving DecidableEq, Inhabited

inductive SharedPlace where
  | global (index : Nat)
  | table (index : Nat)
  | field (type field : Nat)
  | element (type : Nat)
  deriving DecidableEq, Inhabited

structure Handler where
  tag : Nat
  label : Option Nat
  deriving DecidableEq, Inhabited

inductive Switching where
  | new (type : Nat)
  | bind (source target : Nat)
  | suspend (tag : Nat)
  | resume (type : Nat) (handlers : List Handler)
  | resumeThrow (type tag : Nat) (handlers : List Handler)
  | switch (type tag : Nat)
  deriving DecidableEq, Inhabited

structure Access where
  arg : MemArg
  /-- Logarithm of the number of octets. -/
  natural : Nat
  exact : Bool
  params : List ValType
  results : List ValType
  deriving DecidableEq, Inhabited

inductive Instr where
  | unreachable
  | nop
  | block (type : BlockType)
  | loop (type : BlockType)
  | if_ (type : BlockType)
  | else_
  | end_
  | br (label : Nat)
  | brIf (label : Nat)
  | brTable (labels : List Nat) (default_ : Nat)
  | return_
  | call (function : Nat)
  | callIndirect (type table : Nat)
  | returnCall (function : Nat)
  | returnCallIndirect (type table : Nat)
  | callRef (type : Nat)
  | returnCallRef (type : Nat)
  | drop
  | select (type : Option ValType)
  | localGet (index : Nat)
  | localSet (index : Nat)
  | localTee (index : Nat)
  | globalGet (index : Nat)
  | globalSet (index : Nat)
  | tableGet (table : Nat)
  | tableSet (table : Nat)
  /-- Loads so many octets, with a sign if they are fewer than the type has. -/
  | load (type : ValType) (octets : Nat) (signed : Bool) (arg : MemArg)
  | store (type : ValType) (octets : Nat) (arg : MemArg)
  | memorySize (memory : Nat)
  | memoryGrow (memory : Nat)
  | memoryInit (data memory : Nat)
  | dataDrop (data : Nat)
  | memoryCopy (target source : Nat)
  | memoryFill (memory : Nat)
  | memoryDiscard (memory : Nat)
  | tableInit (elem table : Nat)
  | elemDrop (elem : Nat)
  | tableCopy (target source : Nat)
  | tableGrow (table : Nat)
  | tableSize (table : Nat)
  | tableFill (table : Nat)
  | const (value : Value)
  | refNull (type : HeapType)
  | refIsNull
  | refFunc (function : Nat)
  | refEq
  | refAsNonNull
  | brOnNull (label : Nat)
  | brOnNonNull (label : Nat)
  | intBinary (width : Width) (op : IntBinary)
  | intUnary (width : Width) (op : IntUnary)
  | intCompare (width : Width) (op : IntCompare)
  | intEqz (width : Width)
  | floatBinary (width : Width) (op : FloatBinary)
  | floatUnary (width : Width) (op : FloatUnary)
  | floatCompare (width : Width) (op : FloatCompare)
  | convert (conversion : Conversion)
  /-- An instruction on vectors or wide integers, by its type. -/
  | typed (params results : List ValType) (feature : Option Feature)
  /-- An access of vectors or atomics, by its type. -/
  | access (a : Access) (feature : Option Feature)
  | aggregate (a : Aggregate)
  | atomic (a : Atomic) (place : SharedPlace)
  | switching (s : Switching)
  | throw_ (tag : Nat)
  | throwRef
  | tryTable (type : BlockType) (catches : List Catch)
  | try_ (type : BlockType)
  | catch_ (tag : Nat)
  | catchAll
  | rethrow (label : Nat)
  | delegate (label : Nat)
  deriving DecidableEq, Inhabited

abbrev ConstExpr := List Instr

end PluginHost.Wasm
