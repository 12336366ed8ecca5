import PluginHost.Failure
import PluginHost.Value
/-!
The types of modules: values and references, the composite types that references point to, and
memories, tables, variables and functions.
-/
namespace PluginHost.Wasm

inductive HeapKind where
  | function
  | external
  | any
  | eq
  | i31
  | struct
  | array
  | exception
  | continuation
  | none
  | noFunction
  | noExternal
  | noException
  | noContinuation
  deriving DecidableEq, Hashable, Inhabited

inductive HeapType where
  | kind (kind : HeapKind) (shared : Bool)
  | defined (index : Nat)
  deriving DecidableEq, Hashable, Inhabited

structure RefType where
  nullable : Bool
  heap : HeapType
  deriving DecidableEq, Hashable, Inhabited

inductive ValType where
  | i32
  | i64
  | f32
  | f64
  | v128
  | ref (type : RefType)
  deriving DecidableEq, Hashable, Inhabited

namespace RefType

def ofKind (nullable : Bool) (k : HeapKind) : RefType := ⟨nullable, .kind k false⟩

def funcref : RefType := .ofKind true .function

def externref : RefType := .ofKind true .external

end RefType

namespace ValType

def toValueType : ValType → ValueType
  | .i32 => .i32
  | .i64 => .i64
  | .f32 => .f32
  | .f64 => .f64
  | .v128 => .v128
  | .ref r =>
    if r = .funcref then .funcref else if r = .externref then .externref else .ref

/-- The type that a type at the border stands for; other references have none. -/
def ofValueType? : ValueType → Option ValType
  | .i32 => some .i32
  | .i64 => some .i64
  | .f32 => some .f32
  | .f64 => some .f64
  | .v128 => some .v128
  | .funcref => some (.ref .funcref)
  | .externref => some (.ref .externref)
  | .ref => none

def isDefaultable : ValType → Bool
  | .ref r => r.nullable
  | _ => true

end ValType

structure FuncType where
  params : List ValType
  results : List ValType
  deriving DecidableEq, Hashable, Inhabited

def FuncType.signature (t : FuncType) : Signature :=
  ⟨t.params.map ValType.toValueType, t.results.map ValType.toValueType⟩

def FuncType.ofSignature (s : Signature) : Except Failure FuncType :=
  match s.params.mapM ValType.ofValueType?, s.results.mapM ValType.ofValueType? with
  | some params, some results => .ok ⟨params, results⟩
  | _, _ => .error (.unsupported (.referenceType s))

inductive StorageType where
  | i8
  | i16
  | value (type : ValType)
  deriving DecidableEq, Hashable, Inhabited

namespace StorageType

def unpacked : StorageType → ValType
  | .value t => t
  | _ => .i32

def isPacked : StorageType → Bool
  | .value _ => false
  | _ => true

end StorageType

structure FieldType where
  storage : StorageType
  mutable : Bool
  deriving DecidableEq, Hashable, Inhabited

inductive Shape where
  | function (type : FuncType)
  | struct (fields : List FieldType)
  | array (field : FieldType)
  | continuation (function : Nat)
  deriving DecidableEq, Hashable, Inhabited

structure CompositeType where
  shared : Bool
  shape : Shape
  deriving DecidableEq, Hashable, Inhabited

structure SubType where
  final : Bool
  parent : Option Nat
  body : CompositeType
  deriving DecidableEq, Hashable, Inhabited

structure TypeGroup where
  size : Nat
  /-- Written as a group. -/
  explicit : Bool
  deriving DecidableEq, Inhabited

/-! Types with other indices in the place of those that they name. -/

def HeapType.mapIndex (f : Nat → Nat) : HeapType → HeapType
  | .defined i => .defined (f i)
  | h => h

def RefType.mapIndex (f : Nat → Nat) (r : RefType) : RefType := ⟨r.nullable, r.heap.mapIndex f⟩

def ValType.mapIndex (f : Nat → Nat) : ValType → ValType
  | .ref r => .ref (r.mapIndex f)
  | t => t

def FuncType.mapIndices (f : Nat → Nat) (t : FuncType) : FuncType :=
  ⟨t.params.map (ValType.mapIndex f), t.results.map (ValType.mapIndex f)⟩

def FieldType.mapIndex (f : Nat → Nat) (t : FieldType) : FieldType :=
  match t.storage with
  | .value v => ⟨.value (v.mapIndex f), t.mutable⟩
  | _ => t

def Shape.mapIndices (f : Nat → Nat) : Shape → Shape
  | .function t => .function (t.mapIndices f)
  | .struct fields => .struct (fields.map (FieldType.mapIndex f))
  | .array field => .array (field.mapIndex f)
  | .continuation i => .continuation (f i)

def SubType.mapIndices (f : Nat → Nat) (t : SubType) : SubType :=
  ⟨t.final, t.parent.map f, t.body.shared, t.body.shape.mapIndices f⟩

/-! Types of the module that a type names. -/

def HeapType.indices : HeapType → List Nat
  | .defined i => [i]
  | _ => []

def ValType.indices : ValType → List Nat
  | .ref r => r.heap.indices
  | _ => []

def FieldType.indices (t : FieldType) : List Nat :=
  match t.storage with
  | .value v => v.indices
  | _ => []

def Shape.indices : Shape → List Nat
  | .function t => t.params.flatMap ValType.indices ++ t.results.flatMap ValType.indices
  | .struct fields => fields.flatMap FieldType.indices
  | .array field => field.indices
  | .continuation i => [i]

structure Limits where
  minimum : Nat
  maximum : Option Nat
  deriving DecidableEq, Inhabited

structure MemType where
  limits : Limits
  wide : Bool
  shared : Bool
  /-- Logarithm of the page size, where it is given. -/
  pageLog : Option Nat
  deriving DecidableEq, Inhabited

structure TableType where
  element : RefType
  limits : Limits
  wide : Bool
  shared : Bool
  deriving DecidableEq, Inhabited

structure GlobalType where
  value : ValType
  mutable : Bool
  shared : Bool
  deriving DecidableEq, Inhabited

inductive ExternType where
  | function (type : Nat)
  | table (type : TableType)
  | memory (type : MemType)
  | global (type : GlobalType)
  | tag (type : Nat)
  deriving DecidableEq, Inhabited

end PluginHost.Wasm
