import PluginHost.Wasm.Binary.Reader
import PluginHost.Wasm.Instruction
/-!
The binary form of types.
-/
namespace PluginHost.Wasm.Binary

open Reader

def heapKind : Reader HeapKind := do
  match (← octet).toNat with
  | 0x70 => return .function
  | 0x6F => return .external
  | 0x6E => return .any
  | 0x6D => return .eq
  | 0x6C => return .i31
  | 0x6B => return .struct
  | 0x6A => return .array
  | 0x69 => return .exception
  | 0x68 => return .continuation
  | 0x71 => return .none
  | 0x72 => return .noExternal
  | 0x73 => return .noFunction
  | 0x74 => return .noException
  | 0x75 => return .noContinuation
  | _ => throw (.malformed "heap type")

def index33 (what : String) : Reader Nat := do
  let n ← signed 33
  if n < 0 then throw (.malformed what)
  return n.toNat

/-- A heap type: an index where a number with a sign would not be negative, else a kind, behind an
octet of its own where threads share the things. -/
def heapType : Reader HeapType := do
  match (signed 33).run (← get) with
  | .error f => throw f
  | .ok (n, rest) =>
    if 0 ≤ n then
      set rest
      return .defined n.toNat
    else if (← peek) = 0x65 then
      let _ ← octet
      return .kind (← heapKind) true
    else return .kind (← heapKind) false

def refType : Reader RefType := do
  let b ← peek
  if b = 0x63 ∨ b = 0x64 then
    let _ ← octet
    return ⟨b = 0x63, ← heapType⟩
  else return ⟨true, ← heapType⟩

def valType : Reader ValType := do
  let number (t : ValType) : Reader ValType := do
    let _ ← octet
    return t
  match (← peek).toNat with
  | 0x7F => number .i32
  | 0x7E => number .i64
  | 0x7D => number .f32
  | 0x7C => number .f64
  | 0x7B => number .v128
  | _ => return .ref (← refType)

/-- A type of blocks: an octet that would be a negative number is no index. -/
def blockType : Reader BlockType := do
  let b := (← peek).toNat
  if b = 0x40 then
    let _ ← octet
    return .empty
  else if 0x40 < b ∧ b < 0x80 then return .result (← valType)
  else return .defined (← index33 "block type")

def storageType : Reader StorageType := do
  match (← peek).toNat with
  | 0x78 =>
    let _ ← octet
    return .i8
  | 0x77 =>
    let _ ← octet
    return .i16
  | _ => return .value (← valType)

def mutability : Reader Bool := do
  match (← octet).toNat with
  | 0 => return false
  | 1 => return true
  | _ => throw (.malformed "mutability")

def fieldType : Reader FieldType := do
  let storage ← storageType
  return ⟨storage, ← mutability⟩

def funcType : Reader FuncType := do
  let params ← list 1000 valType
  return ⟨params, ← list 1000 valType⟩

def shape (b : UInt8) : Reader Shape := do
  match b.toNat with
  | 0x60 => return .function (← funcType)
  | 0x5F => return .struct (← list 10000 fieldType)
  | 0x5E => return .array (← fieldType)
  | 0x5D => return .continuation (← index33 "continuation type")
  | _ => throw (.malformed "type")

def compositeAfter (b : UInt8) : Reader CompositeType := do
  if b = 0x65 then return ⟨true, ← shape (← octet)⟩ else return ⟨false, ← shape b⟩

def subTypeAfter (b : UInt8) : Reader SubType := do
  if b = 0x50 ∨ b = 0x4F then
    let parents ← list 1 u32
    return ⟨b = 0x4F, parents.head?, ← compositeAfter (← octet)⟩
  else return ⟨true, none, ← compositeAfter b⟩

def maxTypes : Nat := 1000000

def typeGroup : Reader (TypeGroup × List SubType) := do
  let b ← octet
  if b = 0x4E then
    let types ← list maxTypes (do subTypeAfter (← octet))
    return (⟨types.length, true⟩, types)
  else return (⟨1, false⟩, [← subTypeAfter b])

def typeGroups (types : Array SubType) (groups : List TypeGroup) :
    Nat → Reader (Array SubType × List TypeGroup)
  | 0 => return (types, groups.reverse)
  | n + 1 => do
    let (g, ts) ← typeGroup
    if maxTypes < types.size + g.size then throw (.invalid "too many types")
    typeGroups (types ++ ts.toArray) (g :: groups) n

def types : Reader (Array SubType × List TypeGroup) := do
  let n ← u32
  if maxTypes < n then throw (.invalid "too many types")
  typeGroups #[] [] n

def size (wide : Bool) : Reader Nat := if wide then u64 else u32

def limits (bounded wide : Bool) : Reader Limits := do
  let minimum ← size wide
  let maximum ← if bounded then some <$> size wide else pure none
  return ⟨minimum, maximum⟩

def tableType : Reader TableType := do
  let element ← refType
  let flags := (← octet).toNat
  if 7 < flags then throw (.malformed "table limits flags")
  let wide := flags.testBit 2
  return ⟨element, ← limits (flags.testBit 0) wide, wide, flags.testBit 1⟩

def memType : Reader MemType := do
  let flags := (← octet).toNat
  if 15 < flags then throw (.malformed "memory limits flags")
  let wide := flags.testBit 2
  let limits ← limits (flags.testBit 0) wide
  let pageLog ← if flags.testBit 3 then some <$> u32 else pure none
  return ⟨limits, wide, flags.testBit 1, pageLog⟩

def globalType : Reader GlobalType := do
  let value ← valType
  let flags := (← octet).toNat
  if 3 < flags then throw (.malformed "mutability")
  return ⟨value, flags.testBit 0, flags.testBit 1⟩

def tagType : Reader Nat := do
  if (← octet) ≠ 0 then throw (.malformed "tag attribute")
  u32

def externType : Reader ExternType := do
  match (← octet).toNat with
  | 0 => return .function (← u32)
  | 1 => return .table (← tableType)
  | 2 => return .memory (← memType)
  | 3 => return .global (← globalType)
  | 4 => return .tag (← tagType)
  | _ => throw (.malformed "external kind")

end PluginHost.Wasm.Binary
