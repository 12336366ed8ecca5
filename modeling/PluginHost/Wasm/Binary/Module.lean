import PluginHost.Wasm.Binary.Instr
import PluginHost.Wasm.Module
/-!
The binary form of modules: a preamble and sections in a fixed order, each with its size in front.
-/
namespace PluginHost.Wasm.Binary

open Reader

def magic : Bytes := [0x00, 0x61, 0x73, 0x6D]

def moduleVersion : Bytes := [0x01, 0x00, 0x00, 0x00]

def componentVersion : Bytes := [0x0D, 0x00, 0x01, 0x00]

def moduleImport : Reader ModuleImport := do
  let ns ← name
  let name ← name
  return ⟨ns, name, ← externType⟩

def exportSort : Reader ExportSort := do
  match (← octet).toNat with
  | 0 => return .function
  | 1 => return .table
  | 2 => return .memory
  | 3 => return .global
  | 4 => return .tag
  | _ => throw (.malformed "external kind")

def moduleExport : Reader ModuleExport := do
  let name ← name
  let sort ← exportSort
  return ⟨name, sort, ← u32⟩

def global : Reader Global := do
  let type ← globalType
  return ⟨type, ← constExpr⟩

/-- A table; an octet that starts no reference type announces what fills it. -/
def table : Reader Table := do
  if (← peek) = 0x40 then
    let _ ← octet
    if (← octet) ≠ 0 then throw (.malformed "table")
    let type ← tableType
    return ⟨type, some (← constExpr)⟩
  else return ⟨← tableType, none⟩

def maxElements : Nat := 10000000

/-- A segment of references. The bits of its flags: not active, table or declaration given,
expressions instead of functions. -/
def elemSegment : Reader ElemSegment := do
  let flags ← u32
  if 7 < flags then throw (.malformed "element segment")
  let explicit := flags.testBit 1
  let mode ←
    if flags.testBit 0 then pure (if explicit then SegmentMode.declared else .passive)
    else do
      let target ← if explicit then u32 else pure 0
      pure (.active target (← constExpr))
  let expressions := flags.testBit 2
  let typed := flags.testBit 0 || explicit
  if expressions then
    let type ← if typed then refType else pure .funcref
    return ⟨mode, type, false, ← list maxElements constExpr⟩
  else
    if typed then
      if (← octet) ≠ 0 then throw (.malformed "element kind")
    return ⟨mode, .ofKind false .function, true, ← list maxElements (do return [.refFunc (← u32)])⟩

def dataSegment : Reader DataSegment := do
  let flags ← u32
  let mode ← match flags with
    | 0 => do pure (SegmentMode.active 0 (← constExpr))
    | 1 => pure .passive
    | 2 => do
      let target ← u32
      pure (.active target (← constExpr))
    | _ => throw (.malformed "data segment")
  let n ← u32
  return ⟨mode, ← take n⟩

def body : Reader Body := do
  let n ← u32
  if 7654321 < n then throw (.invalid "function body size is out of bounds")
  let bytes ← take n
  let inner : Reader Body := do
    let locals ← list UInt32.size (do
      let n ← u32
      return (n, ← valType))
    return ⟨locals, ← untilEnd instr [] ((← get).length)⟩
  match whole inner bytes with
  | .ok b => return b
  | .error f => throw f

def maxSegments : Nat := 100000

def section? (id : Nat) (m : Module) : Option (Reader Module) :=
  match id with
  | 1 => some do
    let (types, groups) ← types
    return { m with types, groups }
  | 2 => some do return { m with imports := ← list 1000000 moduleImport }
  | 3 => some do return { m with functions := (← list 1000000 u32).toArray }
  | 4 => some do return { m with tables := ← list 100 table }
  | 5 => some do return { m with memories := ← list 100 memType }
  | 6 => some do return { m with globals := ← list 1000000 global }
  | 7 => some do return { m with exports := ← list 1000000 moduleExport }
  | 8 => some do return { m with start := some (← u32) }
  | 9 => some do return { m with elems := ← list maxSegments elemSegment }
  | 10 => some do return { m with bodies := (← list 1000000 body).toArray }
  | 11 => some do return { m with data := ← list maxSegments dataSegment }
  | 12 => some do
    let n ← u32
    if maxSegments < n then throw (.invalid "too many data segments")
    return { m with dataCount := some n }
  | 13 => some do return { m with tags := ← list 1000000 tagType, tagged := true }
  | _ => none

def rank (id : Nat) : Nat :=
  match id with
  | 13 => 6
  | 6 => 7
  | 7 => 8
  | 8 => 9
  | 9 => 10
  | 12 => 11
  | 10 => 12
  | 11 => 13
  | id => id

/-- Sections up to the end, each later in the order than those before; custom sections, which only
need a name, may stand anywhere. -/
def sections (m : Module) (last : Nat) : (bound : Nat) → Reader Module
  | 0 => throw .ends
  | bound + 1 => do
    if ← atEnd then return m
    let id := (← octet).toNat
    let n ← u32
    let bytes ← take n
    if id = 0 then
      match name.run bytes with
      | .ok _ => sections m last bound
      | .error f => throw f
    else
      match section? id m with
      | none => throw (.malformed "section id")
      | some p =>
        if rank id ≤ last then throw (.invalid "section out of order")
        match whole p bytes with
        | .ok m => sections m (rank id) bound
        | .error f => throw f

def magicNumber : Reader Unit := do
  if (← take 4) ≠ magic then throw (.malformed "magic")

def module : Reader Module := do
  magicNumber
  if (← take 4) ≠ moduleVersion then throw (.malformed "version")
  let m ← sections {} 0 ((← get).length + 1)
  if m.functions.size ≠ m.bodies.size then
    throw (.invalid "function and code section have inconsistent lengths")
  if m.dataCount.any (· ≠ m.data.length) then
    throw (.invalid "data count and data section have inconsistent lengths")
  return m

end PluginHost.Wasm.Binary
