import PluginHost.Wasm.Binary.Module
import PluginHost.Wasm.Component
/-!
The binary form of components: a preamble and sections in any order. Modules and components in it
stand in sections of their own, each with its preamble.
-/
namespace PluginHost.Wasm.Binary

open Reader Component

/-! ### Types -/

def primitive? (b : UInt8) : Option Primitive :=
  match b.toNat with
  | 0x7F => some .bool
  | 0x7E => some .s8
  | 0x7D => some .u8
  | 0x7C => some .s16
  | 0x7B => some .u16
  | 0x7A => some .s32
  | 0x79 => some .u32
  | 0x78 => some .s64
  | 0x77 => some .u64
  | 0x76 => some .f32
  | 0x75 => some .f64
  | 0x74 => some .char
  | 0x73 => some .string
  | _ => none

def dataRef : Reader DataRef := do
  match primitive? (← peek) with
  | some p =>
    let _ ← octet
    return .primitive p
  | none => return .index ((← signed 33) % UInt32.size).toNat

def optional (p : Reader α) : Reader (Option α) := do
  match (← octet).toNat with
  | 0 => return none
  | 1 => some <$> p
  | _ => throw (.malformed "optional value")

def named (most : Nat) (p : Reader α) : Reader (List (String × α)) :=
  list most do
    let name ← name
    return (name, ← p)

def case : Reader Case := do
  let name ← name
  let payload ← optional dataRef
  return ⟨name, payload, ← optional u32⟩

def maxParts : Nat := 10000

def dataDef (b : UInt8) : Reader DataDef := do
  if let some p := primitive? b then return .primitive p
  match b.toNat with
  | 0x72 => return .record (← named maxParts dataRef)
  | 0x71 => return .variant (← list maxParts case)
  | 0x70 => return .list (← dataRef)
  | 0x6F => return .tuple (← list maxParts dataRef)
  | 0x6E => return .flags (← list 1000 name)
  | 0x6D => return .enum (← list maxParts name)
  | 0x6B => return .option (← dataRef)
  | 0x6A =>
    let ok ← optional dataRef
    return .result ok (← optional dataRef)
  | 0x69 => return .own (← u32)
  | 0x68 => return .borrow (← u32)
  | _ => throw (.malformed "type of data")

def functionResults : Reader (List (Option String × DataRef)) := do
  match (← octet).toNat with
  | 0 => return [(none, ← dataRef)]
  | 1 => return (← named 1000 dataRef).map fun (n, t) => (some n, t)
  | _ => throw (.malformed "function results")

def itemSort : Reader ItemSort := do
  match (← octet).toNat with
  | 0 => if (← octet) = 0x11 then return .module else throw (.malformed "sort")
  | 1 => return .function
  | 2 => return .value
  | 3 => return .type
  | 4 => return .component
  | 5 => return .inst
  | _ => throw (.malformed "sort")

def itemRef : Reader ItemRef := do
  let sort ← itemSort
  return ⟨sort, ← u32⟩

def bound : Reader Bound := do
  match ← itemSort with
  | .module => return .module (← u32)
  | .function => return .function (← u32)
  | .value => return .value (← dataRef)
  | .inst => return .inst (← u32)
  | .component => return .component (← u32)
  | .type =>
    match (← octet).toNat with
    | 0 => return .equal (← u32)
    | 1 => return .resource
    | _ => throw (.malformed "bound of a type")

def outerName : Reader String := do
  if 1 < (← octet) then throw (.malformed "name")
  name

def synonym : Reader Synonym := do
  let sort ← octet
  let core ← if sort = 0 then some <$> octet else pure none
  let reread {α : Type} (p : Reader α) : Reader α :=
    match whole p (sort :: core.toList) with
    | .ok a => return a
    | .error f => throw f
  match (← octet).toNat with
  | 0 =>
    let sort ← reread itemSort
    let inst ← u32
    return .ofInstance sort inst (← name)
  | 1 =>
    let sort ← reread (do
      let _ ← octet
      exportSort)
    let inst ← u32
    return .ofModule sort inst (← name)
  | 2 =>
    let sort ← match sort.toNat, core.map UInt8.toNat with
      | 0, some 0x10 => pure OuterSort.coreType
      | 0, some 0x11 => pure OuterSort.module
      | 3, _ => pure OuterSort.type
      | 4, _ => pure OuterSort.component
      | _, _ => throw (.malformed "outer sort")
    let levels ← u32
    return .outer sort levels (← u32)
  | _ => throw (.malformed "synonym")

def moduleDecl : Reader ModuleDecl := do
  match (← octet).toNat with
  | 0 => return .takes (← moduleImport)
  | 1 =>
    let (group, types) ← typeGroup
    return .types group types
  | 2 =>
    if (← octet) ≠ 0x10 ∨ (← octet) ≠ 1 then throw (.malformed "outer sort")
    let levels ← u32
    return .outer levels (← u32)
  | 3 =>
    let name ← name
    return .gives name (← externType)
  | _ => throw (.malformed "line of a type")

/-- A type for modules; where a type that may be refined would look like a type of modules, an octet
of zero comes first. -/
def coreTypeDef : Reader CoreTypeDef := do
  match (← peek).toNat with
  | 0x50 =>
    let _ ← octet
    return .module (← list 100000 moduleDecl)
  | b =>
    if b = 0 then
      let _ ← octet
      if (← peek) ≠ 0x50 then throw (.malformed "type")
    let (group, types) ← typeGroup
    return .group group types

def maxDecls : Nat := 1000000

mutual

def typeDef : (depth : Nat) → Reader TypeDef
  | 0 => throw .ends
  | depth + 1 => do
    let b ← octet
    match b.toNat with
    | 0x3F =>
      let representation ← valType
      return .resource representation (← optional u32)
    | 0x40 =>
      let params ← named 1000 dataRef
      return .function params (← functionResults)
    | 0x41 => return .component (← list maxDecls (decl true depth))
    | 0x42 => return .inst (← list maxDecls (decl false depth))
    | _ => return .data (← dataDef b)

def decl (takes : Bool) : (depth : Nat) → Reader Decl
  | 0 => throw .ends
  | depth + 1 => do
    match (← octet).toNat with
    | 0 => return .coreType (← coreTypeDef)
    | 1 => return .type (← typeDef depth)
    | 2 => return .synonym (← synonym)
    | 3 =>
      if ¬ takes then throw (.malformed "line of a type")
      let name ← outerName
      return .takes name (← bound)
    | 4 =>
      let name ← outerName
      return .gives name (← bound)
    | _ => throw (.malformed "line of a type")

end

/-! ### What stands in sections -/

def maxArguments : Nat := 100000

def coreInstance : Reader CoreInstanceDef := do
  match (← octet).toNat with
  | 0 =>
    let module ← u32
    return .ofModule module (← named maxArguments do
      if (← octet) ≠ 0x12 then throw (.malformed "argument")
      u32)
  | 1 => return .bundle (← list maxArguments moduleExport)
  | _ => throw (.malformed "core instance")

def instanceDef : Reader InstanceDef := do
  match (← octet).toNat with
  | 0 =>
    let component ← u32
    return .ofComponent component (← named maxArguments itemRef)
  | 1 =>
    return .bundle (← list maxArguments do
      let name ← outerName
      return (name, ← itemRef))
  | _ => throw (.malformed "instance")

def conversionOption : Reader ConversionOption := do
  match (← octet).toNat with
  | 0 | 1 | 2 => return .encoding
  | 3 => return .memory (← u32)
  | 4 => return .allocator (← u32)
  | 5 => return .cleanup (← u32)
  | _ => throw (.malformed "option of a conversion")

def functionDef : Reader FunctionDef := do
  let zero : Reader Unit := do
    if (← octet) ≠ 0 then throw (.malformed "function")
  match (← octet).toNat with
  | 0 =>
    zero
    let function ← u32
    let options ← list 10 conversionOption
    return .lift function options (← u32)
  | 1 =>
    zero
    let function ← u32
    return .lower function (← list 10 conversionOption)
  | 2 => return .newResource (← u32)
  | 3 => return .dropResource (← u32)
  | 4 => return .representation (← u32)
  | 5 => return .spawnThread (← u32)
  | 6 => return .threadCount
  | _ => throw (.malformed "function")

def items (p : Reader Item) : Reader (List Item) := list UInt32.size p

def itemSection? (depth id : Nat) : Option (Reader (List Item)) :=
  match id with
  | 0 => some do
    let _ ← name
    set ([] : Bytes)
    return []
  | 2 => some (items (.coreInstance <$> coreInstance))
  | 3 => some (items (.coreType <$> coreTypeDef))
  | 5 => some (items (.inst <$> instanceDef))
  | 6 => some (items (.synonym <$> synonym))
  | 7 => some (items (.type <$> typeDef depth))
  | 8 => some (items (.function <$> functionDef))
  | 9 => some do
    let function ← u32
    let args ← list 1000 u32
    let results ← u32
    if 1000 < results then throw (.invalid "too many results")
    return [.start function args results]
  | 10 => some (items do
    let name ← outerName
    return .takes name (← bound))
  | 11 => some (items do
    let name ← outerName
    let what ← itemRef
    return .gives name what (← optional bound))
  | _ => none

def upTo (n : Nat) : Reader Bytes := do
  let bytes ← get
  set (bytes.drop n)
  return bytes.take n

mutual

/-- A component after its magic number. It says how many octets it has, `room` of them, but the end
of the file ends it as well; `depth` is at least the number of sections left. -/
def componentBody (room : Nat) : (depth : Nat) → Reader (List Item)
  | 0 => throw .ends
  | depth + 1 => do
    if (← take 4) ≠ componentVersion then throw (.malformed "version")
    componentItems (room - 8) [] depth

def componentItems (room : Nat) (done : List Item) : (depth : Nat) → Reader (List Item)
  | 0 => throw .ends
  | depth + 1 => do
    if ← atEnd then return done.reverse
    let left := (← get).length
    let id := (← octet).toNat
    let n ← u32
    let head := left - (← get).length
    if room < head + n then throw (.malformed "section: too large")
    let within {α : Type} (p : Reader α) (bytes : Bytes) : Reader α :=
      match whole p bytes with
      | .ok a => return a
      | .error f => throw f
    let new ← match id with
      | 1 => do
        let bytes ← upTo n
        pure [Item.module (← within module bytes)]
      | 4 => do
        let bytes ← upTo n
        pure [Item.component (← within (do magicNumber; componentBody n depth) bytes)]
      | id =>
        match itemSection? left id with
        | some p => do
          let bytes ← take n
          within p bytes
        | none => throw (.malformed "section id")
    componentItems (room - head - n) (new.reverse ++ done) depth

end

inductive Contents where
  | module (m : Module)
  | component (items : List Item)

def contents : Reader Contents := do
  let bytes ← get
  magicNumber
  let version ← (·.take 4) <$> get
  if version = componentVersion then return .component (← componentBody UInt64.size bytes.length)
  else
    set bytes
    return .module (← module)

end PluginHost.Wasm.Binary
