import PluginHost.Wasm.Typing.Code
import Std.Data.HashSet
/-!
Typing of modules: every index has something behind it, every expression has the type of its place,
and no two exports share a name.
-/
namespace PluginHost.Wasm.Typing

def referred (e : ConstExpr) : List Nat :=
  e.filterMap fun i => match i with
    | .refFunc f => some f
    | _ => none

def declared (m : Module) : List Nat :=
  m.elems.flatMap (fun e => e.items.flatMap referred) ++
  m.globals.flatMap (fun g => referred g.value) ++
  m.tables.flatMap (fun t => (t.fill.map referred).getD []) ++
  m.exports.filterMap fun e => if e.sort = .function then some e.index else none

def scope (features : Features) (types : Types) (m : Module) : Scope :=
  let functions := (m.allFunctions.map types.id).toArray
  { features
    types
    functions
    tables := (m.allTables.map types.table).toArray
    memories := m.allMemories.toArray
    globals := (m.allGlobals.map types.global).toArray
    knownGlobals := m.allGlobals.length
    importedGlobals := m.importedGlobals.length
    tags := (m.allTags.map types.id).toArray
    elems := (m.elems.map fun e => types.ref e.type).toArray
    dataCount := m.dataCount
    declared := (declared m).foldl (fun d f => d.setIfInBounds f true)
      (Array.replicate functions.size false)
    shared := false }

def constScope (s : Scope) : Scope :=
  { s with declared := Array.replicate s.functions.size true }

/-- An identity that stands for functions. -/
def checkFunction (types : Types) (type : Nat) : Check :=
  rule (types.function? type).isSome "unknown function type"

def checkTag (features : Features) (types : Types) (type : Nat) : Check := do
  need features .exceptions
  match types.function? type with
  | some t => if ¬ t.results.isEmpty then need features .stackSwitching
  | none => throw (.invalid "unknown function type")

def checkExtern (features : Features) (types : Types) : ExternType → Check
  | .function t => checkFunction types t
  | .table t => checkTable types features t
  | .memory t => checkMemory features t
  | .global t => checkGlobal types features t
  | .tag t => checkTag features types t

def checkTableFill (s : Scope) (t : Table) : Check := do
  let type := s.types.table t.type
  checkTable s.types s.features type
  match t.fill with
  | none => rule type.element.nullable "type mismatch: non-defaultable element type"
  | some e =>
    need s.features .typedReferences
    checkConst { s with knownGlobals := s.importedGlobals } (.ref type.element) e

def checkOffset (s : Scope) (wide : Bool) (offset : ConstExpr) : Check :=
  checkConst s (if wide then .i64 else .i32) offset

def checkElem (s : Scope) (e : ElemSegment) : Check := do
  let type := s.types.ref e.type
  if ¬ e.functions then checkRef s.types s.features type
  match e.mode with
  | .active target offset =>
    match s.tables[target]? with
    | some t =>
      rule (refMatches s.types type t.element) "type mismatch: element segment"
      checkOffset s t.wide offset
    | none => throw (.invalid "unknown table")
  | _ => pure ()
  if e.functions then
    e.items.forM fun item =>
      rule ((referred item).all (· < s.functions.size)) "unknown function"
  else e.items.forM (checkConst s (.ref type))

def checkData (s : Scope) (d : DataSegment) : Check :=
  match d.mode with
  | .active target offset =>
    match s.memories[target]? with
    | some t => checkOffset s t.wide offset
    | none => throw (.invalid "unknown memory")
  | _ => return

def count (s : Scope) : ExportSort → Nat
  | .function => s.functions.size
  | .table => s.tables.size
  | .memory => s.memories.size
  | .global => s.globals.size
  | .tag => s.tags.size

def checkStart (s : Scope) (f : Nat) : Check :=
  match (s.functions[f]?).bind s.types.function? with
  | some t => rule (t.params.isEmpty && t.results.isEmpty) "invalid start function type"
  | none => throw (.invalid "unknown function")

def functionWeight (types : Types) (type : Nat) : Nat :=
  match types.function? type with
  | some t => 2 + t.params.length + t.results.length
  | none => 0

def externWeight (types : Types) : ExternType → Nat
  | .function t | .tag t => functionWeight types t
  | _ => 1

def externAt? (s : Scope) (sort : ExportSort) (i : Nat) : Option ExternType :=
  match sort with
  | .function => (s.functions[i]?).map .function
  | .table => (s.tables[i]?).map .table
  | .memory => (s.memories[i]?).map .memory
  | .global => (s.globals[i]?).map .global
  | .tag => (s.tags[i]?).map .tag

structure ModuleType where
  imports : List ModuleImport
  exports : List (String × ExternType)
  deriving DecidableEq, Inhabited

def ModuleType.weight (types : Types) (t : ModuleType) : Nat :=
  1 + total (t.imports.map fun i => externWeight types i.type) +
    total (t.exports.map fun e => externWeight types e.2)

def maxWeight : Nat := 1000000

def checkWeight (weight : Nat) : Check :=
  rule (weight < maxWeight) "effective type size exceeds the limit"

def limit : ExportSort → Nat
  | .table | .memory => 100
  | _ => 1000000

def sorts : List ExportSort := [.function, .table, .memory, .global, .tag]

def distinct (names : List String) : Bool :=
  (Std.HashSet.ofList names).size = names.length

def addTypes (features : Features) (known : Types) (types : Array SubType)
    (groups : List TypeGroup) : Except Fault Types := do
  if groups.any TypeGroup.explicit then need features .gc
  let t ← known.addGroups types groups
  (t.ids.toList.drop known.ids.size).forM fun i =>
    match t.entries[i]? with
    | some s => checkType t features s
    | none => return
  return t

/-- Checks a module against the proposals it may use, after other modules from which types are
known; gives its type, and what is known of types then. -/
def moduleType (features : Features) (known : Types) (m : Module) :
    Except Fault (ModuleType × Types) := do
  let types ← addTypes features known.restart m.types m.groups
  let s := scope features types m
  let expressions := constScope s
  let imports := m.imports.map fun i => { i with type := types.externType i.type }
  imports.forM fun i => checkExtern features types i.type
  m.functions.toList.forM fun t => checkFunction types (types.id t)
  m.tables.forM (checkTableFill expressions)
  m.memories.forM (checkMemory features)
  if m.tagged then need features .exceptions
  m.tags.forM fun t => checkTag features types (types.id t)
  rule (sorts.all fun sort => count s sort ≤ limit sort) "too many things of one sort"
  m.globals.zipIdx.forM fun (g, i) => do
    let type := types.global g.type
    checkGlobal types features type
    checkConst { expressions with knownGlobals := s.importedGlobals + i } type.value g.value
  let exports ← m.exports.mapM fun e =>
    match externAt? s e.sort e.index with
    | some t => .ok (e.name, t)
    | none => .error (.invalid "unknown export")
  rule (distinct (m.exports.map ModuleExport.name)) "duplicate export name"
  let type : ModuleType := ⟨imports, exports⟩
  checkWeight (type.weight types)
  if let some f := m.start then checkStart s f
  m.elems.forM (checkElem expressions)
  (m.functions.toList.zip m.bodies.toList).forM fun (type, b) =>
    match types.body? (types.id type) with
    | some ⟨shared, .function t⟩ => checkCode { s with shared } t b
    | _ => throw (.invalid "unknown function type")
  m.data.forM (checkData expressions)
  return (type, types)

def checkModule (features : Features) (m : Module) : Check :=
  (moduleType features {} m).map fun _ => ()

end PluginHost.Wasm.Typing
