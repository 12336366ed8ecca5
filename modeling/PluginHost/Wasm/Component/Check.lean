import PluginHost.Wasm.Component.Lowering
import PluginHost.Wasm.Component.Space
/-!
The rules that a component has to keep. Everything refers to what came before it, so one pass over
the items is enough.
-/
namespace PluginHost.Wasm.Component

open Typing

namespace Checker

/-! ### Types for modules -/

def identities (s : Space) : Array Nat :=
  s.coreTypes.map fun t => match t with
    | .single i => i
    | .module _ => Types.nowhere

def addGroup (ids : Array Nat) (group : TypeGroup) (types : List SubType) :
    Checker (Array Nat) := do
  let p ← get
  let known ← liftM (addTypes Features.all { p.types with ids } types.toArray [group])
  set { p with types := known }
  return known.ids

def functionIdentity (ids : Array Nat) (shared : Bool) (t : FuncType) : Checker Nat := do
  let ids ← addGroup ids ⟨1, false⟩ [⟨true, none, shared, .function t⟩]
  found "type" ids.back?

structure Draft where
  ids : Array Nat := #[]
  imports : List ModuleImport := []
  exports : List (String × ExternType) := []

def coreItem (ids : Array Nat) (t : ExternType) : Checker ExternType := do
  let types : Types := { (← get).types with ids }
  let t := types.externType t
  check (checkExtern Features.all types t)
  return t

def moduleDecl (d : Draft) : ModuleDecl → Checker Draft
  | .takes i => do
    let type ← coreItem d.ids i.type
    return { d with imports := d.imports ++ [{ i with type }] }
  | .types group types => do return { d with ids := ← addGroup d.ids group types }
  | .outer 0 i => do return { d with ids := d.ids.push (← found "type" d.ids[i]?) }
  | .outer 1 i => do return { d with ids := d.ids.push (← identityAt (← current) i) }
  | .outer .. => fail "outer type aliases in module types are limited to one level"
  | .gives name t => do return { d with exports := d.exports ++ [(name, ← coreItem d.ids t)] }

def checkImportNames (t : ModuleType) : Checker Unit :=
  let names := t.imports.map fun i => (i.ns, i.name)
  check (rule (names.length = names.eraseDups.length) "duplicate import name")

def checkModuleType (t : ModuleType) : Checker Unit := do
  checkImportNames t
  check (checkWeight (t.weight (← get).types))

def coreType (t : CoreTypeDef) : Checker Unit := do
  let s ← current
  match t with
  | .group group types =>
    let ids ← addGroup (identities s) group types
    let new := (ids.extract s.coreTypes.size ids.size).map CoreType.single
    update fun s => { s with coreTypes := s.coreTypes ++ new }
  | .module decls =>
    let d ← decls.foldlM moduleDecl ({} : Draft)
    let t : ModuleType := ⟨d.imports, d.exports⟩
    check (rule (distinct (t.exports.map Prod.fst)) "duplicate export name")
    checkModuleType t
    update fun s => { s with coreTypes := s.coreTypes.push (.module t) }

/-! ### Types of data and functions -/

def checkLabels (names : List String) : Checker Unit := do
  check (rule (names.all fun n => isLabel n.toList) "name is not in kebab case")
  check (rule (distinct (names.map String.toLower)) "name conflicts with previous name")

def composed (form : Form) (parts : List DataType) : Checker DataType := do
  let t : DataType := .composed form [← fresh] parts
  check (checkWeight t.weight)
  return t

def payload : Option DataRef → Checker DataType
  | some r => dataType r
  | none => return .nothing

def dataDef (d : DataDef) : Checker DataType := do
  let nonempty (xs : List String) : Checker Unit := check (rule (¬ xs.isEmpty) "type without parts")
  match d with
  | .primitive p => return .primitive p
  | .record fields =>
    let names := fields.map Prod.fst
    nonempty names
    checkLabels names
    composed (.record names) (← fields.mapM fun (_, r) => dataType r)
  | .variant cases =>
    let names := cases.map Case.name
    nonempty names
    checkLabels names
    check (rule (cases.zipIdx.all fun (c, i) => c.refines.all (· < i))
      "variant case can only refine a previously defined case")
    composed (.variant names) (← cases.mapM fun c => payload c.payload)
  | .list r => composed .list [← dataType r]
  | .tuple [] => fail "type without parts"
  | .tuple rs => composed .tuple (← rs.mapM dataType)
  | .flags names =>
    nonempty names
    checkLabels names
    composed (.flags names) []
  | .enum names =>
    nonempty names
    checkLabels names
    composed (.enum names) []
  | .option r => composed .option [← dataType r]
  | .result ok error =>
    let ok ← payload ok
    composed .result [ok, ← payload error]
  | .own i => return .handle true (← resourceAt i)
  | .borrow i => return .handle false (← resourceAt i)

def functionType (params : List (String × DataRef)) (results : List (Option String × DataRef)) :
    Checker FunctionType := do
  checkLabels (params.map Prod.fst)
  checkLabels (results.filterMap Prod.fst)
  let params ← params.mapM fun (n, r) => do return (n, ← dataType r)
  let results ← results.mapM fun (n, r) => do return (n, ← dataType r)
  check (rule (results.all fun r => ¬ r.2.borrows) "function result cannot contain a borrow type")
  let t : FunctionType := ⟨params, results⟩
  check (checkWeight t.weight)
  return t

def newResource (representation : ValType) (drop : Option Nat) : Checker Entity := do
  if (← current).kind ≠ .component then
    fail "resources can only be defined within a concrete component"
  check (rule (representation = .i32) "resources can only be represented by i32")
  if let some f := drop then
    check (rule ((← coreFunctionAt f) = ⟨[representation], []⟩) "wrong signature for a destructor")
  let r : Resource := ⟨← fresh, 0⟩
  update fun s => { s with newResources := s.newResources ++ [(r.id, true)] }
  return .resource r

/-! ### Other names -/

def takeOver (sort : OuterSort) (levels i : Nat) : Checker Unit := do
  let s ← outer levels
  match sort with
  | .coreType =>
    let t ← coreTypeAt s i
    update fun s => { s with coreTypes := s.coreTypes.push t }
  | .module => add (← itemAt s .module i)
  | .component => add (← itemAt s .component i)
  | .type =>
    let t ← itemAt s .type i
    if 0 < levels ∧ (← outer (levels - 1)).kind = .component then
      check (rule t.free.isEmpty
        "cannot alias outer type which refers to resources not defined in the component")
    add t

def synonym : Synonym → Checker Unit
  | .ofInstance sort i name => do
    match ← itemAt (← current) .inst i with
    | .inst exports _ =>
      let t ← found "export" (exports.lookup name)
      check (rule (t.sort = sort) "export is of another sort")
      add t
    | _ => fail "not an instance"
  | .ofModule sort i name => do
    let t ← found "export" ((← coreInstanceAt i).lookup name)
    check (rule (sortOf t = sort) "export is of another sort")
    update fun s => { s with coreItems := s.coreItems.push t }
  | .outer sort levels i => takeOver sort levels i

/-! ### Instances -/

def moduleInstance (t : ModuleType) (args : List (String × List (String × ExternType))) :
    Checker (List (String × ExternType)) := do
  let types := (← get).types
  check (rule (distinct (args.map Prod.fst)) "duplicate module instantiation argument")
  check (rule (t.imports.all fun i =>
      ((args.lookup i.ns).bind (List.lookup i.name)).any (coreMatches types · i.type))
    "missing or mismatched module instantiation argument")
  return t.exports

def coreInstance : CoreInstanceDef → Checker Unit
  | .ofModule m args => do
    match ← itemAt (← current) .module m with
    | .module t _ =>
      let args ← args.mapM fun (n, i) => do return (n, ← coreInstanceAt i)
      let exports ← moduleInstance t args
      update fun s => { s with coreInstances := s.coreInstances.push exports }
    | _ => fail "not a module"
  | .bundle exports => do
    let things ← exports.mapM fun e => do return (e.name, ← coreItemAt e.sort e.index)
    check (rule (distinct (things.map Prod.fst)) "duplicate instantiation export name")
    let weight := ModuleType.weight (← get).types ⟨[], things⟩
    check (checkWeight weight)
    update fun s => { s with coreInstances := s.coreInstances.push things }

def instanceDef : InstanceDef → Checker Unit
  | .ofComponent c args => do
    let t ← itemAt (← current) .component c
    add (← instantiate t (← args.mapM fun (n, r) => do return (n, ← use r)))
  | .bundle exports => do
    add (← bundle (← exports.mapM fun (n, r) => do return (n, ← use r)))

/-! ### Functions -/

structure Options where
  encoding : Bool := false
  memory : Bool := false
  allocator : Bool := false
  cleanup : Bool := false

/-- Notes an option, which may be given once; `lifted` is the function behind a function on data. -/
def conversionOption (lifted : Option FuncType) (o : Options) : ConversionOption → Checker Options
  | .encoding => do
    check (rule (¬ o.encoding) "conflicting encodings")
    return { o with encoding := true }
  | .memory i => do
    check (rule (¬ o.memory) "memory is specified more than once")
    let _ ← coreItemAt .memory i
    return { o with memory := true }
  | .allocator f => do
    check (rule (¬ o.allocator) "realloc is specified more than once")
    check (rule ((← coreFunctionAt f) = ⟨[.i32, .i32, .i32, .i32], [.i32]⟩)
      "realloc uses a core function with an incorrect signature")
    return { o with allocator := true }
  | .cleanup f => do
    check (rule (¬ o.cleanup) "post-return is specified more than once")
    let lifted ← found "post-return function" lifted
    check (rule ((← coreFunctionAt f) = ⟨lifted.results, []⟩)
      "post-return uses a core function with an incorrect signature")
    return { o with cleanup := true }

def checkOptions (lifted : Option FuncType) (l : Lowered) (options : List ConversionOption) :
    Checker Unit := do
  let o ← options.foldlM (conversionOption lifted) ({} : Options)
  check (rule (o.memory || ¬ l.memory) "canonical option memory is required")
  check (rule (o.allocator || ¬ l.allocator) "canonical option realloc is required")

def addCoreFunction (ids : Array Nat) (shared : Bool) (t : FuncType) : Checker Unit := do
  let i ← functionIdentity ids shared t
  update fun s => { s with coreItems := s.coreItems.push (.function i) }

def localResource (i : Nat) : Checker Unit := do
  let r ← resourceAt i
  check (rule ((← current).newResources.lookup r.id = some true) "not a local resource")

def functionDef : FunctionDef → Checker Unit
  | .lift f options type => do
    let t ← functionTypeAt type
    let core ← coreFunctionAt f
    let l := t.lowered false
    checkOptions (some core) l options
    check (rule (core = l.type) "lowered types do not match the core function")
    add (.function t)
  | .lower f options => do
    let l := (← functionAt f).lowered true
    checkOptions none l options
    addCoreFunction #[] false l.type
  | .newResource i => do
    localResource i
    addCoreFunction #[] false ⟨[.i32], [.i32]⟩
  | .dropResource i => do
    let _ ← resourceAt i
    addCoreFunction #[] false ⟨[.i32], []⟩
  | .representation i => do
    localResource i
    addCoreFunction #[] false ⟨[.i32], [.i32]⟩
  | .spawnThread i => do
    let type ← identityAt (← current) i
    match (← get).types.body? type with
    | some ⟨true, .function ⟨[.i32], []⟩⟩ =>
      addCoreFunction #[type] true ⟨[.ref ⟨true, .defined 0⟩, .i32], [.i32]⟩
    | _ => fail "wrong type of a thread"
  | .threadCount => addCoreFunction #[] true ⟨[], [.i32]⟩

def start (f : Nat) (args : List Nat) (results : Nat) : Checker Unit := do
  if (← current).started then fail "component cannot have more than one start function"
  let t ← functionAt f
  check (rule (t.params.length = args.length && t.results.length = results)
    "wrong number of arguments or results of a start function")
  let given ← args.mapM useValue
  check (rule (sameParts given (t.params.map Prod.snd)) "type mismatch of a start argument")
  t.results.forM fun (_, r) => add (.value r)
  update fun s => { s with started := true }

/-! ### All items -/

def addType (t : Entity) : Checker Unit := add (.type t)

def take (name : String) (b : Bound) : Checker Unit := do
  let (t, isNew) ← bound b
  carry name .takes isNew t

def promise (name : String) (b : Bound) : Checker Unit := do
  let (t, isNew) ← bound b
  carry name .gives isNew t

def give (name : String) (what : ItemRef) (b : Option Bound) : Checker Unit := do
  let actual ← match ← use what with
    | .type t => do pure (Entity.type (← renamed t))
    | t => pure t
  match b with
  | none => carry name .gives false actual
  | some b =>
    let (t, isNew) ← bound b
    check (rule (actual.fits (← get).types t) "ascribed type of export is not compatible")
    carry name .gives isNew t

mutual

def typeDef : TypeDef → Checker Unit
  | .data d => do addType (.value (← dataDef d))
  | .function params results => do addType (.function (← functionType params results))
  | .component decls => do
    addType (← componentOf (← inside .componentType (allDecls decls)))
  | .inst decls => do addType (instanceOf (← inside .instanceType (allDecls decls)))
  | .resource representation drop => do addType (← newResource representation drop)

def decl : Decl → Checker Unit
  | .coreType t => coreType t
  | .type t => typeDef t
  | .synonym s => synonym s
  | .gives name b => promise name b
  | .takes name b => take name b

def allDecls : List Decl → Checker Unit
  | [] => return
  | d :: ds => do
    decl d
    allDecls ds

end

def checkValues (s : Space) : Checker Unit :=
  let values := List.range (s.ofSort .value).length
  check (rule (values.all s.usedValues.contains) "value was not used")

def addModule (m : Module) : Checker Unit := do
  let p ← get
  let (t, types) ← liftM (moduleType Features.all p.types m)
  set { p with types }
  checkImportNames t
  add (.module t (t.weight types))

mutual

def item : Item → Checker Unit
  | .module m => addModule m
  | .component items => do
    let s ← inside .component (allItems items)
    checkValues s
    add (← componentOf s)
  | .coreInstance i => coreInstance i
  | .coreType t => coreType t
  | .inst i => instanceDef i
  | .synonym s => synonym s
  | .type t => typeDef t
  | .function f => functionDef f
  | .start f args results => start f args results
  | .takes name b => take name b
  | .gives name what b => give name what b

def allItems : List Item → Checker Unit
  | [] => return
  | i :: is => do
    item i
    allItems is

end

end Checker

def check (items : List Item) : Check := do
  let c : Checker Unit := do
    let s ← Checker.inside .component (Checker.allItems items)
    Checker.checkValues s
    let _ ← Checker.componentOf s
  let _ ← c.run ⟨{}, 1, []⟩
  return

end PluginHost.Wasm.Component
