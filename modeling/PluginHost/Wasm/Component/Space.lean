import PluginHost.Wasm.Component.Matching
/-!
What a component has named so far: things by sort and number, what it takes and gives, and the types
of resources that come with it. A component inside another one, and a type of components, has a
space of its own.
-/
namespace PluginHost.Wasm.Component

open Typing

inductive CoreType where
  | single (identity : Nat)
  | module (type : ModuleType)
  deriving DecidableEq, Inhabited

inductive SpaceKind where
  | component
  | componentType
  | instanceType
  deriving DecidableEq, Inhabited

inductive Direction where
  | takes
  | gives
  deriving DecidableEq, Inhabited

structure Side where
  things : Entities := []
  names : List Name := []
  named : Named := ⟨[], []⟩
  /-- Types of resources, with the texts of their names. -/
  resources : List (Resource × String) := []
  deriving Inhabited

structure Space where
  kind : SpaceKind
  coreTypes : Array CoreType := #[]
  coreItems : Array ExternType := #[]
  coreInstances : Array (List (String × ExternType)) := #[]
  items : Array Entity := #[]
  /-- Values that have gone somewhere. -/
  usedValues : List Nat := []
  taken : Side := {}
  given : Side := {}
  started : Bool := false
  weight : Nat := 1
  /-- Types of resources that are taken, and where. -/
  takenResources : List (Nat × Path) := []
  /-- Types of resources that are new here, and whether their representation is known here. -/
  newResources : List (Nat × Bool) := []
  /-- Types of resources that are given, and where. -/
  givenResources : List (Nat × Path) := []
  deriving Inhabited

def sortOf : ExternType → ExportSort
  | .function _ => .function
  | .table _ => .table
  | .memory _ => .memory
  | .global _ => .global
  | .tag _ => .tag

namespace Space

def ofSort (s : Space) (sort : ItemSort) : List Entity :=
  s.items.toList.filter (·.sort = sort)

def limit : ItemSort → Nat
  | .function | .type => 1000000
  | _ => 1000

def count (s : Space) (sort : ItemSort) : Nat :=
  (s.ofSort sort).length + if sort = .inst then s.coreInstances.size else 0

def side (s : Space) : Direction → Side
  | .takes => s.taken
  | .gives => s.given

def onSide (s : Space) (d : Direction) (f : Side → Side) : Space :=
  match d with
  | .takes => { s with taken := f s.taken }
  | .gives => { s with given := f s.given }

def giveResource (s : Space) (r : Nat) (path : Path) : Space :=
  { s with givenResources := (r, path) :: s.givenResources.filter (·.1 ≠ r) }

end Space

structure Progress where
  types : Types
  /-- A number above 0 that nothing has yet. -/
  next : Nat
  spaces : List Space

abbrev Checker (α : Type) := StateT Progress (Except Fault) α

namespace Checker

def check (c : Check) : Checker Unit := liftM c

def fail (text : String) : Checker α := throw (.invalid text)

def found (what : String) : Option α → Checker α
  | some a => return a
  | none => fail ("unknown " ++ what)

def outer (levels : Nat) : Checker Space := do
  found "component" (← get).spaces[levels]?

def current : Checker Space := outer 0

def update (f : Space → Space) : Checker Unit :=
  modify fun p => match p.spaces with
    | s :: spaces => { p with spaces := f s :: spaces }
    | [] => p

def fresh : Checker Nat := do
  let p ← get
  set { p with next := p.next + 1 }
  return p.next

def freshFor (xs : List α) : Checker (List (α × Nat)) := xs.mapM fun a => do return (a, ← fresh)

/-! ### What stands under an index -/

def coreTypeAt (s : Space) (i : Nat) : Checker CoreType := found "core type" s.coreTypes[i]?

def identityAt (s : Space) (i : Nat) : Checker Nat := do
  match ← coreTypeAt s i with
  | .single t => return t
  | .module _ => fail "a type of modules stands for no other type"

def coreItemAt (sort : ExportSort) (i : Nat) : Checker ExternType := do
  found "core item" ((← current).coreItems.toList.filter (sortOf · = sort))[i]?

def coreFunctionAt (i : Nat) : Checker FuncType := do
  match ← coreItemAt .function i with
  | .function t => found "function type" ((← get).types.function? t)
  | _ => fail "not a function"

def coreInstanceAt (i : Nat) : Checker (List (String × ExternType)) := do
  found "core instance" (← current).coreInstances[i]?

def itemAt (s : Space) (sort : ItemSort) (i : Nat) : Checker Entity :=
  found "item" (s.ofSort sort)[i]?

def typeAt (s : Space) (i : Nat) : Checker Entity := do
  match ← itemAt s .type i with
  | .type t => return t
  | _ => fail "not a type"

def dataTypeAt (i : Nat) : Checker DataType := do
  match ← typeAt (← current) i with
  | .value t => return t
  | _ => fail "not a type of data"

def functionTypeAt (i : Nat) : Checker FunctionType := do
  match ← typeAt (← current) i with
  | .function t => return t
  | _ => fail "not a type of functions"

def resourceAt (i : Nat) : Checker Resource := do
  match ← typeAt (← current) i with
  | .resource r => return r
  | _ => fail "not a type of resources"

def functionAt (i : Nat) : Checker FunctionType := do
  match ← itemAt (← current) .function i with
  | .function t => return t
  | _ => fail "not a function"

def useValue (i : Nat) : Checker DataType := do
  let s ← current
  if s.usedValues.contains i then fail "cannot use a value more than once"
  match ← itemAt s .value i with
  | .value t =>
    update fun s => { s with usedValues := i :: s.usedValues }
    return t
  | _ => fail "not a value"

def use (r : ItemRef) : Checker Entity := do
  match r.sort with
  | .value => return .value (← useValue r.index)
  | sort => itemAt (← current) sort r.index

def dataType : DataRef → Checker DataType
  | .primitive p => return .primitive p
  | .index i => dataTypeAt i

def renamed : Entity → Checker Entity
  | .resource r => do return .resource { r with name := ← fresh }
  | .value (.composed form _ parts) => do return .value (.composed form [← fresh] parts)
  | t => return t

def bound (b : Bound) : Checker (Entity × Bool) := do
  let s ← current
  let known (t : Entity) : Checker (Entity × Bool) := return (t, false)
  match b with
  | .module i =>
    match ← coreTypeAt s i with
    | .module t => known (.module t (t.weight (← get).types))
    | .single _ => fail "not a type of modules"
  | .function i => known (.function (← functionTypeAt i))
  | .value r => known (.value (← dataType r))
  | .equal i => known (.type (← renamed (← typeAt s i)))
  | .resource =>
    return (.type (.resource ⟨← fresh, 0⟩), true)
  | .inst i =>
    match ← typeAt s i with
    | .inst exports rs => known (.inst exports rs)
    | _ => fail "not a type of instances"
  | .component i =>
    match ← typeAt s i with
    | .component imports exports rs => known (.component imports exports rs)
    | _ => fail "not a type of components"

/-! ### Adding things -/

def add (t : Entity) : Checker Unit := do
  update fun s => { s with items := s.items.push t }
  check (rule ((← current).count t.sort ≤ Space.limit t.sort) "too many things of one sort")

/-- What an instance gives and its resources, after those of its own got new numbers; with these
numbers and where the resources are found. -/
def opened (exports : Entities) (rs : Resources) :
    Checker (Entities × Resources × List (Nat × Path)) := do
  if rs.made.isEmpty then return (exports, rs, [])
  let new ← freshFor rs.made
  let x : Exchange := ⟨new.map fun ((r, _), n) => (r, n), ← fresh⟩
  return (exchangeIn x exports, ⟨[], [], x.paths rs.given⟩, new.map fun ((_, path), n) => (n, path))

def makeResources (rs : List Nat) : Checker Unit :=
  update fun s => { s with newResources := s.newResources ++ rs.map fun r => (r, false) }

def takeResources (rs : List (Nat × Path)) : Checker Unit :=
  update fun s => { s with takenResources := s.takenResources ++ rs }

def carried (name : String) (d : Direction) (isNew : Bool) (t : Entity) : Checker Entity := do
  match t, d with
  | .inst exports rs, d =>
    let (exports, rs, new) ← opened exports rs
    match d with
    | .takes => takeResources (new.map fun (r, path) => (r, name :: path))
    | .gives =>
      makeResources (new.map Prod.fst)
      update fun s => rs.given.foldl (fun s (r, path) => s.giveResource r (name :: path)) s
    return .inst exports rs
  | .type (.resource r), .takes =>
    if isNew then takeResources [(r.id, [name])]
    return t
  | .type (.resource r), .gives =>
    if isNew then makeResources [r.id]
    update fun s => s.giveResource r.id [name]
    return t
  | t, _ => return t

/-- Fails where a type is mentioned that has no name; names what comes in or goes out. -/
def nameTypes (d : Direction) (t : Entity) : Checker Unit := do
  let s ← current
  if s.kind = .instanceType then return
  let register (d : Direction) : Checker Unit := do
    let named ← found "name of a type" ((s.side d).named.register? t)
    update fun s => s.onSide d fun side => { side with named }
  register d
  if d = .takes then register .gives

def isResource (side : Side) (name : String) (t : DataType) (owned : Bool) : Bool :=
  match t with
  | .handle owned' r => owned' = owned && side.resources.lookup r = some name
  | _ => false

def mayHave (side : Side) (name : Name) (t : Entity) : Bool :=
  match name, t with
  | .creation resource, .function f =>
    match f.results with
    | [(_, r)] => isResource side resource r true
    | _ => false
  | .method resource _, .function f =>
    match f.params with
    | (self, r) :: _ => self = "self" && isResource side resource r false
    | [] => false
  | .static resource _, .function _ => side.resources.any (·.2 = resource)
  | .creation _, _ | .method .., _ | .static .., _ => false
  | _, _ => true

def addNamed (side : Side) (d : Direction) (text : String) (t : Entity) : Checker Side := do
  let name ← found "name" (Name.ofText? text)
  match name, d with
  | .place _, .gives => fail "not a valid export name"
  | _, _ => pure ()
  check (rule (mayHave side name t) "name does not fit")
  check (rule (¬ side.names.any name.clashes) "name conflicts with previous name")
  return { side with things := side.things ++ [(text, t)], names := name :: side.names }

def carry (name : String) (d : Direction) (isNew : Bool) (t : Entity) : Checker Unit := do
  let t ← carried name d isNew t
  add t
  let s ← current
  match t, d with
  | .value _, .gives =>
    update fun s => { s with usedValues := ((s.ofSort .value).length - 1) :: s.usedValues }
  | .type (.resource r), d =>
    update fun s => s.onSide d fun side => { side with resources := (r, name) :: side.resources }
  | _, _ => pure ()
  nameTypes d t
  let side ← addNamed ((← current).side d) d name t
  let weight := s.weight + t.weight
  check (checkWeight weight)
  update fun s => { s.onSide d fun _ => side with weight }

def bundle (things : Entities) : Checker Entity := do
  let side ← things.foldlM (fun side (name, t) => addNamed side .gives name t) ({} : Side)
  let given := things.foldl (fun (s : Space) (name, t) =>
    match t with
    | .inst _ rs => rs.given.foldl (fun s (r, path) => s.giveResource r (name :: path)) s
    | .type (.resource r) => s.giveResource r.id [name]
    | _ => s) ({ kind := .instanceType } : Space)
  let t : Entity := .inst side.things ⟨[], [], given.givenResources⟩
  check (checkWeight t.weight)
  return t

def instantiate (t : Entity) (args : Entities) : Checker Entity := do
  check (rule (distinct (args.map Prod.fst)) "instantiation argument conflicts with another one")
  match t with
  | .component imports exports rs =>
    let pairs ← found "argument" (supply? (Entity.fits (← get).types) args imports rs.taken)
    let new ← freshFor rs.made
    let x : Exchange := ⟨pairs ++ new.map fun ((r, _), n) => (r, n), ← fresh⟩
    let t : Entity := .inst (exchangeIn x exports) ⟨[], [], x.paths rs.given⟩
    check (checkWeight t.weight)
    makeResources (new.map Prod.snd)
    return t
  | _ => fail "not a component"

/-! ### Opening and closing spaces -/

def inside (kind : SpaceKind) (c : Checker Unit) : Checker Space := do
  modify fun p => { p with spaces := { kind } :: p.spaces }
  c
  let s ← current
  modify fun p => { p with spaces := p.spaces.tail }
  return s

def placed (s : Space) (rs : List Nat) : List (Nat × Path) :=
  rs.filterMap fun r => (s.givenResources.lookup r).map (r, ·)

def componentOf (s : Space) : Checker Entity := do
  let new := s.newResources.map Prod.fst
  let freeOut := freeIn s.given.things
  check (rule (new.all fun r => ¬ (freeIn s.taken.things).contains r)
    "local resource type found in imports")
  let out := new.filter freeOut.contains
  check (rule (out.all fun r => (s.givenResources.lookup r).isSome)
    "local resource type found in export but not exported itself")
  return .component s.taken.things s.given.things ⟨s.takenResources, placed s out, s.givenResources⟩

def instanceOf (s : Space) : Entity :=
  .inst s.given.things ⟨[], placed s (s.newResources.map Prod.fst), s.givenResources⟩

end Checker

end PluginHost.Wasm.Component
