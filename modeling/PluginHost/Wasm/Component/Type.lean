import PluginHost.Wasm.Component
import PluginHost.Wasm.Typing.Module
/-!
The types of what components exchange. Types of resources are told apart by numbers; what a
component takes and gives mentions some of them, and making an instance of it puts others in their
place.
-/
namespace PluginHost.Wasm.Component

structure Resource where
  id : Nat
  name : Nat
  deriving DecidableEq, Inhabited

/-- Where a type of data comes from: its definition, and before it in the list what happened to its
resources since. -/
abbrev Origin := List Nat

inductive Form where
  | record (fields : List String)
  | variant (cases : List String)
  | list
  | tuple
  | flags (names : List String)
  | enum (names : List String)
  | option
  | result
  deriving DecidableEq, Inhabited

inductive DataType where
  /-- No data, in a form that could have some. -/
  | nothing
  | primitive (type : Primitive)
  /-- A resource, for good or for a while. -/
  | handle (owned : Bool) (resource : Resource)
  | composed (form : Form) (origin : Origin) (parts : List DataType)
  deriving Inhabited

structure FunctionType where
  params : List (String × DataType)
  results : List (Option String × DataType)
  deriving Inhabited

def FunctionType.data (t : FunctionType) : List DataType :=
  t.params.map Prod.snd ++ t.results.map Prod.snd

abbrev Path := List String

structure Resources where
  /-- Those that have to be given, found among what is taken. -/
  taken : List (Nat × Path)
  /-- Those that are new in each instance, found among what is given. -/
  made : List (Nat × Path)
  /-- All that are found among what is given. -/
  given : List (Nat × Path)
  deriving DecidableEq, Inhabited

inductive Entity where
  | module (type : Typing.ModuleType) (weight : Nat)
  | function (type : FunctionType)
  | value (type : DataType)
  | resource (r : Resource)
  | inst (exports : List (String × Entity)) (resources : Resources)
  | component (imports exports : List (String × Entity)) (resources : Resources)
  | type (things : Entity)
  deriving Inhabited

abbrev Entities := List (String × Entity)

def Entity.sort : Entity → ItemSort
  | .module .. => .module
  | .function _ => .function
  | .value _ => .value
  | .resource _ | .type _ => .type
  | .inst .. => .inst
  | .component .. => .component

/-! ### What types weigh -/

def Form.weight : Form → Nat
  | .list | .option => 0
  | _ => 1

mutual

def DataType.weight : DataType → Nat
  | .nothing => 0
  | .primitive _ | .handle .. => 1
  | .composed form _ parts => form.weight + partsWeight parts

def partsWeight : List DataType → Nat
  | [] => 0
  | t :: ts => t.weight + partsWeight ts

end

def FunctionType.weight (t : FunctionType) : Nat := 1 + partsWeight t.data

mutual

def Entity.weight : Entity → Nat
  | .module _ weight => weight
  | .function t => t.weight
  | .value t => t.weight
  | .resource _ => 1
  | .inst exports _ => 1 + entitiesWeight exports
  | .component imports exports _ => 1 + entitiesWeight imports + entitiesWeight exports
  | .type t => t.weight

def entitiesWeight : Entities → Nat
  | [] => 0
  | (_, t) :: ts => t.weight + entitiesWeight ts

end

/-! ### Resources -/

mutual

def DataType.handles : DataType → List (Bool × Resource)
  | .handle owned r => [(owned, r)]
  | .composed _ _ parts => partsHandles parts
  | _ => []

def partsHandles : List DataType → List (Bool × Resource)
  | [] => []
  | t :: ts => t.handles ++ partsHandles ts

end

def DataType.borrows (t : DataType) : Bool := t.handles.any fun (owned, _) => ¬ owned

def resourceIds (ts : List DataType) : List Nat := (partsHandles ts).map fun (_, r) => r.id

mutual

def Entity.free : Entity → List Nat
  | .module .. => []
  | .function t => resourceIds t.data
  | .value t => resourceIds [t]
  | .resource r => [r.id]
  | .inst exports rs => (freeIn exports).filter fun r => ¬ rs.made.any (·.1 = r)
  | .component imports exports rs =>
    (freeIn imports ++ freeIn exports).filter fun r => ¬ (rs.taken ++ rs.made).any (·.1 = r)
  | .type t => t.free

def freeIn : Entities → List Nat
  | [] => []
  | (_, t) :: ts => t.free ++ freeIn ts

end

structure Exchange where
  pairs : List (Nat × Nat)
  /-- What tells types that it changes from what they were. -/
  mark : Nat
  deriving Inhabited

namespace Exchange

def id (x : Exchange) (r : Nat) : Nat := (x.pairs.lookup r).getD r

def resource (x : Exchange) (r : Resource) : Resource := { r with id := x.id r.id }

def origin (x : Exchange) (o : Origin) (parts : List DataType) : Origin :=
  if (resourceIds parts).any fun r => (x.pairs.lookup r).isSome then x.mark :: o else o

def paths (x : Exchange) (ps : List (Nat × Path)) : List (Nat × Path) :=
  ps.map fun (r, p) => (x.id r, p)

end Exchange

mutual

def DataType.exchange (x : Exchange) : DataType → DataType
  | .handle owned r => .handle owned (x.resource r)
  | .composed form origin parts =>
    .composed form (x.origin origin parts) (exchangeParts x parts)
  | t => t

def exchangeParts (x : Exchange) : List DataType → List DataType
  | [] => []
  | t :: ts => t.exchange x :: exchangeParts x ts

end

def FunctionType.exchange (x : Exchange) (t : FunctionType) : FunctionType :=
  ⟨t.params.map fun (n, d) => (n, d.exchange x), t.results.map fun (n, d) => (n, d.exchange x)⟩

mutual

def Entity.exchange (x : Exchange) : Entity → Entity
  | .module t weight => .module t weight
  | .function t => .function (t.exchange x)
  | .value t => .value (t.exchange x)
  | .resource r => .resource (x.resource r)
  | .inst exports rs => .inst (exchangeIn x exports) { rs with given := x.paths rs.given }
  | .component imports exports rs =>
    .component (exchangeIn x imports) (exchangeIn x exports) { rs with given := x.paths rs.given }
  | .type t => .type (t.exchange x)

def exchangeIn (x : Exchange) : Entities → Entities
  | [] => []
  | (n, t) :: ts => (n, t.exchange x) :: exchangeIn x ts

end

def resourceAt? (things : Entities) : Path → Option Nat
  | [] => none
  | [name] =>
    match things.lookup name with
    | some (.type (.resource r)) => some r.id
    | _ => none
  | name :: path =>
    match things.lookup name with
    | some (.inst exports _) => resourceAt? exports path
    | _ => none

/-! ### Types with names -/

structure Named where
  resources : List Resource
  origins : List Origin
  deriving DecidableEq, Inhabited

def Form.needsName : Form → Bool
  | .record _ | .variant _ | .flags _ | .enum _ => true
  | _ => false

mutual

def DataType.isNamed (named : Named) : DataType → Bool
  | .handle _ r => named.resources.contains r
  | .composed form origin parts =>
    if form.needsName then named.origins.contains origin else partsNamed named parts
  | _ => true

def partsNamed (named : Named) : List DataType → Bool
  | [] => true
  | t :: ts => t.isNamed named && partsNamed named ts

end

def DataType.hasNamedParts (named : Named) : DataType → Bool
  | .composed _ _ parts => partsNamed named parts
  | t => t.isNamed named

def FunctionType.isNamed (named : Named) (t : FunctionType) : Bool := partsNamed named t.data

mutual

def Entity.hasNamedParts (named : Named) : Entity → Bool
  | .module .. | .resource _ | .component .. => true
  | .function t => t.isNamed named
  | .value t => t.hasNamedParts named
  | .inst exports _ => haveNamedParts named exports
  | .type t => t.hasNamedParts named

def haveNamedParts (named : Named) : Entities → Bool
  | [] => true
  | (_, t) :: ts => t.hasNamedParts named && haveNamedParts named ts

end

def Named.add (named : Named) : Entity → Named
  | .resource r => { named with resources := r :: named.resources }
  | .value (.composed _ origin _) => { named with origins := origin :: named.origins }
  | _ => named

mutual

def Named.register? (named : Named) : Entity → Option Named
  | .module .. | .component .. | .resource _ => some named
  | .function t => if t.isNamed named then some named else none
  | .value t => if t.isNamed named then some named else none
  | .inst exports _ => named.registerAll? exports
  | .type t => if t.hasNamedParts named then some (named.add t) else none

def Named.registerAll? (named : Named) : Entities → Option Named
  | [] => some named
  | (_, t) :: ts =>
    match named.register? t with
    | some named => named.registerAll? ts
    | none => none

end

end PluginHost.Wasm.Component
