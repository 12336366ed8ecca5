import PluginHost.Wasm.Component.Name
import PluginHost.Wasm.Component.Type
/-!
When something can stand where something else is asked for. Data and functions have to be the same
up to the names of types; what has more to give, or asks for less, can stand for the rest.
-/
namespace PluginHost.Wasm.Component

open Typing

def sameLabels (as bs : List String) : Bool :=
  as.length = bs.length && (as.zip bs).all fun (a, b) => sameLabel a b

def Form.same : Form → Form → Bool
  | .record a, .record b | .variant a, .variant b | .flags a, .flags b | .enum a, .enum b =>
    sameLabels a b
  | a, b => a = b

mutual

def DataType.same : DataType → DataType → Bool
  | .nothing, .nothing => true
  | .primitive p, .primitive q => p = q
  | .handle owned r, .handle owned' r' => owned = owned' && r.id = r'.id
  | .composed form _ parts, .composed form' _ parts' => form.same form' && sameParts parts parts'
  | _, _ => false

def sameParts : List DataType → List DataType → Bool
  | [], [] => true
  | t :: ts, u :: us => t.same u && sameParts ts us
  | _, _ => false

end

def FunctionType.same (t u : FunctionType) : Bool :=
  let names (f : FunctionType) : List String :=
    f.params.map Prod.fst ++ f.results.map fun r => r.1.getD ""
  t.params.length = u.params.length && sameLabels (names t) (names u) && sameParts t.data u.data

def within (a b : Limits) : Bool :=
  b.minimum ≤ a.minimum && b.maximum.all fun most => a.maximum.any (· ≤ most)

def coreMatches (types : Types) : ExternType → ExternType → Bool
  | .function a, .function b | .tag a, .tag b => refines types a b
  | .table a, .table b =>
    a.element = b.element && a.wide = b.wide && a.shared = b.shared && within a.limits b.limits
  | .memory a, .memory b =>
    a.wide = b.wide && a.shared = b.shared && within a.limits b.limits
  | .global a, .global b => a.mutable = b.mutable && a.value = b.value
  | _, _ => false

def moduleMatches (types : Types) (a b : ModuleType) : Bool :=
  (a.imports.all fun i =>
    b.imports.any fun j => i.ns = j.ns && i.name = j.name && coreMatches types j.type i.type) &&
  b.exports.all fun (name, t) => (a.exports.lookup name).any fun u => coreMatches types u t

/-- Whether things under names are what is asked for, once the resources that are asked for were
found among them; if so, those resources. -/
def supply? (fits : Entity → Entity → Bool) (things asked : Entities)
    (resources : List (Nat × Path)) : Option (List (Nat × Nat)) :=
  let pairs := resources.filterMap fun (r, path) => (resourceAt? things path).map (r, ·)
  if (exchangeIn ⟨pairs, 0⟩ asked).all fun (name, t) => (things.lookup name).any (fits · t) then
    some pairs
  else none

def fitsWithin (types : Types) : (depth : Nat) → Entity → Entity → Bool
  | 0, _, _ => false
  | depth + 1, a, b =>
    let fits := fitsWithin types depth
    match a, b with
    | .module t _, .module u _ => moduleMatches types t u
    | .function t, .function u => t.same u
    | .value t, .value u => t.same u
    | .resource r, .resource r' => r.id = r'.id
    | .type t, .type u => fits t u
    | .inst exports _, .inst asked _ =>
      asked.all fun (name, t) => (exports.lookup name).any (fits · t)
    | .component imports exports rs, .component imports' exports' rs' =>
      match supply? fits imports' imports rs.taken with
      | some pairs => (supply? fits (exchangeIn ⟨pairs, 0⟩ exports) exports' rs'.made).isSome
      | none => false
    | _, _ => false

def Entity.fits (types : Types) (a b : Entity) : Bool := fitsWithin types maxWeight a b

end PluginHost.Wasm.Component
