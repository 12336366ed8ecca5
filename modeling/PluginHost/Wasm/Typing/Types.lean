import PluginHost.Wasm.Binary.Reader
import PluginHost.Wasm.Module
import Std.Data.HashMap
/-!
Types by identity. Types are the same where their whole groups are: a group is compared with
references to its own types counted from its start. From here on a type is named by the place of the
first one that is the same, so that equal types have equal names.
-/
namespace PluginHost.Wasm.Typing

abbrev Check := Except Fault Unit

def rule (holds : Bool) (text : String) : Check :=
  if holds then .ok () else .error (.invalid text)

def need (features : Features) (f : Feature) : Check :=
  if features f then .ok () else .error (.needs f)

structure Types where
  /-- Types that were seen, without repetition, which name each other by identity. -/
  entries : Array SubType := #[]
  /-- Groups that were seen, with the identity of the first type of each. -/
  seen : Std.HashMap (List SubType) Nat := ∅
  /-- The identity of each type of the module. -/
  ids : Array Nat := #[]
  deriving Inhabited

namespace Types

/-- Where types of the same group are counted from: no type stands there. -/
def groupBase : Nat := UInt32.size

def nowhere : Nat := 2 * UInt32.size

def id (t : Types) (i : Nat) : Nat := t.ids.getD i nowhere

def body? (t : Types) (i : Nat) : Option CompositeType := (t.entries[i]?).map SubType.body

def function? (t : Types) (i : Nat) : Option FuncType :=
  match t.body? i with
  | some ⟨_, .function f⟩ => some f
  | _ => none

def continued? (t : Types) (i : Nat) : Option FuncType :=
  match t.body? i with
  | some ⟨_, .continuation f⟩ => t.function? f
  | _ => none

def val (t : Types) (v : ValType) : ValType := v.mapIndex t.id

def ref (t : Types) (r : RefType) : RefType := r.mapIndex t.id

def table (t : Types) (type : TableType) : TableType := { type with element := t.ref type.element }

def global (t : Types) (type : GlobalType) : GlobalType := { type with value := t.val type.value }

def externType (t : Types) : ExternType → ExternType
  | .function i => .function (t.id i)
  | .table type => .table (t.table type)
  | .memory type => .memory type
  | .global type => .global (t.global type)
  | .tag i => .tag (t.id i)

/-- A type at a place may name the types up to the end of its group, and as a parent those before
it. -/
def checkNames (place groupEnd : Nat) (s : SubType) : Check := do
  rule (s.body.shape.indices.all (· < groupEnd)) "unknown type"
  rule (s.parent.all (· < place)) "supertypes must be defined before subtypes"

/-- Adds a group of types; a group that was seen before gives its identities. -/
def addGroup (t : Types) (group : List SubType) : Types :=
  let start := t.ids.size
  let named (base i : Nat) : Nat := if i < start then t.id i else base + (i - start)
  let key := group.map (SubType.mapIndices (named groupBase))
  let add (first : Nat) : Array Nat := (Array.range group.length).map (first + ·)
  match t.seen.get? key with
  | some first => { t with ids := t.ids ++ add first }
  | none =>
    let first := t.entries.size
    { entries := t.entries ++ (group.map (SubType.mapIndices (named first))).toArray
      seen := t.seen.insert key first
      ids := t.ids ++ add first }

def addGroups (t : Types) (types : Array SubType) (groups : List TypeGroup) :
    Except Fault Types := do
  let (t, _) ← groups.foldlM (fun ((t, next) : Types × Nat) g => do
    let start := t.ids.size
    let group := (types.extract next (next + g.size)).toList
    group.zipIdx.forM fun (s, k) => checkNames (start + k) (start + g.size) s
    return (t.addGroup group, next + g.size)) (t, 0)
  return t

def restart (t : Types) : Types := { t with ids := #[] }

end Types

end PluginHost.Wasm.Typing
