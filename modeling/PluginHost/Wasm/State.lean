import PluginHost.Wasm.Number
import PluginHost.Wasm.Program
/-!
The state of an instance: memories, tables, variables and segments, with the operations that
instructions do on them. An operation out of bounds changes nothing and names the trap.
-/
namespace PluginHost.Wasm

structure TableState where
  elements : Array Value
  maximum : Option Nat
  deriving Inhabited

structure State where
  memories : Array Memory
  tables : Array TableState
  globals : Array Value
  /-- References of the segments that are not used up. -/
  elems : Array (List Value)
  data : Array Bytes
  deriving Inhabited

namespace State

def empty : State := ⟨#[], #[], #[], #[], #[]⟩

def memorySize (s : State) (k : Nat) : Nat := ((s.memories[k]?).map Memory.size).getD 0

def pageCount (s : State) (k : Nat) : Nat := ((s.memories[k]?).map Memory.pageCount).getD 0

def onMemory (s : State) (k : Nat) (f : Memory → Memory) : State :=
  { s with memories := s.memories.modify k f }

def load (s : State) (k address octets : Nat) : Except TrapCause Nat :=
  match s.memories[k]? with
  | some m =>
    if address + octets ≤ m.size then .ok (m.readNumber address octets)
    else .error .memoryOutOfBounds
  | none => .error .memoryOutOfBounds

def store (s : State) (k address octets n : Nat) : Except TrapCause State :=
  if address + octets ≤ s.memorySize k then
    .ok (s.onMemory k fun m => m.writeNumber address n octets)
  else .error .memoryOutOfBounds

def put (s : State) (k address : Nat) (bytes : Bytes) : Except TrapCause State :=
  if address + bytes.length ≤ s.memorySize k then .ok (s.onMemory k fun m => m.write address bytes)
  else .error .memoryOutOfBounds

def copyMemory (s : State) (target source address start length : Nat) : Except TrapCause State :=
  match s.memories[source]? with
  | some m =>
    if start + length ≤ m.size ∧ address + length ≤ s.memorySize target then
      let bytes := m.read start length
      s.put target address bytes
    else .error .memoryOutOfBounds
  | none => .error .memoryOutOfBounds

def fillMemory (s : State) (k address length : Nat) (b : UInt8) : Except TrapCause State :=
  if address + length ≤ s.memorySize k then s.put k address (List.replicate length b)
  else .error .memoryOutOfBounds

def initMemory (s : State) (k segment address start length : Nat) : Except TrapCause State :=
  let bytes := s.data.getD segment []
  if start + length ≤ bytes.length then s.put k address ((bytes.drop start).take length)
  else .error .memoryOutOfBounds

def dropData (s : State) (segment : Nat) : State :=
  { s with data := s.data.setIfInBounds segment [] }

def tableSize (s : State) (k : Nat) : Nat :=
  ((s.tables[k]?).map fun t => t.elements.size).getD 0

def onTable (s : State) (k : Nat) (f : Array Value → Array Value) : State :=
  { s with tables := s.tables.modify k fun t => { t with elements := f t.elements } }

def getElement (s : State) (k i : Nat) : Except TrapCause Value :=
  match (s.tables[k]?).bind fun t => t.elements[i]? with
  | some v => .ok v
  | none => .error .tableOutOfBounds

def setFrom (elements : Array Value) (i : Nat) : List Value → Array Value
  | [] => elements
  | v :: vs => setFrom (elements.setIfInBounds i v) (i + 1) vs

def setElements (s : State) (k i : Nat) (vs : List Value) : Except TrapCause State :=
  if i + vs.length ≤ s.tableSize k then .ok (s.onTable k fun es => setFrom es i vs)
  else .error .tableOutOfBounds

def copyTable (s : State) (target source i start length : Nat) : Except TrapCause State :=
  match s.tables[source]? with
  | some t =>
    if start + length ≤ t.elements.size ∧ i + length ≤ s.tableSize target then
      s.setElements target i ((t.elements.extract start (start + length)).toList)
    else .error .tableOutOfBounds
  | none => .error .tableOutOfBounds

def fillTable (s : State) (k i length : Nat) (v : Value) : Except TrapCause State :=
  if i + length ≤ s.tableSize k then s.setElements k i (List.replicate length v)
  else .error .tableOutOfBounds

def initTable (s : State) (k segment i start length : Nat) : Except TrapCause State :=
  let vs := s.elems.getD segment []
  if start + length ≤ vs.length then s.setElements k i ((vs.drop start).take length)
  else .error .tableOutOfBounds

def dropElem (s : State) (segment : Nat) : State :=
  { s with elems := s.elems.setIfInBounds segment [] }

def growTable (s : State) (k delta : Nat) (v : Value) : State :=
  s.onTable k fun es => es ++ Array.replicate delta v

end State

end PluginHost.Wasm
