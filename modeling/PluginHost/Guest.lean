import PluginHost.Interface
import PluginHost.Value
/-!
A guest as the host sees it: a machine that is entered at a function and then takes steps. A step
may ask the host something: to look at fuel and clock, to allow growth, to run an imported
function. Nothing else is known about guest code, so what is proved over `Guest` holds of every
engine and every module.
-/
namespace PluginHost

abbrev Bytes := List UInt8

/-- Who calls an imported function. Only code of the guest stands for an instance, in whose exports
the function can look for a memory; the host has none. -/
inductive Caller where
  | guest
  /-- The host calls a function that the guest imports and exports again. -/
  | host
  deriving DecidableEq, Inhabited

def Caller.trap (caller : Caller) (reason : String) : TrapCause :=
  match caller with
  | .guest => .engine reason
  | .host => .described reason

inductive Step (State Code : Type) where
  | next (cost : Nat) (code : Code) (state : State)
  /-- Code goes on unless fuel or time has run out; so many milliseconds have passed. -/
  | check (elapsed : Nat) (code : Code) (state : State)
  | growMemory (current desired : Nat) (maximum : Option Nat) (code : Code) (state : State)
  | growTable (desired : Nat) (maximum : Option Nat) (code : Code) (state : State)
  | call (index : Nat) (args : List Value) (caller : Caller) (depth : Nat) (code : Code)
    (state : State)
  | finished (results : List Value) (state : State)
  | trapped (cause : TrapCause) (state : State)

/-- A machine that runs the code of modules. -/
structure Guest where
  Module : Type
  State : Type
  /-- A computation that has not ended. -/
  Code : Type
  load : Bytes → Except Failure Module
  imports : Module → List Import
  exports : Module → List Export
  /-- The state before an instance exists, and the computation that makes it. -/
  start : Module → State × Code
  enter : Module → (depth function : Nat) → List Value → Code
  step : Module → Code → State → Step State Code
  resume : List Value → Code → Code
  answer : Bool → Code → Code
  sizes : State → List Nat
  read : State → (memory address length : Nat) → Bytes
  write : State → (memory address : Nat) → Bytes → State
  /-- Steps after which a computation counts as out of fuel, however much it was given. -/
  stepLimit : Nat

namespace Guest

variable (g : Guest)

def info (m : g.Module) : ModuleInfo := .ofInterface (g.imports m) (g.exports m)

def export? (m : g.Module) (name : String) : Option ExportKind :=
  ((g.exports m).find? fun e => e.name = name).map Export.kind

def function? (m : g.Module) (name : String) : Option (Nat × Signature) :=
  match g.export? m name with
  | some (.function index signature) => some (index, signature)
  | _ => none

def memory? (m : g.Module) : Option Nat :=
  match g.export? m Name.memory with
  | some (.memory index _) => some index
  | _ => none

def size (s : g.State) (memory : Nat) : Nat := (g.sizes s).getD memory 0

end Guest

inductive Halt where
  | trapped (cause : TrapCause)
  | outOfFuel
  | raised (e : Failure)
  deriving DecidableEq, Inhabited

abbrev Ending := Except Halt (List Value)

end PluginHost
