import PluginHost.GrowthLimit
import PluginHost.Guest
import PluginHost.Log.Event
import PluginHost.Variables
/-!
What the host keeps beside each instance: the limit on growth, the call in progress with the
buffers it owns, fuel and clock, the variables and the message of the guest.
-/
namespace PluginHost

structure CallContext where
  function : String
  /-- Buffers to release when the call ends, the latest first. -/
  blocks : List Block
  deriving DecidableEq, Inhabited

def CallContext.owns (c : CallContext) (b : Block) : Bool := c.blocks.any fun o => b.startsIn o

structure Bridge where
  memory : Nat
  alloc : Nat
  dealloc : Nat
  deriving DecidableEq, Inhabited

structure Store where
  limit : GrowthLimit
  phase : CallPhase
  call : Option CallContext
  bridge : Option Bridge
  timeoutMillis : Option Nat
  /-- Reading of the clock at which guest code is to be stopped. -/
  deadline : Option Nat
  /-- Milliseconds that guest code has run. -/
  clock : Nat
  fuelLimit : Option Nat
  fuel : Nat
  /-- A release of buffers failed, so the guest's heap can no longer be trusted. -/
  poisoned : Bool
  vars : Variables
  guestError : Option String
  system : SystemOptions
  deriving DecidableEq, Inhabited

namespace Store

def unlimitedFuel : Nat := UInt64.size - 1

def fullFuel (s : Store) : Nat := s.fuelLimit.getD unlimitedFuel

def ofSettings (s : Settings) : Store where
  limit := .ofBytes s.maxMemoryBytes
  phase := .idle
  call := none
  bridge := none
  timeoutMillis := s.timeoutMillis
  deadline := none
  clock := 0
  fuelLimit := s.fuelLimit
  fuel := s.fuelLimit.getD unlimitedFuel
  poisoned := false
  vars := .empty s.maxVarBytes
  guestError := none
  system := s.wasi

def currentFunction (s : Store) : String :=
  match s.call with
  | some c => c.function
  | none => Name.startPhase

def track (s : Store) (b : Block) : Store :=
  if b.isEmpty then s
  else { s with call := s.call.map fun c => { c with blocks := b :: c.blocks } }

def owns (s : Store) (b : Block) : Bool := s.call.any fun c => c.owns b

def armed (s : Store) : Store := { s with deadline := s.timeoutMillis.map (s.clock + ·) }

def disarmed (s : Store) : Store := { s with deadline := none }

def refuelled (s : Store) : Store := { s with fuel := s.fullFuel }

def spend (s : Store) (cost : Nat) : Store := { s with fuel := s.fuel - cost }

def advance (s : Store) (millis : Nat) : Store := { s with clock := s.clock + millis }

def isLate (s : Store) : Bool := s.deadline.any (· ≤ s.clock)

/-- What stops guest code after so many milliseconds more, if anything does. The clock is only
looked at when it moves. -/
def stop? (s : Store) (elapsed : Nat) : Option Halt :=
  if s.fuel = 0 then some .outOfFuel
  else if elapsed ≠ 0 ∧ (s.advance elapsed).isLate then
    some (.raised (.timeout s.currentFunction (s.timeoutMillis.getD 0)))
  else none

/-- The failure of guest code in a function. What the host raised stays what it is; lack of fuel
comes next, then growth that was refused; all else is a trap. -/
def classify (s : Store) (function : String) : Halt → Failure
  | .raised e => e
  | .outOfFuel => .fuelExhausted
  | .trapped cause =>
    match s.limit.refused with
    | some requested => .outOfMemory requested
    | none => .trap function cause

end Store

end PluginHost
