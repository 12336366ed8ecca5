import PluginHost.Counting
import PluginHost.Log.Journal
import PluginHost.Provider
import PluginHost.Store
/-!
An instance of a module together with what the host keeps beside it, and the steps that the host
takes on it. A step may fail, but never undoes what was done before.
-/
namespace PluginHost

structure World (H : Type) where
  journal : Log.Journal
  memory : H

structure Instance (g : Guest) (H : Type) where
  module : g.Module
  providers : Array (Provider H)
  guest : g.State
  store : Store

/-- What host and guest did with each other. -/
inductive Deed where
  | entered (function : Nat) (args : List Value)
  | asked (length : UInt32)
  /-- The allocator gave a buffer inside memory. -/
  | given (b : Block)
  | returned (b : Block)
  | kept (b : Block) (e : Failure)
  | reported (octets : Bytes)
  /-- The guest set a variable, or was refused to. -/
  | assigned (key : String) (value : Bytes) (accepted : Bool)
  | lookedUp (key : String) (value : Option Bytes)
  | served (ns name : String) (input output : Bytes)
  | declined (ns name : String) (input : Bytes) (e : Failure)
  deriving DecidableEq, Inhabited

structure Stage (g : Guest) (H : Type) extends Instance g H where
  world : World H
  /-- What was done since the operation began, the latest first. It is kept for the record: no step
  looks at it. -/
  deeds : List Deed

abbrev Action (g : Guest) (H α : Type) := StateM (Stage g H) α

abbrev Task (g : Guest) (H α : Type) := ExceptT Failure (StateM (Stage g H)) α

def Task.outcome {g : Guest} {H α : Type} (t : Task g H α) : Task g H (Except Failure α) :=
  ExceptT.mk (Except.ok <$> t.run)

abbrev Runner (g : Guest) (H : Type) := (function : Nat) → List Value → Action g H Ending

namespace Stage

variable {g : Guest} {H : Type}

def log (s : Stage g H) (e : Log.Event) : Stage g H :=
  { s with world := { s.world with journal := s.world.journal.emit e } }

def note (s : Stage g H) (d : Deed) : Stage g H := { s with deeds := d :: s.deeds }

def updateStore (s : Stage g H) (f : Store → Store) : Stage g H := { s with store := f s.store }

def enterPhase (s : Stage g H) (p : CallPhase) : Stage g H :=
  let s := s.log (.phaseChanged s.store.currentFunction s.store.phase p)
  s.updateStore fun t => { t with phase := p }

def memorySize (s : Stage g H) (memory : Nat) : Nat := g.size s.guest memory

/-- Fails unless so many octets from an address on are in memory. The end is a sum of 64-bit
words. -/
def bounds (s : Stage g H) (memory : Nat) (ptr len : UInt32) : Except Failure Unit :=
  let size := s.memorySize memory
  let stop := ptr.toUInt64 + len.toUInt64
  if stop.toNat ≤ size then .ok () else .error (.outOfBounds ptr.toNat len.toNat size)

def read (s : Stage g H) (memory : Nat) (ptr len : UInt32) : Except Failure Bytes := do
  s.bounds memory ptr len
  return g.read s.guest memory ptr.toNat len.toNat

def slice? (s : Stage g H) (memory : Nat) (start stop : UInt64) : Option Bytes :=
  if start ≤ stop ∧ stop.toNat ≤ s.memorySize memory then
    some (g.read s.guest memory start.toNat (stop.toNat - start.toNat))
  else none

def write (s : Stage g H) (memory : Nat) (ptr : UInt32) (bytes : Bytes) : Stage g H :=
  { s with guest := g.write s.guest memory ptr.toNat bytes }

end Stage

/-! Buffers in guest memory. They come from the guest's own allocator and go back to it. -/
namespace Buffer

variable {g : Guest} {H : Type}

def maxLength : Nat := twoTo 31 - 1

def oddResult : Halt := .trapped (.engine "function returned values of other types")

def address : Ending → Except Halt UInt32
  | .ok [.i32 ptr] => .ok ptr
  | .ok _ => .error oddResult
  | .error h => .error h

def allocate (run : Runner g H) (b : Bridge) (length : Nat) : Task g H Block := do
  if length = 0 then return Block.empty
  if maxLength < length then throw (.outOfMemory length)
  let len := UInt32.ofNat length
  modify fun s => s.note (.asked len)
  match address (← run b.alloc [.i32 len]) with
  | .ok ptr =>
    if ptr = 0 then throw (.outOfMemory length)
    MonadExcept.ofExcept ((← get).bounds b.memory ptr len)
    modify fun s => s.note (.given ⟨ptr, len⟩)
    return ⟨ptr, len⟩
  | .error h =>
    let s ← get
    throw (if s.store.limit.denied then .outOfMemory length else s.store.classify Name.alloc h)

def release (run : Runner g H) (b : Bridge) (block : Block) : Task g H Unit := do
  if block.isEmpty then return
  modify fun s => s.note (.returned block)
  match ← run b.dealloc [.i32 block.ptr, .i32 block.len] with
  | .ok _ => return
  | .error h =>
    let e := (← get).store.classify Name.dealloc h
    modify fun s => s.note (.kept block e)
    throw e

def fill (b : Bridge) (ptr : UInt32) (bytes : Bytes) : Task g H Unit := do
  if bytes.isEmpty then return
  let s ← get
  let size := s.memorySize b.memory
  if UInt32.size ≤ bytes.length then throw (.outOfBounds ptr.toNat bytes.length size)
  MonadExcept.ofExcept (s.bounds b.memory ptr (UInt32.ofNat bytes.length))
  modify fun s => s.write b.memory ptr bytes

/-- A fresh buffer that holds the octets; it is given back where they cannot be put there. -/
def place (run : Runner g H) (b : Bridge) (bytes : Bytes) : Task g H Block := do
  let block ← allocate run b bytes.length
  match ← (fill b block.ptr bytes).outcome with
  | .ok _ => return block
  | .error e =>
    match ← (release run b block).outcome with
    | .ok _ => pure ()
    | .error kept => modify fun s => s.log (.blockKept kept)
    throw e

def placeForCall (run : Runner g H) (b : Bridge) (bytes : Bytes) : Task g H Block := do
  let block ← place run b bytes
  modify fun s => s.updateStore fun t => t.track block
  return block

end Buffer

end PluginHost
