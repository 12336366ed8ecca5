import PluginHost.Block
import PluginHost.GuestKit.Heap
/-!
What guests are built with: an allocator for buffers, and exports that take and return buffers. Code
of a guest is a `Routine`, a tree of requests to its memory, to the allocator and to imported
functions.
-/
namespace PluginHost.GuestKit

inductive Routine (α : Type) where
  | done (a : α)
  | abort
  | allocate (length : Nat) (next : Option Nat → Routine α)
  | release (address length : Nat) (next : Routine α)
  | load (address length : Nat) (next : Bytes → Routine α)
  | store (address : Nat) (bytes : Bytes) (next : Routine α)
  | call (index : Nat) (args : List Value) (next : List Value → Routine α)

namespace Routine

def bind (r : Routine α) (f : α → Routine β) : Routine β :=
  match r with
  | .done a => f a
  | .abort => .abort
  | .allocate length next => .allocate length fun p => (next p).bind f
  | .release address length next => .release address length (next.bind f)
  | .load address length next => .load address length fun bytes => (next bytes).bind f
  | .store address bytes next => .store address bytes (next.bind f)
  | .call index args next => .call index args fun results => (next results).bind f

instance : Monad Routine where
  pure := .done
  bind := bind

end Routine

def isPositive (n : UInt32) : Bool := 0 < n.toNat && n.toNat < twoTo 31

def alloc (size : UInt32) : Routine UInt32 :=
  if isPositive size then .allocate size.toNat fun p => .done (UInt32.ofNat (p.getD 0))
  else .done 0

def dealloc (ptr size : UInt32) : Routine Unit :=
  if ptr ≠ 0 && isPositive size then .release ptr.toNat size.toNat (.done ()) else .done ()

def readInput (ptr len : UInt32) : Routine Bytes :=
  if ptr ≠ 0 && isPositive len then .load ptr.toNat len.toNat .done else .done []

def readPacked (word : UInt64) : Routine Bytes :=
  let b := Block.unpack word
  readInput b.ptr b.len

def writeOutput (bytes : Bytes) : Routine UInt64 := do
  if bytes.isEmpty then return 0
  let len := UInt32.ofNat bytes.length
  let ptr ← alloc len
  if ptr = 0 then
    if bytes.length < twoTo 31 then .abort else return 0
  else .store ptr.toNat bytes (.done (Block.pack ⟨ptr, len⟩))

def pluginFunction (handler : Bytes → Routine Bytes) (ptr len : UInt32) : Routine UInt64 := do
  let input ← readInput ptr len
  writeOutput (← handler input)

/-- Runs a step while octets of the guest's own lie in memory. No octets lie nowhere, and have the
address 1. -/
def lending (bytes : Bytes) (t : UInt32 → UInt32 → Routine α) : Routine α :=
  if bytes.isEmpty then t 1 0
  else
    .allocate bytes.length fun
      | none => .abort
      | some p =>
        .store p bytes do
          let a ← t (UInt32.ofNat p) (UInt32.ofNat bytes.length)
          .release p bytes.length (.done a)

def callOn (imported : UInt32 → UInt32 → Routine UInt64) (ptr len : UInt32) : Routine Bytes := do
  readPacked (← imported ptr len)

def callHost (imported : UInt32 → UInt32 → Routine UInt64) (input : Bytes) : Routine Bytes :=
  lending input (callOn imported)

def imported (index : Nat) (ptr len : UInt32) : Routine UInt64 :=
  .call index [.i32 ptr, .i32 len] fun
    | [.i64 word] => .done word
    | _ => .abort

/-- What an export computes while it holds so many buffers of its own: it calls functions that it
imports, and allocates and releases buffers in any order. Where they lie makes no difference to what
it returns, and when it is done it holds none. -/
inductive Handler : Nat → Type where
  | done (output : Bytes) : Handler 0
  | call {n : Nat} (index : Nat) (input : Bytes) (next : Bytes → Handler n) : Handler n
  | hold {n : Nat} (bytes : Bytes) (filled : bytes ≠ []) (next : Handler (n + 1)) : Handler n
  /-- Calls a function on what is in the buffer at this place, the one held longest first. -/
  | lend {n : Nat} (index : Nat) (place : Fin n) (next : Bytes → Handler n) : Handler n
  | release {n : Nat} (place : Fin (n + 1)) (next : Handler n) : Handler (n + 1)

def Handler.routine {n : Nat} : Handler n → Vector Stretch n → Routine Bytes
  | .done output, _ => .done output
  | .call index input next, held => do
    (next (← callHost (imported index) input)).routine held
  | .hold bytes _ next, held =>
    .allocate bytes.length fun
      | none => .abort
      | some p => .store p bytes (next.routine (held.push ⟨p, bytes.length⟩))
  | .lend index place next, held => do
    let t := held[place]
    let answer ← callOn (imported index) (UInt32.ofNat t.address) (UInt32.ofNat t.length)
    (next answer).routine held
  | .release place next, held =>
    .release held[place].address held[place].length
      (next.routine (held.eraseIdx place place.isLt))

/-! Functions of the guest as the host enters them. -/
namespace Entry

def alloc : List Value → Routine (List Value)
  | [.i32 size] => do return [.i32 (← GuestKit.alloc size)]
  | _ => .abort

def dealloc : List Value → Routine (List Value)
  | [.i32 ptr, .i32 size] => do
    GuestKit.dealloc ptr size
    return []
  | _ => .abort

def octets (handler : Bytes → Routine Bytes) : List Value → Routine (List Value)
  | [.i32 ptr, .i32 len] => do return [.i64 (← pluginFunction handler ptr len)]
  | _ => .abort

end Entry

end PluginHost.GuestKit
