import PluginHost.Execution
/-!
Calls into an instance. Every call walks through the same phases: the arguments are put in place,
the export runs, the result is taken over; a failure leads to one phase of its own. Whatever
happened, each buffer that the call owns is given back at its end, the latest first.
-/
namespace PluginHost.Stage

variable {g : Guest} {H : Type}

def begin (name : String) : Task g H Unit := do
  let s ← get
  if s.store.phase ≠ .idle then throw (.reentrancy name)
  modify fun s => s.updateStore fun t =>
    { t.refuelled.armed with
      call := some ⟨name, []⟩
      guestError := none
      limit := t.limit.reset }
  modify fun s => s.log (.callStarted name)

def adopt (t : Store) (b : Block) : Store := if t.owns b then t else t.track b

def packed : Ending → Except Halt UInt64
  | .ok [.i64 word] => .ok word
  | .ok _ => .error Buffer.oddResult
  | .error h => .error h

def exchange (b : Bridge) (name : String) (function : Nat) (input : Bytes) : Task g H Bytes := do
  let block ← Buffer.placeForCall enter b input
  modify fun s => s.enterPhase .argsMarshaled
  modify fun s => s.enterPhase .invoking
  modify fun s => s.note (.entered function [.i32 block.ptr, .i32 block.len])
  match packed (← (enter function [.i32 block.ptr, .i32 block.len] : Action g H Ending)) with
  | .error h => throw ((← get).store.classify name h)
  | .ok word =>
    let out := Block.unpack word
    let output ← MonadExcept.ofExcept ((← get).read b.memory out.ptr out.len)
    modify fun s => s.updateStore fun t => adopt t out
    modify fun s => s.enterPhase .resultMarshaled
    return output

def exchangeValues (name : String) (function : Nat) (args : List Value) :
    Task g H (List Value) := do
  modify fun s => s.enterPhase .argsMarshaled
  modify fun s => s.enterPhase .invoking
  modify fun s => s.note (.entered function args)
  match ← (enter function args : Action g H Ending) with
  | .error h => throw ((← get).store.classify name h)
  | .ok results =>
    modify fun s => s.enterPhase .resultMarshaled
    return results

/-- Lets the guest's own message stand in for its result or its trap; what the host raised
stays. -/
def surface (name : String) (message : Option String) (r : Except Failure α) : Except Failure α :=
  match message, r with
  | none, r => r
  | some m, .ok _ => .error (.guest name m)
  | some m, .error (.trap ..) => .error (.guest name m)
  | some _, .error e => .error e

def takeMessage : Action g H (Option String) := do
  let message := (← get).store.guestError
  modify fun s => s.updateStore fun t => { t with guestError := none }
  return message

/-- Gives buffers back in order; answers with the first failure, after every one was tried. -/
def releaseAll (b : Bridge) (name : String) : List Block → Action g H (Option Failure)
  | [] => return none
  | block :: blocks => do
    match ← (Buffer.release enter b block).run with
    | .ok _ => releaseAll b name blocks
    | .error e =>
      modify fun s => s.log (.releaseFailed name block e)
      let _ ← releaseAll b name blocks
      return some e

def takeBlocks : Action g H (List Block) := do
  let blocks := ((← get).store.call.map CallContext.blocks).getD []
  modify fun s => s.updateStore fun t =>
    { t with call := t.call.map fun c => { c with blocks := [] } }
  return blocks

/-- Ends a call: gives its buffers back with fresh fuel and no deadline. A failure to do so is the
answer of a call that went well, and costs the instance in any case. -/
def finish (b : Option Bridge) (name : String) (r : Except Failure α) :
    Action g H (Except Failure α) := do
  if r matches .error _ then modify fun s => s.enterPhase .failed
  modify fun s => s.updateStore fun t => t.refuelled.disarmed
  let blocks ← takeBlocks
  let failed ← match b with
    | some b => releaseAll b name blocks
    | none => pure none
  modify fun s => s.updateStore fun t => { t with call := none }
  modify fun s => s.enterPhase .idle
  match failed with
  | none => return r
  | some cleanup =>
    modify fun s => s.updateStore fun t => { t with poisoned := true }
    match r with
    | .ok _ =>
      modify fun s => s.log (.cleanupFailed name cleanup)
      return .error cleanup
    | .error e =>
      modify fun s => s.log (.cleanupFailedAfterError name e cleanup)
      return .error e

def during (b : Option Bridge) (name : String) (body : Task g H α) : Task g H α :=
  ExceptT.mk do
    let r ← body.run
    let message ← takeMessage
    finish b name (surface name message r)

def lookup (name : String) : Task g H (Nat × Signature) := do
  match g.function? (← get).module name with
  | some f => return f
  | none => throw (.unknownExport name)

def call (name : String) (input : Bytes) : Task g H Bytes := do
  let (function, signature) ← lookup name
  if signature ≠ .bytes then throw (.argument (.notBytes name signature))
  match (← get).store.bridge with
  | none => throw (.argument (.noAllocator name))
  | some b =>
    begin name
    during (some b) name (exchange b name function input)

def callValues (name : String) (args : List Value) : Task g H (List Value) := do
  let (function, signature) ← lookup name
  if args.map Value.kind ≠ signature.params then
    throw (.argument (.argumentTypes name signature (args.map Value.kind)))
  begin name
  let b := (← get).store.bridge
  during b name (exchangeValues name function args)

end PluginHost.Stage
