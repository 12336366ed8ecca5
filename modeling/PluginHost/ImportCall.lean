import PluginHost.Instance
/-!
What happens when guest code calls an imported function. Whichever provider answers, guest code goes
on with the results or ends with the failure that the host raised.
-/
namespace PluginHost

variable {g : Guest} {H : Type}

inductive Thrown where
  | error (e : CallableError)
  | panic (p : PanicPayload)
  deriving DecidableEq, Inhabited

namespace Program

def noBridge (function : String) : Failure :=
  .hostFunction function ("guest does not export memory, `" ++ Name.alloc ++ "` and `" ++
    Name.dealloc ++ "`")

def exec (run : Runner g H) (function : String) : Program H α → Action g H (Except Thrown α)
  | .done a => return .ok a
  | .fail e => return .error (.error e)
  | .panic p => return .error (.panic p)
  | .remember change next => do
    let old := (← get).world.memory
    modify fun s => { s with world := { s.world with memory := change s.world.memory } }
    exec run function (next old)
  | .exportName next => do exec run function (next (← get).store.currentFunction)
  | .memorySize next => do
    let s ← get
    exec run function (next ((s.store.bridge.map fun b => s.memorySize b.memory).getD 0))
  | .read ptr len next => do
    let s ← get
    match s.store.bridge with
    | some b => exec run function (next (s.read b.memory ptr len))
    | none => exec run function (next (.error (noBridge function)))
  | .write bytes next => do
    match (← get).store.bridge with
    | some b => exec run function (next (← (Buffer.placeForCall run b bytes).run))
    | none => exec run function (next (.error (noBridge function)))
  | .callBack target next => do
    modify fun s => s.log (.reentryRejected function target s.store.phase)
    exec run function (next (.reentrancy target))

end Program

namespace ImportCall

def outsideCall (function : String) : Failure :=
  .hostFunction function "called while no plugin call is in progress"

def guarded (run : Runner g H) (function : String) (p : Program H α) : Task g H α := do
  match ← ExceptT.mk (Except.ok <$> p.exec run function) with
  | .ok a => return a
  | .error (.error e) => throw (e.toFailure function)
  | .error (.panic payload) =>
    modify fun s => s.log (.functionPanicked function payload.message)
    throw (.hostFunction function ("panicked: " ++ payload.message))

def serve (run : Runner g H) (f : HostFunction H) (body : Bytes → Program H Bytes)
    (input : Bytes) : Task g H Bytes := do
  match ← (guarded run f.name (body input)).outcome with
  | .ok output =>
    modify fun s => s.note (.served f.ns f.name input output)
    return output
  | .error e =>
    modify fun s => s.note (.declined f.ns f.name input e)
    throw e

def function (run : Runner g H) (f : HostFunction H) (args : List Value) :
    Task g H (List Value) := do
  let s ← get
  if s.store.call.isNone then throw (outsideCall f.name)
  modify fun s => s.log (.functionInvoked f.qualifiedName s.store.currentFunction)
  match f.callable with
  | .raw body => guarded run f.name (body args)
  | .bytes body =>
    match s.store.bridge, args with
    | none, _ =>
      throw (.hostFunction f.name ("guest does not export `" ++ Name.memory ++ "`, `" ++
        Name.alloc ++ "` and `" ++ Name.dealloc ++ "`"))
    | some b, [.i32 ptr, .i32 len] =>
      let input ← MonadExcept.ofExcept (s.read b.memory ptr len)
      let output ← serve run f body input
      let block ← Buffer.placeForCall run b output
      return [.i64 block.pack]
    | some _, _ => throw (.hostFunction f.name "expected (ptr: i32, len: i32) arguments")

def memory? (caller : Caller) (s : Stage g H) : Option Nat :=
  match caller with
  | .guest => g.memory? s.module
  | .host => none

/-- Octets of the memory that the caller exports. Start computations can have them read too. -/
def readFor (service : Service) (caller : Caller) (ptr len : UInt32) : Task g H Bytes := do
  let s ← get
  match memory? caller s with
  | some memory =>
    let start := ptr.toUInt64
    let length := len.toUInt64
    match s.slice? memory start (start + length) with
    | some octets => return octets
    | none => throw (.outOfBounds start.toNat length.toNat (s.memorySize memory))
  | none =>
    throw (.hostFunction service.failureName ("guest does not export `" ++ Name.memory ++ "`"))

def readKey (service : Service) (caller : Caller) (ptr len : UInt32) : Task g H String := do
  match Text.Utf8.decode (← readFor service caller ptr len) with
  | .ok key => return key
  | .error _ => throw (.hostFunction service.failureName "variable name is not UTF-8")

def service (run : Runner g H) (sv : Service) (caller : Caller) (args : List Value) :
    Task g H (List Value) := do
  match sv, args with
  | .setError, [.i32 ptr, .i32 len] =>
    if (← get).store.call.isNone then throw (outsideCall sv.name)
    let octets ← readFor sv caller ptr len
    let message := Text.Utf8.decodeLossy octets
    modify fun s => s.log (.guestError s.store.currentFunction message)
    modify fun s => s.note (.reported octets)
    modify fun s => s.updateStore fun t => { t with guestError := some message }
    return []
  | .getVariable, [.i32 ptr, .i32 len] =>
    if (← get).store.call.isNone then throw (outsideCall sv.name)
    let key ← readKey sv caller ptr len
    let store := (← get).store
    modify fun s => s.note (.lookedUp key (store.vars.get? key))
    match store.vars.get? key with
    | none => return [.i64 0]
    | some value =>
      match store.bridge with
      | none => throw (.hostFunction sv.name "guest does not export an allocator")
      | some b => return [.i64 (← Buffer.placeForCall run b value).pack]
  | .setVariable, [.i32 keyPtr, .i32 keyLen, .i32 ptr, .i32 len] =>
    let key ← readKey sv caller keyPtr keyLen
    let value ← readFor sv caller ptr len
    let result := (← get).store.vars.set key value
    modify fun s => s.note (.assigned key value result.isOk)
    let vars ← MonadExcept.ofExcept result
    modify fun s => s.updateStore fun t => { t with vars }
    modify fun s => s.log (.variableSet key value.length vars.bytes)
    return []
  | .log level, [.i32 ptr, .i32 len] =>
    let message := Text.Utf8.decodeLossy (← readFor sv caller ptr len)
    modify fun s => s.log (.guestMessage level s.store.currentFunction message)
    return []
  | _, _ => throw (.hostFunction sv.name "called with other arguments")

def number : Value → Nat
  | .i32 n => n.toNat
  | .i64 n => n.toNat
  | _ => 0

def system (c : SystemCall) (caller : Caller) (args : List Value) : Action g H Ending := do
  let s ← get
  match memory? caller s with
  | none => return .error (.trapped (caller.trap "missing required memory export"))
  | some memory =>
    let view : SystemCall.View := ⟨s.memorySize memory, g.read s.guest memory, []⟩
    let (answer, view) := c.run s.store.system (s.store.clock * 1000000) (args.map number) view
    modify fun s => { s with
      guest := view.written.foldr (fun (ptr, bytes) t => g.write t memory ptr bytes) s.guest }
    match answer with
    | .ok errno => return .ok (if c.signature.results.isEmpty then [] else [.i32 errno])
    | .error cause => return .error (.trapped cause)

def fits (types : List ValueType) (values : List Value) : Bool :=
  values.map Value.kind = types

/-- Raises the failure of a step that guest code asked for, and looks at the types of results. -/
def raising (signature : Signature) (caller : Caller) (t : Task g H (List Value)) :
    Action g H Ending := do
  match ← t.run with
  | .ok results =>
    if fits signature.results results then return .ok results
    else
      return .error (.trapped
        (caller.trap "function attempted to return an incompatible value"))
  | .error e => return .error (.raised e)

def provider (run : Runner g H) (p : Provider H) (caller : Caller) (args : List Value) :
    Action g H Ending :=
  match p with
  | .function f => raising f.signature caller (function run f args)
  | .service s => raising s.signature caller (service run s caller args)
  | .unresolved ns name _ => return .error (.raised (.unknownImport ns name))
  | .system c => system c caller args
  | .noSystem .. => return .ok [.i32 Errno.noSuchCall]

end ImportCall

end PluginHost
