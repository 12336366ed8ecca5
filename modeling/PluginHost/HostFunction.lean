import PluginHost.Guest
import PluginHost.Log.Event
import PluginHost.Text.Quoted
import PluginHost.Text.Utf8
/-!
Functions of the host that guests import. What such a function does is a `Program`: a tree of
requests to the plugin that called it, ending in a result, an error or a panic. So a host function
can reach the guest only through these requests.
-/
namespace PluginHost

inductive CallableError where
  /-- A failure of a plugin, under descriptions that were added to it. -/
  | failure (context : List String) (e : Failure)
  | other (chain : List String)
  deriving DecidableEq, Inhabited

namespace CallableError

def text : CallableError → String
  | .failure context e => ": ".intercalate (context ++ [e.message])
  | .other chain => ": ".intercalate chain

/-- What an error of the named function makes of the call: a plugin's failure stays what it is. -/
def toFailure (function : String) : CallableError → Failure
  | .failure _ e => e
  | .other chain => .hostFunction function (": ".intercalate chain)

end CallableError

inductive PanicPayload where
  | text (s : String)
  | other
  deriving DecidableEq, Inhabited

def PanicPayload.message : PanicPayload → String
  | .text s => s
  | .other => "unknown panic payload"

/-- What a host function does while it runs; `H` is what host functions remember between calls. -/
inductive Program (H α : Type) where
  | done (a : α)
  | fail (e : CallableError)
  | panic (p : PanicPayload)
  | remember (change : H → H) (next : H → Program H α)
  | exportName (next : String → Program H α)
  | memorySize (next : Nat → Program H α)
  | read (ptr len : UInt32) (next : Except Failure Bytes → Program H α)
  /-- Copies into a fresh guest block, which lives until the call ends. -/
  | write (bytes : Bytes) (next : Except Failure Block → Program H α)
  /-- Calls back into the plugin, which is refused. -/
  | callBack (target : String) (next : Failure → Program H α)

namespace Program

def bind (p : Program H α) (f : α → Program H β) : Program H β :=
  match p with
  | .done a => f a
  | .fail e => .fail e
  | .panic m => .panic m
  | .remember change next => .remember change fun h => (next h).bind f
  | .exportName next => .exportName fun s => (next s).bind f
  | .memorySize next => .memorySize fun n => (next n).bind f
  | .read ptr len next => .read ptr len fun r => (next r).bind f
  | .write bytes next => .write bytes fun r => (next r).bind f
  | .callBack target next => .callBack target fun e => (next e).bind f

instance : Monad (Program H) where
  pure := .done
  bind := bind

def attempt (p : Program H α) : Program H (Except CallableError α) :=
  match p with
  | .done a => .done (.ok a)
  | .fail e => .done (.error e)
  | .panic m => .panic m
  | .remember change next => .remember change fun h => (next h).attempt
  | .exportName next => .exportName fun s => (next s).attempt
  | .memorySize next => .memorySize fun n => (next n).attempt
  | .read ptr len next => .read ptr len fun r => (next r).attempt
  | .write bytes next => .write bytes fun r => (next r).attempt
  | .callBack target next => .callBack target fun e => (next e).attempt

def raise (e : Failure) : Program H α := .fail (.failure [] e)

def ofExcept : Except Failure α → Program H α
  | .ok a => .done a
  | .error e => raise e

end Program

/-! What a host function can ask of the plugin that called it. -/
namespace Caller

def memorySize : Program H Nat := .memorySize .done

def exportName : Program H String := .exportName .done

def read (ptr len : UInt32) : Program H Bytes := .read ptr len Program.ofExcept

def readPacked (word : UInt64) : Program H Bytes :=
  let b := Block.unpack word
  read b.ptr b.len

def readText (function : String) (ptr len : UInt32) : Program H String :=
  .read ptr len fun r =>
    match r with
    | .error e => Program.raise e
    | .ok bytes =>
      match Text.Utf8.decode bytes with
      | .ok s => .done s
      | .error f =>
        Program.raise (.hostFunction function ("guest string is not UTF-8: " ++ f.message))

def write (bytes : Bytes) : Program H Block := .write bytes Program.ofExcept

def callBack (target : String) : Program H α := .callBack target Program.raise

def debug (function : String) : Program H String :=
  .exportName fun name => .done ("CurrentPlugin \x7b function: " ++ Text.quoted function ++
    ", export: " ++ Text.quoted name ++ ", .. \x7d")

end Caller

inductive Callable (H : Type) where
  | bytes (run : Bytes → Program H Bytes)
  | raw (run : List Value → Program H (List Value))

structure HostFunction (H : Type) where
  ns : String
  name : String
  signature : Signature
  callable : Callable H

namespace HostFunction

def ofBytes (name : String) (run : Bytes → Program H Bytes) : HostFunction H :=
  ⟨Name.defaultNamespace, name, Signature.bytes, .bytes run⟩

def ofValues (name : String) (signature : Signature) (run : List Value → Program H (List Value)) :
    HostFunction H :=
  ⟨Name.defaultNamespace, name, signature, .raw run⟩

def inNamespace (f : HostFunction H) (ns : String) : HostFunction H := { f with ns }

def qualifiedName (f : HostFunction H) : String := Name.qualified f.ns f.name

def debug (f : HostFunction H) : String :=
  "HostFunction \x7b namespace: " ++ Text.quoted f.ns ++ ", name: " ++ Text.quoted f.name ++
    ", signature: " ++ f.signature.debug ++ ", .. \x7d"

end HostFunction

end PluginHost
