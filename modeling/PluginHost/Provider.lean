import PluginHost.HostFunction.Registry
import PluginHost.Service
import PluginHost.System
import PluginHost.Wasm.Type
/-!
What stands behind each imported function of an instance. The choice follows one fixed order: system
calls where they are enabled, the services of the host, registered functions, and last, where it is
allowed, a stub that fails when it is called.
-/
namespace PluginHost

inductive Provider (H : Type) where
  | function (f : HostFunction H)
  | service (s : Service)
  | unresolved (ns name : String) (signature : Signature)
  | system (c : SystemCall)
  | noSystem (name : String) (signature : Signature)

namespace Provider

def signature : Provider H → Signature
  | .function f => f.signature
  | .service s => s.signature
  | .unresolved _ _ s => s
  | .system c => c.signature
  | .noSystem _ s => s

def attempt (p : Provider H) (ns name : String) : String :=
  match p with
  | .system _ => "Failed to add WASI to linker"
  | .noSystem .. => "Failed to link WASI stub " ++ name
  | .unresolved .. => "Failed to link stub for " ++ Name.qualified ns name
  | _ => "Failed to link " ++ Name.qualified ns name

end Provider

abbrev Linker (H : Type) := List ((String × String) × Provider H)

structure Binder (H : Type) where
  registry : Registry H
  enableWasi : Bool
  allowUnresolved : Bool

abbrev Choice (α : Type) := ExceptT Failure (StateM (List Log.Event)) α

namespace Choice

def note (e : Log.Event) : Choice Unit := modify (· ++ [e])

def requireHosted (s : Signature) : Choice Unit :=
  discard (MonadExcept.ofExcept (Wasm.FuncType.ofSignature s))

def define (linker : Linker H) (ns name : String) (p : Provider H) : Choice (Linker H) :=
  if (linker.lookup (ns, name)).isSome then
    throw (.opening (.definedTwice (p.attempt ns name) ns name))
  else return linker ++ [((ns, name), p)]

end Choice

namespace Binder

def isSystem (b : Binder H) (i : FunctionImport) : Bool :=
  b.enableWasi && i.ns == Name.systemNamespace

def addSystem : List (String × SystemCall) → Linker H → Choice (Linker H)
  | [], linker => return linker
  | (name, c) :: calls, linker => do
    addSystem calls (← Choice.define linker Name.systemNamespace name (.system c))

def stub (i : FunctionImport) : Choice (Provider H) := do
  if i.signature.results ≠ [.i32] then throw (.unsupported (.systemCall i.name i.signature))
  Choice.note (.systemCallStub i.name)
  Choice.requireHosted i.signature
  return .noSystem i.name i.signature

def linkStubs : List FunctionImport → Linker H → Choice (Linker H)
  | [], linker => return linker
  | i :: is, linker => do
    if (linker.lookup (i.ns, i.name)).isSome then linkStubs is linker
    else linkStubs is (← Choice.define linker i.ns i.name (← stub i))

def service? (i : FunctionImport) : Option Service :=
  if i.ns = Name.serviceNamespace then Service.ofName? i.name else none

def other (b : Binder H) (i : FunctionImport) : Choice (Provider H) := do
  match service? i with
  | some s =>
    if i.signature ≠ s.signature then
      throw (.opening (.serviceSignature i.name s.signature i.signature))
    return .service s
  | none =>
    match b.registry.find? i.ns i.name with
    | some f =>
      if f.signature ≠ i.signature then
        throw (.opening (.functionSignature f.qualifiedName f.signature i.signature))
      Choice.requireHosted f.signature
      return .function f
    | none =>
      if ¬ b.allowUnresolved then throw (.opening (.unresolved i.ns i.name))
      Choice.note (.unresolvedStub i.ns i.name)
      Choice.requireHosted i.signature
      return .unresolved i.ns i.name i.signature

def linkOthers (b : Binder H) :
    List FunctionImport → (linked : List (String × String)) → Linker H → Choice (Linker H)
  | [], _, linker => return linker
  | i :: is, linked, linker => do
    if (i.ns, i.name) ∈ linked then linkOthers b is linked linker
    else
      linkOthers b is ((i.ns, i.name) :: linked)
        (← Choice.define linker i.ns i.name (← b.other i))

/-- Links all imported functions, those of the system interface first. -/
def linkAll (b : Binder H) (imports : List FunctionImport) : Choice (Linker H) := do
  let linker ←
    if b.enableWasi then do
      linkStubs (imports.filter b.isSystem) (← addSystem SystemCall.all [])
    else pure []
  linkOthers b (imports.filter fun i => ¬ b.isSystem i) [] linker

def providers? (linker : Linker H) (imports : List FunctionImport) : Option (List (Provider H)) :=
  imports.mapM fun i =>
    match linker.lookup (i.ns, i.name) with
    | some p => if p.signature = i.signature then some p else none
    | none => none

end Binder

end PluginHost
