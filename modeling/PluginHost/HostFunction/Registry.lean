import PluginHost.HostFunction
/-!
The functions that guests may import, each under its namespace and name. The first function under a
pair stays; the namespace of the host's own services is reserved.
-/
namespace PluginHost

structure Registry (H : Type) where
  functions : List (HostFunction H)

namespace Registry

def empty : Registry H := ⟨[]⟩

instance : Inhabited (Registry H) := ⟨empty⟩

def find? (r : Registry H) (ns name : String) : Option (HostFunction H) :=
  r.functions.find? fun f => f.ns = ns && f.name = name

def contains (r : Registry H) (ns name : String) : Bool := (r.find? ns name).isSome

def register (r : Registry H) (f : HostFunction H) : Except Failure (Registry H) :=
  if f.ns = Name.serviceNamespace then .error (.argument .reservedNamespace)
  else if r.contains f.ns f.name then .error (.duplicateRegistration f.ns f.name)
  else .ok ⟨r.functions ++ [f]⟩

def registered (f : HostFunction H) : Log.Event :=
  .functionRegistered f.qualifiedName f.signature

def resolve (r : Registry H) (ns name : String) : Except Failure (HostFunction H) :=
  match r.find? ns name with
  | some f => .ok f
  | none => .error (.unknownImport ns name)

def size (r : Registry H) : Nat := r.functions.length

def isEmpty (r : Registry H) : Bool := r.functions.isEmpty

def toList (r : Registry H) : List (HostFunction H) := r.functions

end Registry

end PluginHost
