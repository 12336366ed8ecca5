import PluginHost.Opening
/-!
A plugin is a module that was opened with its settings. It stays open until it is closed, until a
call runs out of time, or until buffers could not be given back; a closed plugin never runs again.
-/
namespace PluginHost

structure Plugin (g : Guest) (H : Type) where
  module : g.Module
  settings : Settings
  live : Option (Instance g H)

abbrev PluginAction (g : Guest) (H α : Type) := StateM (Plugin g H × World H) α

namespace Plugin

variable {g : Guest} {H : Type}

def info (p : Plugin g H) : ModuleInfo := g.info p.module

def isClosed (p : Plugin g H) : Bool := p.live.isNone

def functionExists (p : Plugin g H) (name : String) : Bool := (p.info.export? name).isSome

def shutDown (reason : CloseReason) : PluginAction g H Unit := modify fun (p, w) =>
  if p.isClosed then (p, w) else ({ p with live := none }, w.log (.pluginClosed reason))

def close : PluginAction g H Unit := shutDown .byHost

def onInstance (t : Task g H α) : PluginAction g H (Except Failure α × Bool) := fun
  | (⟨module, settings, none⟩, w) => ((.error .closed, false), (⟨module, settings, none⟩, w))
  | (⟨module, settings, some i⟩, w) =>
    let (r, s) := t.run ⟨i, w, []⟩
    ((r, s.store.poisoned), (⟨module, settings, some s.toInstance⟩, s.world))

def calling (name : String) (t : Task g H α) : PluginAction g H (Except Failure α) := do
  if (← get).1.isClosed then return .error .closed
  let (r, poisoned) ← onInstance t
  if poisoned then shutDown .cleanupFailed
  else
    match r with
    | .ok _ => pure ()
    | .error e =>
      if e.isFatal then
        modify fun (p, w) => (p, w.log (.fatalError name e))
        shutDown .fatalError
  return r

def call (name : String) (input : Bytes) : PluginAction g H (Except Failure Bytes) :=
  calling name (Stage.call name input)

def callValues (name : String) (args : List Value) :
    PluginAction g H (Except Failure (List Value)) :=
  calling name (Stage.callValues name args)

def memoryBytes (i : Instance g H) : Nat :=
  ((g.memory? i.module).map (g.size i.guest)).getD 0

def memoryPages (p : Plugin g H) : Except Failure Nat :=
  match p.live with
  | some i => .ok (memoryBytes i / pageSize)
  | none => .error .closed

def valueOf? (p : Plugin g H) (key : String) : Option Bytes :=
  p.live.bind fun i => i.store.vars.get? key

def setVariable (p : Plugin g H) (key : String) (value : Bytes) :
    Except Failure Unit × Plugin g H :=
  match p.live with
  | none => (.error .closed, p)
  | some i =>
    match i.store.vars.set key value with
    | .ok vars => (.ok (), { p with live := some { i with store := { i.store with vars } } })
    | .error e => (.error e, p)

def clearVariables (p : Plugin g H) : Plugin g H :=
  { p with live := p.live.map fun i =>
      { i with store := { i.store with vars := i.store.vars.clear } } }

def debugModule (info : ModuleInfo) : String :=
  "WasmModule \x7b info: " ++ info.debug ++ ", .. \x7d"

def debug (p : Plugin g H) : String :=
  "Plugin \x7b module: " ++ debugModule p.info ++ ", closed: " ++ toString p.isClosed ++ ", .. \x7d"

end Plugin

end PluginHost
