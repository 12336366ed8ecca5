import PluginHost.Plugin
/-!
The host: the registered functions, the log, and the clock that plugins with a time limit share. The
clock runs as long as one of them is held.
-/
namespace PluginHost

structure Host (H : Type) where
  registry : Registry H
  world : World H
  /-- Plugins that hold the clock. -/
  clockHolders : Nat

abbrev HostAction (H α : Type) := StateM (Host H) α

namespace Host

variable {g : Guest} {H : Type}

def log (e : Log.Event) : HostAction H Unit :=
  modify fun h => { h with world := h.world.log e }

def start (registry : Registry H) (world : World H) : Host H :=
  ⟨registry, world.log (.runtimeCreated registry.size), 0⟩

def onWorld (t : StateM (World H) α) : HostAction H α := fun h =>
  let (a, world) := t h.world
  (a, { h with world })

def load (g : Guest) (bytes : Bytes) : HostAction H (Except Failure g.Module) := do
  match g.load bytes with
  | .error e => return .error e
  | .ok m =>
    let info := g.info m
    log (.moduleLoaded info.imports.length info.exports.length)
    return .ok m

def holdClock : HostAction H Unit := do
  if (← get).clockHolders = 0 then log .tickerStarted
  modify fun h => { h with clockHolders := h.clockHolders + 1 }

def letClockGo : HostAction H Unit := do
  if (← get).clockHolders = 1 then log .tickerStopped
  modify fun h => { h with clockHolders := h.clockHolders - 1 }

def ensureLog (s : Settings) : HostAction H (Except LogFailure Unit) :=
  match s.log? with
  | none => return .ok ()
  | some l => onWorld fun w =>
    let (r, journal) := w.journal.ensure l
    (r, { w with journal })

def instantiate (m : g.Module) (s : Settings) : HostAction H (Except Failure (Plugin g H)) := do
  match ← ensureLog s with
  | .error e => return .error (.logging e)
  | .ok () =>
    let timed := s.timeoutMillis.isSome
    if timed then holdClock
    let registry := (← get).registry
    match ← onWorld (Opening.instantiate registry m s).run with
    | .ok i => return .ok ⟨m, s, some i⟩
    | .error e =>
      if timed then letClockGo
      return .error e

def open_ (g : Guest) (bytes : Bytes) (s : Settings) :
    HostAction H (Except Failure (Plugin g H)) := do
  match ← load g bytes with
  | .ok m => instantiate m s
  | .error e => return .error e

def openFile (g : Guest) (path : String) (s : Settings) :
    HostAction H (Except Failure (Plugin g H)) := do
  match (← get).world.journal.files.read path with
  | .error cause => return .error (.argument (.unreadable path cause))
  | .ok bytes =>
    log (.pluginFileRead path bytes.length)
    open_ g bytes s

def onPlugin (p : Plugin g H) (t : PluginAction g H α) : HostAction H (α × Plugin g H) := fun h =>
  let (a, p, world) := t (p, h.world)
  ((a, p), { h with world })

def drop (p : Plugin g H) : HostAction H Unit := do
  let (_, p) ← onPlugin p Plugin.close
  if p.settings.timeoutMillis.isSome then letClockGo

def debug (h : Host H) : String :=
  "Runtime \x7b host_functions: " ++ toString h.registry.size ++ ", .. \x7d"

end Host

end PluginHost
