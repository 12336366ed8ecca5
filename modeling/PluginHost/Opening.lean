import PluginHost.Call
/-!
How a module becomes an instance: its imports are bound, its start computation runs under the same
limits as a call, and its memory and allocator are looked up.
-/
namespace PluginHost

variable {g : Guest} {H : Type}

abbrev HostTask (H α : Type) := ExceptT Failure (StateM (World H)) α

namespace World

def log (w : World H) (e : Log.Event) : World H := { w with journal := w.journal.emit e }

def logAll (w : World H) (es : List Log.Event) : World H :=
  { w with journal := w.journal.emitAll es }

end World

namespace Opening

def allocType : Signature := ⟨[.i32], [.i32]⟩

def deallocType : Signature := ⟨[.i32, .i32], []⟩

/-- Finds memory and allocator; a module without one of them exchanges no octets, and one that
exports something else under their names is refused. -/
def bridge? (g : Guest) (m : g.Module) : Except Failure (Option Bridge) :=
  match g.export? m Name.memory with
  | none => .ok none
  | some (.memory memory _) =>
    match g.function? m Name.alloc, g.function? m Name.dealloc with
    | some (alloc, allocSignature), some (dealloc, deallocSignature) =>
      if allocSignature ≠ allocType then .error (.opening (.allocatorType Name.alloc))
      else if deallocSignature ≠ deallocType then .error (.opening (.allocatorType Name.dealloc))
      else .ok (some ⟨memory, alloc, dealloc⟩)
    | _, _ => .ok none
  | some _ => .error (.opening .memoryKind)

def provide (linker : Linker H) (imports : List FunctionImport) :
    Except Failure (List (Provider H)) :=
  match Binder.providers? linker imports with
  | some providers => .ok providers
  | none => .error (.startFailed (.trap Name.startPhase (.engine "incompatible import type")))

def bind (registry : Registry H) (settings : Settings) (info : ModuleInfo) :
    HostTask H (List (Provider H)) := do
  let binder : Binder H := ⟨registry, settings.enableWasi, settings.allowUnresolvedImports⟩
  let (linker, events) := (binder.linkAll info.imports).run []
  modify fun w => w.logAll events
  MonadExcept.ofExcept (linker >>= fun l => provide l info.imports)

def begin (m : g.Module) (providers : List (Provider H)) (store : Store) :
    HostTask H (Instance g H) := ExceptT.mk fun w =>
  let (guest, code) := g.start m
  let (r, s) := Stage.execute g.stepLimit code ⟨⟨m, providers.toArray, guest, store.armed⟩, w, []⟩
  match r with
  | .ok _ => (.ok { s.toInstance with store := s.store.disarmed }, s.world)
  | .error h => (.error (.startFailed (s.store.classify Name.startPhase h)), s.world)

def complete (m : g.Module) (settings : Settings) (providers : List (Provider H)) :
    HostTask H (Instance g H) := do
  let info := g.info m
  let i ← begin m providers (.ofSettings settings)
  let bridge ← MonadExcept.ofExcept (bridge? g m)
  if bridge.isNone then modify fun w => w.log .noAllocator
  modify fun w => w.log (.pluginOpened info.exports.length info.imports.length
    settings.enableWasi settings.maxMemoryPages)
  return { i with store := { i.store with bridge } }

def instantiate (registry : Registry H) (m : g.Module) (settings : Settings) :
    HostTask H (Instance g H) := do
  let info := g.info m
  if ¬ info.otherImports.isEmpty then throw (.opening (.nonFunctionImports info.otherImports))
  if settings.enableWasi then
    modify fun w => w.log (.systemContextBuilt settings.wasi.summary)
  complete m settings (← bind registry settings info)

end Opening

end PluginHost
