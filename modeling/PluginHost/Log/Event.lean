import PluginHost.Block
import PluginHost.Failure
/-!
The diagnostic events of the host. Each event has a severity, a target, a message and fields; these
are functions of the event, so whoever raises one states only what happened.
-/
namespace PluginHost

inductive CallPhase where
  | idle
  | argsMarshaled
  | invoking
  | resultMarshaled
  | failed
  deriving DecidableEq, Inhabited

def CallPhase.name : CallPhase → String
  | .idle => "idle"
  | .argsMarshaled => "args-marshaled"
  | .invoking => "invoking"
  | .resultMarshaled => "result-marshaled"
  | .failed => "failed"

inductive CloseReason where
  | byHost
  | fatalError
  | cleanupFailed
  deriving DecidableEq, Inhabited

def CloseReason.text : CloseReason → String
  | .byHost => "closed by host"
  | .fatalError => "fatal error"
  | .cleanupFailed => "guest buffer cleanup failed"

namespace Log

inductive Event where
  | functionRegistered (name : String) (signature : Signature)
  | runtimeCreated (functions : Nat)
  | pluginFileRead (path : String) (size : Nat)
  | tickerStarted
  | tickerStopped
  | moduleLoaded (imports exports : Nat)
  | growthRefused (current desired limit : Nat)
  | settingsIgnored (active requested : Target)
  | pluginOpened (exports imports : Nat) (wasi : Bool) (maxMemoryPages : Nat)
  | pluginClosed (reason : CloseReason)
  | fatalError (function : String) (error : Failure)
  | unresolvedStub (ns name : String)
  | noAllocator
  | phaseChanged (function : String) (before after : CallPhase)
  | callStarted (function : String)
  | releaseFailed (function : String) (block : Block) (error : Failure)
  | cleanupFailed (function : String) (error : Failure)
  | cleanupFailedAfterError (function : String) (error cleanup : Failure)
  | blockKept (error : Failure)
  | functionInvoked (name caller : String)
  | functionPanicked (function message : String)
  | reentryRejected (function target : String) (phase : CallPhase)
  | guestError (function message : String)
  | variableSet (key : String) (length total : Nat)
  | guestMessage (level : Level) (function message : String)
  | systemContextBuilt (permissions : String)
  | systemCallStub (name : String)
  deriving DecidableEq, Inhabited

inductive FieldValue where
  | shown (s : String)
  | quoted (s : String)
  | number (n : Nat)
  | flag (b : Bool)
  deriving DecidableEq, Inhabited

def tickMillis : Nat := 5

namespace Event

def level : Event → Level
  | .functionRegistered .. => .debug
  | .runtimeCreated _ => .debug
  | .pluginFileRead .. => .debug
  | .tickerStarted => .debug
  | .tickerStopped => .debug
  | .moduleLoaded .. => .debug
  | .growthRefused .. => .debug
  | .settingsIgnored .. => .warn
  | .pluginOpened .. => .info
  | .pluginClosed _ => .info
  | .fatalError .. => .warn
  | .unresolvedStub .. => .warn
  | .noAllocator => .debug
  | .phaseChanged .. => .trace
  | .callStarted _ => .trace
  | .releaseFailed .. => .warn
  | .cleanupFailed .. => .error
  | .cleanupFailedAfterError .. => .error
  | .blockKept _ => .warn
  | .functionInvoked .. => .trace
  | .functionPanicked .. => .error
  | .reentryRejected .. => .warn
  | .guestError .. => .debug
  | .variableSet .. => .trace
  | .guestMessage level .. => level
  | .systemContextBuilt _ => .debug
  | .systemCallStub _ => .warn

def target : Event → String
  | .functionRegistered .. => "plinth_host::registry"
  | .runtimeCreated _ => "plinth_host::runtime"
  | .pluginFileRead .. => "plinth_host::runtime"
  | .tickerStarted => "plinth_host::runtime"
  | .tickerStopped => "plinth_host::runtime"
  | .moduleLoaded .. => "plinth_host::module"
  | .growthRefused .. => "plinth_host::limits"
  | .settingsIgnored .. => "plinth_host::logging"
  | .pluginOpened .. => "plinth_host::plugin"
  | .pluginClosed _ => "plinth_host::plugin"
  | .fatalError .. => "plinth_host::plugin"
  | .unresolvedStub .. => "plinth_host::plugin"
  | .noAllocator => "plinth_host::plugin"
  | .phaseChanged .. => "plinth_host::dispatch"
  | .callStarted _ => "plinth_host::dispatch"
  | .releaseFailed .. => "plinth_host::dispatch"
  | .cleanupFailed .. => "plinth_host::dispatch"
  | .cleanupFailedAfterError .. => "plinth_host::dispatch"
  | .blockKept _ => "plinth_host::memory"
  | .functionInvoked .. => "plinth_host::dispatch"
  | .functionPanicked .. => "plinth_host::dispatch"
  | .reentryRejected .. => "plinth_host::current"
  | .guestError .. => "plinth_host::builtins"
  | .variableSet .. => "plinth_host::builtins"
  | .guestMessage .. => "plinth::guest"
  | .systemContextBuilt _ => "plinth_host::wasi::context"
  | .systemCallStub _ => "plinth_host::wasi::shim"

def message : Event → String
  | .functionRegistered .. => "Host function registered"
  | .runtimeCreated _ => "Runtime created"
  | .pluginFileRead .. => "Read plugin file"
  | .tickerStarted => "Epoch ticker started"
  | .tickerStopped => "Epoch ticker stopped"
  | .moduleLoaded .. => "Module loaded"
  | .growthRefused .. => "Guest memory growth refused"
  | .settingsIgnored .. => "Logging already initialized; ignoring plugin log settings"
  | .pluginOpened .. => "Plugin opened"
  | .pluginClosed _ => "Plugin closed"
  | .fatalError .. => "Fatal plugin error"
  | .unresolvedStub .. => "Unresolved import linked to a trapping stub"
  | .noAllocator => "Module does not export an allocator; bytes calls unavailable"
  | .phaseChanged .. => "Call state"
  | .callStarted _ => "Call started"
  | .releaseFailed .. => "Failed to release call buffer"
  | .cleanupFailed .. => "Cleanup failed; plugin will be closed"
  | .cleanupFailedAfterError .. =>
    "Cleanup failed after a failed call; plugin will be closed"
  | .blockKept _ => "Failed to release block after write error"
  | .functionInvoked .. => "Host function invoked"
  | .functionPanicked .. => "Host function panicked"
  | .reentryRejected .. => "Re-entrant call rejected"
  | .guestError .. => "Guest reported an error"
  | .variableSet .. => "Guest variable set"
  | .guestMessage _ _ message => message
  | .systemContextBuilt _ => "WASI context built"
  | .systemCallStub _ => "WASI function not implemented; linking ENOSYS stub"

def fields : Event → List (String × FieldValue)
  | .functionRegistered name signature =>
    [("function", .shown name), ("signature", .shown signature.text)]
  | .runtimeCreated functions => [("host_functions", .number functions)]
  | .pluginFileRead path size => [("path", .shown path), ("size", .number size)]
  | .tickerStarted => [("tick_ms", .number tickMillis)]
  | .tickerStopped => []
  | .moduleLoaded imports exports => [("imports", .number imports), ("exports", .number exports)]
  | .growthRefused current desired limit =>
    [("current", .number current), ("desired", .number desired), ("limit", .number limit)]
  | .settingsIgnored active requested =>
    [("active", .shown active.text), ("requested", .shown requested.text)]
  | .pluginOpened exports imports wasi pages =>
    [("exports", .number exports), ("imports", .number imports), ("wasi", .flag wasi),
      ("max_memory_pages", .number pages)]
  | .pluginClosed reason => [("reason", .quoted reason.text)]
  | .fatalError function error =>
    [("function", .quoted function), ("error", .shown error.message)]
  | .unresolvedStub ns name => [("namespace", .shown ns), ("name", .shown name)]
  | .noAllocator => []
  | .phaseChanged function before after =>
    [("function", .quoted function), ("from", .shown before.name), ("to", .shown after.name)]
  | .callStarted function => [("function", .quoted function)]
  | .releaseFailed function block error =>
    [("function", .quoted function), ("ptr", .number block.ptr.toNat),
      ("len", .number block.len.toNat), ("error", .shown error.message)]
  | .cleanupFailed function error =>
    [("function", .quoted function), ("error", .shown error.message)]
  | .cleanupFailedAfterError function error cleanup =>
    [("function", .quoted function), ("error", .shown error.message),
      ("cleanup_error", .shown cleanup.message)]
  | .blockKept error => [("error", .shown error.message)]
  | .functionInvoked name caller => [("function", .shown name), ("caller", .quoted caller)]
  | .functionPanicked function message =>
    [("function", .quoted function), ("panic", .shown message)]
  | .reentryRejected function target phase =>
    [("function", .shown function), ("export", .quoted target), ("state", .shown phase.name)]
  | .guestError function message =>
    [("function", .quoted function), ("message", .shown message)]
  | .variableSet key length total =>
    [("key", .shown key), ("len", .number length), ("total", .number total)]
  | .guestMessage _ function _ => [("function", .quoted function)]
  | .systemContextBuilt permissions => [("permissions", .shown permissions)]
  | .systemCallStub name => [("function", .shown name)]

end Event

end Log

end PluginHost
