import PluginHost.Log.Settings
import PluginHost.Signature
/-!
Why an operation of the host fails. Each failure states its cause; `Failure.message` is the one
place that puts causes into words.
-/
namespace PluginHost

/-! Names that host and guest agree on. -/
namespace Name

def defaultNamespace : String := "env"

def serviceNamespace : String := "plinth"

def systemNamespace : String := "wasi_snapshot_preview1"

def memory : String := "memory"

/-- The guest's allocator: length in, address out, 0 when there is no room. -/
def alloc : String := "plugin_alloc"

def dealloc : String := "plugin_dealloc"

def startPhase : String := "<start>"

def qualified (ns name : String) : String := ns ++ "::" ++ name

end Name

inductive FileFault where
  | missing
  | notDirectory
  | isDirectory
  | nameTooLong
  | nulInPath
  deriving DecidableEq, Inhabited

def FileFault.message : FileFault → String
  | .missing => "No such file or directory (os error 2)"
  | .notDirectory => "Not a directory (os error 20)"
  | .isDirectory => "Is a directory (os error 21)"
  | .nameTooLong => "File name too long (os error 36)"
  | .nulInPath => "file name contained an unexpected NUL byte"

inductive TrapCause where
  | unreachable
  | divideByZero
  | integerOverflow
  | invalidConversion
  | memoryOutOfBounds
  | uninitializedElement
  | indirectCallMismatch
  | tableOutOfBounds
  | stackExhausted
  | exited (status : UInt32)
  | engine (detail : String)
  | described (text : String)
  deriving DecidableEq, Inhabited

def TrapCause.trapWords? : TrapCause → Option String
  | .unreachable => some "wasm `unreachable` instruction executed"
  | .divideByZero => some "integer divide by zero"
  | .integerOverflow => some "integer overflow"
  | .invalidConversion => some "invalid conversion to integer"
  | .memoryOutOfBounds => some "out of bounds memory access"
  | .uninitializedElement => some "uninitialized element"
  | .indirectCallMismatch => some "indirect call type mismatch"
  | .tableOutOfBounds => some "undefined element: out of bounds table access"
  | .stackExhausted => some "call stack exhausted"
  | _ => none

def TrapCause.context : String := "error while executing at wasm backtrace: "

def TrapCause.message (c : TrapCause) : String :=
  match c with
  | .exited status => context ++ "Exited with i32 exit status " ++ toString status.toNat
  | .engine detail => context ++ detail
  | .described text => text
  | c => context ++ "wasm trap: " ++ c.trapWords?.getD ""

inductive LogFailure where
  | alreadyInitialized
  | openFile (path : String) (cause : FileFault)
  | invalidLevel (text : String)
  deriving DecidableEq, Inhabited

def LogFailure.message : LogFailure → String
  | .alreadyInitialized => "Logging is already initialized"
  | .openFile path cause => "Failed to open log file " ++ path ++ ": " ++ cause.message
  | .invalidLevel text => "Invalid log level: " ++ text

inductive UnsupportedFault where
  | feature (detail : String)
  | systemCall (name : String) (signature : Signature)
  | referenceType (signature : Signature)
  deriving DecidableEq, Inhabited

def UnsupportedFault.message : UnsupportedFault → String
  | .feature detail => detail
  | .systemCall name s =>
    "WASI function " ++ Name.qualified Name.systemNamespace name ++ " " ++ s.text ++
      " is not available"
  | .referenceType s => "host signature " ++ s.text ++ " uses an unsupported reference type"

inductive OpeningFault where
  | nonFunctionImports (names : List String)
  | serviceSignature (name : String) (expected imported : Signature)
  | functionSignature (name : String) (declared imported : Signature)
  | unresolved (ns name : String)
  | definedTwice (attempt ns name : String)
  | memoryKind
  | allocatorType (name : String)
  | described (text : String)
  deriving DecidableEq, Inhabited

def OpeningFault.message : OpeningFault → String
  | .nonFunctionImports names =>
    "non-function imports cannot be provided: " ++ ", ".intercalate names
  | .serviceSignature name expected imported =>
    "built-in " ++ Name.qualified Name.serviceNamespace name ++ " has signature " ++
      expected.text ++ ", module imports it as " ++ imported.text
  | .functionSignature name declared imported =>
    "host function " ++ name ++ " has signature " ++ declared.text ++ ", module imports it as " ++
      imported.text
  | .unresolved ns name => "Unknown import: " ++ Name.qualified ns name
  | .definedTwice attempt ns name =>
    attempt ++ ": import of `" ++ Name.qualified ns name ++ "` defined twice"
  | .memoryKind => "export `" ++ Name.memory ++ "` is not a memory"
  | .allocatorType name => name ++ ": type mismatch with parameters"
  | .described text => text

inductive ArgumentFault where
  | settings (problem : String)
  | reservedNamespace
  | notBytes (name : String) (signature : Signature)
  | noAllocator (name : String)
  | argumentTypes (name : String) (signature : Signature) (given : List ValueType)
  | unreadable (path : String) (cause : FileFault)
  | described (text : String)
  deriving DecidableEq, Inhabited

def ArgumentFault.message : ArgumentFault → String
  | .settings problem => "Invalid plugin config: " ++ problem
  | .reservedNamespace =>
    "namespace `" ++ Name.serviceNamespace ++ "` is reserved for built-in host functions"
  | .notBytes name s =>
    "export `" ++ name ++ "` has signature " ++ s.text ++ ", expected " ++ Signature.bytes.text
  | .noAllocator name =>
    "export `" ++ name ++ "` cannot take bytes: module does not export `" ++ Name.memory ++
      "`, `" ++ Name.alloc ++ "` and `" ++ Name.dealloc ++ "`"
  | .argumentTypes name s given =>
    "export `" ++ name ++ "` has signature " ++ s.text ++ ", called with (" ++
      Signature.listed given ++ ")"
  | .unreadable path cause => "Failed to read " ++ path ++ ": " ++ cause.message
  | .described text => text

inductive Failure where
  | invalidBinary (reason : String)
  | unsupported (fault : UnsupportedFault)
  | duplicateRegistration (ns name : String)
  | unknownImport (ns name : String)
  | unknownExport (name : String)
  /-- Guest memory has no room; the size of the allocation, or of the memory that was refused. -/
  | outOfMemory (requested : Nat)
  | outOfBounds (ptr len memorySize : Nat)
  | opening (fault : OpeningFault)
  | startFailed (cause : Failure)
  | argument (fault : ArgumentFault)
  | hostFunction (function message : String)
  | reentrancy (name : String)
  | closed
  /-- The guest itself declared the call failed. -/
  | guest (function message : String)
  | trap (function : String) (cause : TrapCause)
  | fuelExhausted
  | timeout (function : String) (millis : Nat)
  | logging (fault : LogFailure)
  deriving DecidableEq, Inhabited

inductive FailureKind where
  | invalidBinary
  | unsupportedFeature
  | duplicateRegistration
  | unknownImport
  | unknownExport
  | outOfMemory
  | outOfBounds
  | instantiation
  | argument
  | hostFunction
  | reentrancy
  | closed
  | guest
  | trap
  | fuelExhausted
  | timeout
  | logging
  deriving DecidableEq, Inhabited

def FailureKind.name : FailureKind → String
  | .invalidBinary => "InvalidBinary"
  | .unsupportedFeature => "UnsupportedFeature"
  | .duplicateRegistration => "DuplicateRegistration"
  | .unknownImport => "UnknownImport"
  | .unknownExport => "UnknownExport"
  | .outOfMemory => "OutOfMemory"
  | .outOfBounds => "OutOfBounds"
  | .instantiation => "InstantiationError"
  | .argument => "ArgumentError"
  | .hostFunction => "HostFunctionError"
  | .reentrancy => "ReentrancyError"
  | .closed => "PluginClosedError"
  | .guest => "GuestError"
  | .trap => "Trap"
  | .fuelExhausted => "FuelExhausted"
  | .timeout => "Timeout"
  | .logging => "Logging"

namespace Failure

def kind : Failure → FailureKind
  | .invalidBinary _ => .invalidBinary
  | .unsupported _ => .unsupportedFeature
  | .duplicateRegistration .. => .duplicateRegistration
  | .unknownImport .. => .unknownImport
  | .unknownExport _ => .unknownExport
  | .outOfMemory _ => .outOfMemory
  | .outOfBounds .. => .outOfBounds
  | .opening _ => .instantiation
  | .startFailed _ => .instantiation
  | .argument _ => .argument
  | .hostFunction .. => .hostFunction
  | .reentrancy _ => .reentrancy
  | .closed => .closed
  | .guest .. => .guest
  | .trap .. => .trap
  | .fuelExhausted => .fuelExhausted
  | .timeout .. => .timeout
  | .logging _ => .logging

def isFatal (e : Failure) : Bool :=
  match e.kind with
  | .closed => true
  | .timeout => true
  | _ => false

def message : Failure → String
  | .invalidBinary reason => "Invalid wasm binary: " ++ reason
  | .unsupported fault => "Unsupported feature: " ++ fault.message
  | .duplicateRegistration ns name =>
    "Host function already registered: " ++ Name.qualified ns name
  | .unknownImport ns name => "Unknown import: " ++ Name.qualified ns name
  | .unknownExport name => "Unknown export: " ++ name
  | .outOfMemory requested =>
    "Out of guest memory: " ++ toString requested ++ " bytes requested"
  | .outOfBounds ptr len size =>
    "Guest memory access out of bounds: ptr=" ++ toString ptr ++ ", len=" ++ toString len ++
      ", memory_size=" ++ toString size
  | .opening fault => "Instantiation failed: " ++ fault.message
  | .startFailed cause => "Instantiation failed: " ++ cause.message
  | .argument fault => "Argument error: " ++ fault.message
  | .hostFunction function message =>
    "Host function " ++ function ++ " failed: " ++ message
  | .reentrancy name => "Re-entrant call into " ++ name ++ " rejected"
  | .closed => "Plugin is closed"
  | .guest function message => "Plugin " ++ function ++ " reported an error: " ++ message
  | .trap function cause => "Guest trapped in " ++ function ++ ": " ++ cause.message
  | .fuelExhausted => "Fuel exhausted (CPU limit exceeded)"
  | .timeout function millis =>
    "Call to " ++ function ++ " exceeded its " ++ toString millis ++ "ms deadline"
  | .logging fault => fault.message

end Failure

end PluginHost
