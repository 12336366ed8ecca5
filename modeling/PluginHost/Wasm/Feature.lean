/-!
Proposals beyond the instruction set that the engine runs. A module is checked twice: against all
proposals, to tell malformed modules, and against none, to tell modules that the engine can run.
-/
namespace PluginHost.Wasm

inductive Feature where
  | threads
  | memory64
  | exceptions
  | oldExceptions
  | gc
  | typedReferences
  | customPageSizes
  | wideArithmetic
  | stackSwitching
  | sharedEverything
  | memoryControl
  deriving DecidableEq, Inhabited

def Feature.name : Feature → String
  | .threads => "threads"
  | .memory64 => "memory64"
  | .exceptions => "exceptions"
  | .oldExceptions => "legacy exceptions"
  | .gc => "gc"
  | .typedReferences => "function references"
  | .customPageSizes => "custom page sizes"
  | .wideArithmetic => "wide arithmetic"
  | .stackSwitching => "stack switching"
  | .sharedEverything => "shared everything threads"
  | .memoryControl => "memory control"

abbrev Features := Feature → Bool

namespace Features

def all : Features := fun _ => true

def engine : Features := fun _ => false

end Features

end PluginHost.Wasm
