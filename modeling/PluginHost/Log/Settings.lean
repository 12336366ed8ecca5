/-!
Where diagnostic messages go, from which severity on, and in which form.
-/
namespace PluginHost.Log

inductive Level where
  | trace
  | debug
  | info
  | warn
  | error
  deriving DecidableEq, Inhabited

namespace Level

def rank : Level → Nat
  | .trace => 0
  | .debug => 1
  | .info => 2
  | .warn => 3
  | .error => 4

instance : LE Level := ⟨fun a b => a.rank ≤ b.rank⟩

instance (a b : Level) : Decidable (a ≤ b) := inferInstanceAs (Decidable (a.rank ≤ b.rank))

def name : Level → String
  | .trace => "trace"
  | .debug => "debug"
  | .info => "info"
  | .warn => "warn"
  | .error => "error"

def upperName : Level → String
  | .trace => "TRACE"
  | .debug => "DEBUG"
  | .info => "INFO"
  | .warn => "WARN"
  | .error => "ERROR"

def all : List Level := [.trace, .debug, .info, .warn, .error]

def lowered (s : String) : String := String.ofList (s.toList.map Char.toLower)

/-- Reads a name in any mixture of upper and lower case; `warning` is a second name of `warn`. -/
def ofName? (s : String) : Option Level :=
  match lowered s with
  | "trace" => some .trace
  | "debug" => some .debug
  | "info" => some .info
  | "warn" => some .warn
  | "warning" => some .warn
  | "error" => some .error
  | _ => none

end Level

inductive Target where
  | stdout
  | stderr
  /-- Appended to the file, which is created if it is missing. -/
  | file (path : String)
  deriving DecidableEq, Inhabited

namespace Target

/-- `stdout` and `stderr` name the streams; any other text is a path. -/
def ofText (s : String) : Target :=
  if s = "stdout" then .stdout else if s = "stderr" then .stderr else .file s

def text : Target → String
  | .stdout => "stdout"
  | .stderr => "stderr"
  | .file path => path

end Target

inductive Format where
  | compact
  | json
  deriving DecidableEq, Inhabited

structure Settings where
  target : Target
  /-- Least severity; without one the environment decides, and without that `info`. -/
  level : Option Level
  format : Format
  timestamps : Bool
  deriving DecidableEq, Inhabited

def Settings.to (target : Target) : Settings := ⟨target, none, .compact, true⟩

end PluginHost.Log
