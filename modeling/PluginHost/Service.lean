import PluginHost.Log.Settings
import PluginHost.Signature
/-!
The services of the host that every guest may import: an error for the current call, variables, and
log messages.
-/
namespace PluginHost

inductive Service where
  | setError
  | getVariable
  | setVariable
  | log (level : Log.Level)
  deriving DecidableEq, Inhabited

namespace Service

def name : Service → String
  | .setError => "error_set"
  | .getVariable => "var_get"
  | .setVariable => "var_set"
  | .log level => "log_" ++ level.name

def all : List Service := [.setError, .getVariable, .setVariable] ++ Log.Level.all.map .log

def ofName? (name : String) : Option Service := all.find? fun s => s.name = name

/-- Texts and values come as address and length; a value goes out packed. -/
def signature : Service → Signature
  | .setError => ⟨[.i32, .i32], []⟩
  | .getVariable => .bytes
  | .setVariable => ⟨[.i32, .i32, .i32, .i32], []⟩
  | .log _ => ⟨[.i32, .i32], []⟩

def failureName : Service → String
  | .log _ => "log"
  | s => s.name

end Service

end PluginHost
