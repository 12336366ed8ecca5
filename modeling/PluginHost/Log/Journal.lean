import PluginHost.Files
import PluginHost.Log.Filter
import PluginHost.Log.Line
import PluginHost.Text.Utf8
/-!
The one log of the process. It is installed at most once; later attempts fail and leave the first
settings in place. Until it is installed, events are lost. A log in a file adds each line at the end
of what the file holds at that moment.
-/
namespace PluginHost.Log

structure Installed where
  settings : Settings
  filter : Filter
  file : Option Path
  deriving Inhabited

structure Journal where
  installed : Option Installed
  /-- Somebody else in the process has taken the place of the log. -/
  occupied : Bool
  events : Array Event
  environment : Option String
  clock : String
  files : Files
  deriving Inhabited

namespace Journal

def start (environment : Option String) (clock : String) (files : Files) : Journal :=
  ⟨none, false, #[], environment, clock, files⟩

def active? (j : Journal) : Option Settings := j.installed.map Installed.settings

def emit (j : Journal) (e : Event) : Journal :=
  match j.installed with
  | none => j
  | some i =>
    if !i.filter.passes e then j
    else
      let files := match i.file with
        | none => j.files
        | some p => j.files.append p (Text.Utf8.encode (i.settings.line j.clock e ++ "\n"))
      { j with events := j.events.push e, files }

def emitAll (j : Journal) (es : List Event) : Journal := es.foldl emit j

def openTarget (files : Files) : Target → Except LogFailure (Option Path × Files)
  | .file path =>
    match files.openForWriting path with
    | .ok (p, files) => .ok (some p, files)
    | .error cause => .error (.openFile path cause)
  | _ => .ok (none, files)

/-- Installs the log. The target is opened before the place of the log is taken. -/
def init (j : Journal) (s : Settings) : Except LogFailure Unit × Journal :=
  match j.installed with
  | some _ => (.error .alreadyInitialized, j)
  | none =>
    match openTarget j.files s.target with
    | .error e => (.error e, j)
    | .ok (file, files) =>
      let j := { j with files }
      if j.occupied then (.error .alreadyInitialized, j)
      else (.ok (), { j with installed := some ⟨s, s.filter j.environment, file⟩ })

/-- Installs the log for a plugin that asks for it, unless there is one; settings that differ from
the ones in force are ignored with a warning. -/
def ensure (j : Journal) (s : Settings) : Except LogFailure Unit × Journal :=
  match j.active? with
  | some active =>
    (.ok (), if active = s then j else j.emit (.settingsIgnored active.target s.target))
  | none =>
    match j.init s with
    | (.error .alreadyInitialized, j) => (.ok (), j)
    | other => other

end Journal

end PluginHost.Log
