import PluginHost.Failure
import PluginHost.Json.Reader
/-!
The settings of one plugin, built from their defaults by setters or read from JSON, and the summary
of what the system interface grants, which shows no value that could be a secret.
-/
namespace PluginHost

def pageSize : Nat := 65536

/-- What the system interface shows the guest. No directory is ever opened for it. -/
structure SystemOptions where
  programName : String := "plugin"
  args : List String := []
  env : List (String × String) := []
  inheritStdin : Bool := false
  inheritStdout : Bool := true
  inheritStderr : Bool := true
  deriving DecidableEq, Inhabited

namespace SystemOptions

def arg (o : SystemOptions) (a : String) : SystemOptions := { o with args := o.args ++ [a] }

def withVariable (o : SystemOptions) (key value : String) : SystemOptions :=
  { o with env := o.env ++ [(key, value)] }

def silent (o : SystemOptions) : SystemOptions :=
  { o with inheritStdout := false, inheritStderr := false }

def streams (o : SystemOptions) : List String :=
  (if o.inheritStdin then ["stdin"] else []) ++ (if o.inheritStdout then ["stdout"] else []) ++
    (if o.inheritStderr then ["stderr"] else [])

def summary (o : SystemOptions) : String :=
  let parts :=
    (if o.args.isEmpty then [] else ["args: " ++ toString o.args.length]) ++
    (if o.env.isEmpty then [] else ["env: [" ++ ", ".intercalate (o.env.map Prod.fst) ++ "]"]) ++
    (if o.streams.isEmpty then [] else ["stdio: [" ++ ", ".intercalate o.streams ++ "]"])
  if parts.isEmpty then "none" else ", ".intercalate parts

open Json.Reader in
def recordForm : Json.Reader.Record SystemOptions where
  name := "WasiOptions"
  fields := [
    ⟨"programName", (fun v s => { s with programName := v }) <$> text "a string", false⟩,
    ⟨"args", (fun v s => { s with args := v }) <$> list (text "a string"), false⟩,
    ⟨"env", (fun v s => { s with env := v }) <$> list (pair (text "a string") (text "a string")),
      false⟩,
    ⟨"inheritStdin", (fun v s => { s with inheritStdin := v }) <$> bool, false⟩,
    ⟨"inheritStdout", (fun v s => { s with inheritStdout := v }) <$> bool, false⟩,
    ⟨"inheritStderr", (fun v s => { s with inheritStderr := v }) <$> bool, false⟩]
  initial := {}

def ofJson (text : String) : Except Json.Fault SystemOptions :=
  Json.Reader.whole (Json.Reader.record recordForm) text

end SystemOptions

structure Settings where
  enableWasi : Bool := false
  maxMemoryPages : Nat := 256
  logTarget : Option Log.Target := none
  logLevel : Option Log.Level := none
  logFormat : Log.Format := .compact
  /-- Ceiling of the variables' keys and values together. -/
  maxVarBytes : Nat := 1024 * 1024
  /-- Fuel of each call; without it fuel never runs out first. -/
  fuelLimit : Option Nat := none
  timeoutMillis : Option Nat := none
  allowUnresolvedImports : Bool := false
  wasi : SystemOptions := {}
  deriving DecidableEq, Inhabited

namespace Settings

def maxMemoryBytes (s : Settings) : Nat := s.maxMemoryPages * pageSize

/-- The time limit of a span in nanoseconds: whole milliseconds, at most `2 ^ 64 - 1` of them. -/
def withTimeoutNanos (s : Settings) (nanos : Nat) : Settings :=
  { s with timeoutMillis := some (min (nanos / 1000000) (UInt64.size - 1)) }

/-- The log settings that these settings ask for: none with neither target nor level, standard
error for a level alone. -/
def log? (s : Settings) : Option Log.Settings :=
  let withTarget (t : Log.Target) : Log.Settings := ⟨t, s.logLevel, s.logFormat, true⟩
  match s.logTarget, s.logLevel with
  | some t, _ => some (withTarget t)
  | none, some _ => some (withTarget .stderr)
  | none, none => none

open Json.Reader in
def recordForm : Json.Reader.Record Settings where
  name := "PluginConfig"
  fields := [
    ⟨"enableWasi", (fun v s => { s with enableWasi := v }) <$> bool, false⟩,
    ⟨"maxMemoryPages", (fun v s => { s with maxMemoryPages := v }) <$> u32, false⟩,
    ⟨"logTarget", (fun v s => { s with logTarget := v.map Log.Target.ofText }) <$>
      optional (text "a string"), false⟩,
    ⟨"logLevel", (fun v s => { s with logLevel := v }) <$>
      optional (choice (Log.Level.all.map fun l => (l.name, l))), false⟩,
    ⟨"logFormat", (fun v s => { s with logFormat := v }) <$>
      choice [("compact", .compact), ("json", .json)], false⟩,
    ⟨"maxVarBytes", (fun v s => { s with maxVarBytes := v }) <$> u64, false⟩,
    ⟨"fuelLimit", (fun v s => { s with fuelLimit := v }) <$> optional u64, false⟩,
    ⟨"timeoutMs", (fun v s => { s with timeoutMillis := v }) <$> optional u64, false⟩,
    ⟨"allowUnresolvedImports", (fun v s => { s with allowUnresolvedImports := v }) <$> bool,
      false⟩,
    ⟨"wasi", (fun v s => { s with wasi := v }) <$> record SystemOptions.recordForm, false⟩]
  initial := {}

def ofJson (text : String) : Except Failure Settings :=
  match Json.Reader.whole (Json.Reader.record recordForm) text with
  | .ok s => .ok s
  | .error f => .error (.argument (.settings (f.located text.toList)))

end Settings

end PluginHost
