import PluginHost.Json.Written
import PluginHost.Log.Event
import PluginHost.Text.Quoted
/-!
The two written forms of an event. The compact line may be coloured for a terminal. In both the
message is the first field, and the others follow in the order of the event.
-/
namespace PluginHost.Log

def painted (codes : Bool) (code : String) (s : String) : String :=
  if codes then "\x1b[" ++ code ++ "m" ++ s ++ "\x1b[0m" else s

def Level.colour : Level → String
  | .trace => "35"
  | .debug => "34"
  | .info => "32"
  | .warn => "33"
  | .error => "31"

def harmless (s : String) : String :=
  String.join (s.toList.map fun c =>
    match c with
    | '\x1b' => "\\x1b"
    | '\x07' => "\\x07"
    | '\x08' => "\\x08"
    | '\x0c' => "\\x0c"
    | '\x7f' => "\\x7f"
    | c =>
      if 0x80 ≤ c.toNat ∧ c.toNat ≤ 0x9F then "\\u\x7b" ++ Text.hex c.toNat ++ "\x7d"
      else String.singleton c)

def FieldValue.compact : FieldValue → String
  | .shown s => s
  | .quoted s => Text.quoted s
  | .number n => toString n
  | .flag b => toString b

def FieldValue.json : FieldValue → String
  | .shown s => Json.string s
  | .quoted s => Json.string s
  | .number n => toString n
  | .flag b => toString b

def padded (s : String) : String := String.ofList (List.replicate (5 - s.length) ' ') ++ s

def compactLine (codes : Bool) (time : Option String) (e : Event) : String :=
  let field (f : String × FieldValue) : String :=
    if f.1 = "message" then harmless f.2.compact
    else painted codes "3" f.1 ++ painted codes "2" "=" ++ f.2.compact
  let stamp := match time with
    | some t => painted codes "2" t ++ " "
    | none => ""
  stamp ++ painted codes e.level.colour (padded e.level.upperName) ++ " " ++
    painted codes "2" e.target ++ painted codes "2" ":" ++ " " ++
    " ".intercalate (harmless e.message :: e.fields.map field)

def jsonLine (time : Option String) (e : Event) : String :=
  let fields := ("message", Json.string e.message) :: e.fields.map fun f => (f.1, f.2.json)
  let stamp := match time with
    | some t => [("timestamp", Json.string t)]
    | none => []
  Json.object (stamp ++ [("level", Json.string e.level.upperName),
    ("fields", Json.object fields), ("target", Json.string e.target)])

def Settings.line (s : Settings) (time : String) (e : Event) : String :=
  let stamp := if s.timestamps then some time else none
  match s.format with
  | .json => jsonLine stamp e
  | .compact =>
    let codes := match s.target with
      | .file _ => false
      | _ => true
    compactLine codes stamp e

end PluginHost.Log
