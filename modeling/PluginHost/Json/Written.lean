/-!
Texts as JSON writes them: a quote, a backslash and the controls are escaped, the rest stands as it
is.
-/
namespace PluginHost.Json

def fourDigits (n : Nat) : String :=
  let s := String.ofList (Nat.toDigits 16 n)
  String.ofList (List.replicate (4 - s.length) '0') ++ s

def writtenChar (c : Char) : String :=
  match c with
  | '"' => "\\\""
  | '\\' => "\\\\"
  | '\x08' => "\\b"
  | '\x0c' => "\\f"
  | '\n' => "\\n"
  | '\r' => "\\r"
  | '\t' => "\\t"
  | c => if c.toNat < 0x20 then "\\u" ++ fourDigits c.toNat else String.singleton c

def string (s : String) : String :=
  "\"" ++ String.join (s.toList.map writtenChar) ++ "\""

def array (elements : List String) : String :=
  "[" ++ ",".intercalate elements ++ "]"

def object (members : List (String × String)) : String :=
  "\x7b" ++ ",".intercalate (members.map fun (k, v) => string k ++ ":" ++ v) ++ "\x7d"

end PluginHost.Json
