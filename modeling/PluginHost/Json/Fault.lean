import PluginHost.Counting
import PluginHost.Decimal.Notation
import PluginHost.Text.Quoted
/-!
What can be wrong with a JSON text, as text or as a value of the wrong shape, and where.
-/
namespace PluginHost.Json

inductive Found where
  | null
  | flag (b : Bool)
  | integer (n : Int)
  | real (bits : UInt64)
  | text (s : String)
  | sequence
  | map
  deriving DecidableEq, Inhabited

def Found.words : Found → String
  | .null => "null"
  | .flag b => "boolean `" ++ toString b ++ "`"
  | .integer n => "integer `" ++ toString n ++ "`"
  | .real bits => "floating point `" ++ Decimal.textOfBits bits ++ "`"
  | .text s => "string " ++ Text.quoted s
  | .sequence => "sequence"
  | .map => "map"

inductive Problem where
  | endInValue
  | endInObject
  | endInList
  | endInString
  | expectedValue
  | expectedIdent
  | expectedColon
  | expectedCommaOrBrace
  | expectedCommaOrBracket
  | keyMustBeString
  | trailingComma
  | trailingCharacters
  | invalidNumber
  | numberOutOfRange
  | invalidEscape
  | endOfHexEscape
  | loneSurrogate
  | controlCharacter
  | wrongType (found : Found) (expected : String)
  | wrongValue (found : Found) (expected : String)
  | wrongLength (length : Nat) (expected : String)
  | unknownVariant (name : String) (known : List String)
  | missingField (name : String)
  | duplicateField (name : String)
  deriving DecidableEq, Inhabited

def choices (names : List String) : String :=
  match names with
  | [] => "there are no variants"
  | [a] => "expected `" ++ a ++ "`"
  | [a, b] => "expected `" ++ a ++ "` or `" ++ b ++ "`"
  | _ => "expected one of " ++ ", ".intercalate (names.map fun n => "`" ++ n ++ "`")

def Problem.message : Problem → String
  | .endInValue => "EOF while parsing a value"
  | .endInObject => "EOF while parsing an object"
  | .endInList => "EOF while parsing a list"
  | .endInString => "EOF while parsing a string"
  | .expectedValue => "expected value"
  | .expectedIdent => "expected ident"
  | .expectedColon => "expected `:`"
  | .expectedCommaOrBrace => "expected `,` or `\x7d`"
  | .expectedCommaOrBracket => "expected `,` or `]`"
  | .keyMustBeString => "key must be a string"
  | .trailingComma => "trailing comma"
  | .trailingCharacters => "trailing characters"
  | .invalidNumber => "invalid number"
  | .numberOutOfRange => "number out of range"
  | .invalidEscape => "invalid escape"
  | .endOfHexEscape => "unexpected end of hex escape"
  | .loneSurrogate => "lone leading surrogate in hex escape"
  | .controlCharacter => "control character (\\u0000-\\u001F) found while parsing a string"
  | .wrongType f e => "invalid type: " ++ f.words ++ ", expected " ++ e
  | .wrongValue f e => "invalid value: " ++ f.words ++ ", expected " ++ e
  | .wrongLength n e => "invalid length " ++ toString n ++ ", expected " ++ e
  | .unknownVariant n ks => "unknown variant `" ++ n ++ "`, " ++ choices ks
  | .missingField n => "missing field `" ++ n ++ "`"
  | .duplicateField n => "duplicate field `" ++ n ++ "`"

/-- A problem and the text that is left where it was noticed. A fault that is not placed yet takes
the place where the value around it ends. -/
structure Fault where
  problem : Problem
  rest : List Char
  placed : Bool
  deriving DecidableEq, Inhabited

/-- Line and column, both from one, of the character that leaves `left` octets unread; columns count
octets. -/
def position (line column : Nat) (skip : Nat) : List Char → Nat × Nat
  | [] => (line, column)
  | c :: cs =>
    if skip = 0 then (line, column)
    else if c = '\n' then position (line + 1) 0 (skip - 1) cs
    else position line (column + c.utf8Size) (skip - c.utf8Size) cs

def octets (cs : List Char) : Nat := total (cs.map Char.utf8Size)

def Fault.located (f : Fault) (text : List Char) : String :=
  let (line, column) := position 1 0 (octets text - octets f.rest) text
  s!"{f.problem.message} at line {line} column {column}"

end PluginHost.Json
