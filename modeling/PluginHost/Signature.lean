import PluginHost.Json.Reader
import PluginHost.Json.Written
/-!
The value types that cross the border between host and guest, and the signatures of functions made
of them. A signature has two written forms: the shown one, `(i32, i32) -> (i64)`, and a JSON object
with the lists `params` and `results`.
-/
namespace PluginHost

inductive ValueType where
  | i32
  | i64
  | f32
  | f64
  | v128
  | funcref
  | externref
  | ref
  deriving DecidableEq, Inhabited

namespace ValueType

def name : ValueType → String
  | .i32 => "i32"
  | .i64 => "i64"
  | .f32 => "f32"
  | .f64 => "f64"
  | .v128 => "v128"
  | .funcref => "funcref"
  | .externref => "externref"
  | .ref => "ref"

def label : ValueType → String
  | .i32 => "I32"
  | .i64 => "I64"
  | .f32 => "F32"
  | .f64 => "F64"
  | .v128 => "V128"
  | .funcref => "FuncRef"
  | .externref => "ExternRef"
  | .ref => "Ref"

def all : List ValueType := [.i32, .i64, .f32, .f64, .v128, .funcref, .externref, .ref]

end ValueType

structure Signature where
  params : List ValueType
  results : List ValueType
  deriving DecidableEq, Inhabited

namespace Signature

/-- A buffer comes in as address and length, a buffer goes out packed into one word. -/
def bytes : Signature := ⟨[.i32, .i32], [.i64]⟩

def isBytes (s : Signature) : Bool := s = bytes

def listed (types : List ValueType) : String := ", ".intercalate (types.map ValueType.name)

def text (s : Signature) : String := "(" ++ listed s.params ++ ") -> (" ++ listed s.results ++ ")"

def debug (s : Signature) : String :=
  let labels (types : List ValueType) := ", ".intercalate (types.map ValueType.label)
  "Signature \x7b params: [" ++ labels s.params ++ "], results: [" ++ labels s.results ++ "] \x7d"

def json (s : Signature) : String :=
  let names (types : List ValueType) := Json.array (types.map fun t => Json.string t.name)
  Json.object [("params", names s.params), ("results", names s.results)]

def typeReader : Json.Reader ValueType :=
  Json.Reader.choice (ValueType.all.map fun t => (t.name, t))

def recordForm : Json.Reader.Record Signature where
  name := "Signature"
  fields := [
    ⟨"params", (fun ts s => { s with params := ts }) <$> Json.Reader.list typeReader, true⟩,
    ⟨"results", (fun ts s => { s with results := ts }) <$> Json.Reader.list typeReader, true⟩]
  initial := ⟨[], []⟩

def ofJson (text : String) : Except Json.Fault Signature :=
  Json.Reader.whole (Json.Reader.record recordForm) text

end Signature

end PluginHost
