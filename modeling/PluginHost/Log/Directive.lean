import PluginHost.Log.Event
import PluginHost.Log.Pattern
import PluginHost.Text.Alphanumeric
import PluginHost.Text.Blank
import PluginHost.Text.Utf8
/-!
One rule of a filter: a threshold, and what an event has to be like for it to apply. Its text is
`target[span{field,…}]=level`, of which every part may be missing.
-/
namespace PluginHost.Log

inductive Threshold where
  | off
  | from_ (level : Level)
  deriving DecidableEq, Inhabited

namespace Threshold

def passes (t : Threshold) (l : Level) : Bool :=
  match t with
  | .off => false
  | .from_ least => least ≤ l

def ofNumber? : Nat → Option Threshold
  | 0 => some .off
  | 1 => some (.from_ .error)
  | 2 => some (.from_ .warn)
  | 3 => some (.from_ .info)
  | 4 => some (.from_ .debug)
  | 5 => some (.from_ .trace)
  | _ => none

def ofName? (s : String) : Option Threshold :=
  match Level.lowered s with
  | "off" => some .off
  | "error" => some (.from_ .error)
  | "warn" => some (.from_ .warn)
  | "info" => some (.from_ .info)
  | "debug" => some (.from_ .debug)
  | "trace" => some (.from_ .trace)
  | _ => none

def number? (s : String) : Option Nat :=
  let digits := match s.toList with
    | '+' :: cs => cs
    | cs => cs
  if digits.isEmpty ∨ digits.any (fun c => !c.isDigit) then none
  else some (digits.foldl (fun n c => n * 10 + (c.toNat - '0'.toNat)) 0)

def ofText? (s : String) : Option Threshold :=
  ((number? s).bind ofNumber?).orElse fun _ => ofName? s

end Threshold

structure FieldPattern where
  name : String
  /-- What its value has to look like; no event is judged by its values, only spans are. -/
  value : Option String
  deriving DecidableEq, Inhabited

def FieldPattern.ofText? (s : String) : Option FieldPattern :=
  match s.splitOn "=" with
  | name :: value :: _ =>
    if s ≠ "" ∧ Pattern.isWellFormed value then some ⟨name, some value⟩ else none
  | _ => if s = "" then none else some ⟨s, none⟩

structure Directive where
  target : Option String
  span : Option String
  fields : List FieldPattern
  threshold : Threshold
  deriving DecidableEq, Inhabited

namespace Directive

def general (t : Threshold) : Directive := ⟨none, none, [], t⟩

inductive Part where
  | nothing
  | word (start : Nat)
  | span (start : Nat)
  | field (start : Nat)
  | afterFields
  | afterSpan
  | threshold (start : Nat)
  deriving DecidableEq, Inhabited

def stretch? (text : List UInt8) (start stop : Nat) : Option String :=
  (Text.Utf8.decode ((text.take stop).drop start)).toOption

def thresholdOf? (s : String) : Option Threshold :=
  if s = "" then some (.from_ .trace) else Threshold.ofText? s

def next? (text : List UInt8) (state : Directive × Part) (place : Nat × Char) :
    Option (Directive × Part) :=
  let (d, part) := state
  let (i, c) := place
  match part, c with
  | .nothing, '[' => some (d, .span (i + 1))
  | .nothing, c =>
    if c = '-' ∨ c = ':' ∨ c = '_' ∨ Text.isAlphanumeric c then some (d, .word i) else none
  | .word start, '=' =>
    (stretch? text start i).map fun s => ({ d with target := some s }, .threshold (i + 1))
  | .word start, '[' =>
    (stretch? text start i).map fun s => ({ d with target := some s }, .span (i + 1))
  | .span start, ']' =>
    (stretch? text start i).map fun s => ({ d with span := some s }, .afterSpan)
  | .span start, '\x7b' =>
    (stretch? text start i).map fun s =>
      ({ d with span := if s = "" then none else some s }, .field (i + 1))
  | .field start, '\x7d' => do
    let f ← FieldPattern.ofText? (← stretch? text start i)
    return ({ d with fields := d.fields ++ [f] }, .afterFields)
  | .afterFields, ']' => some (d, .afterSpan)
  | .afterFields, _ => none
  | .afterSpan, '=' => some (d, .threshold (i + 1))
  | .afterSpan, _ => none
  | part, _ => some (d, part)

def finish? (text : List UInt8) (state : Directive × Part) : Option Directive :=
  let (d, part) := state
  match part with
  | .word start => do
    let s ← stretch? text start text.length
    match Threshold.ofText? s with
    | some t => return { d with threshold := t }
    | none => return { d with target := some s }
  | .threshold start => do
    return { d with threshold := ← thresholdOf? (← stretch? text start text.length) }
  | .afterSpan => some d
  | _ => none

def trimmed (s : String) : List Char :=
  ((s.toList.dropWhile Text.isBlank).reverse.dropWhile Text.isBlank).reverse

def placed (i : Nat) : List Char → List (Nat × Char)
  | [] => []
  | c :: cs => (i, c) :: placed (i + c.utf8Size) cs

/-- Reads a directive. Places are counted without the blanks around the text, and stretches are cut
from the text with them, so that only a lone word may have blanks around it, which are part of
it. -/
def ofText? (s : String) : Option Directive := do
  let text := Text.Utf8.encode s
  let state ← (placed 0 (trimmed s)).foldlM (next? text) (general (.from_ .trace), .nothing)
  finish? text state

def isForEvents (d : Directive) : Bool :=
  d.span.isNone && d.fields.all fun f => f.value.isNone

def fieldNames (d : Directive) : List String := d.fields.map FieldPattern.name

def applies (d : Directive) (e : Event) : Bool :=
  (match d.target with
    | some t => e.target.startsWith t
    | none => true) &&
  d.fieldNames.all fun n => n = "message" || e.fields.any fun f => f.1 = n

/-- Whether `d` goes before `b`, or takes its place, when it comes later: directives with a target
go before others, longer targets before shorter ones, then more fields before fewer. -/
def supersedes (d b : Directive) : Bool :=
  let length (d : Directive) : Nat := (d.target.map fun t => t.utf8ByteSize + 1).getD 0
  if length d ≠ length b then length b < length d
  else if d.fields.length ≠ b.fields.length then b.fields.length < d.fields.length
  else ¬ d.fieldNames < b.fieldNames

end Directive

end PluginHost.Log
