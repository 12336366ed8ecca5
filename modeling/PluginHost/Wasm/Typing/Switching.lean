import PluginHost.Wasm.Typing.Stack
/-!
Typing of instructions on suspended functions. What is left of a function has the type of a
function: it takes what its suspension waits for, and leaves what the function leaves.
-/
namespace PluginHost.Wasm.Typing.Typer

variable (s : Scope)

def lastContinuation (ts : List ValType) : Typer FuncType := do
  match ts.getLast? with
  | some (.ref ⟨_, .defined i⟩) =>
    match s.types.continued? i with
    | some t => return t
    | none => fail "non-continuation type"
  | _ => fail "type mismatch: instruction requires a continuation reference"

def handler (results : List ValType) (h : Handler) : Typer Unit := do
  let tag ← tagType s h.tag
  match h.label with
  | none => if ¬ tag.params.isEmpty then fail "type mismatch: non-empty tag parameter type"
  | some label =>
    let types ← labelTypes label
    let rest ← lastContinuation s types
    if ¬ valsMatch s.types rest.params tag.results ∨ ¬ valsMatch s.types results rest.results then
      fail "type mismatch in continuation type"
    if ¬ valsMatch s.types tag.params types.dropLast then
      fail "type mismatch between tag type and label type"

def handled (type : Nat) (handlers : List Handler) : Typer FuncType := do
  let (_, f) ← contType s type
  handlers.forM (handler s f.results)
  return f

def switching (i : Switching) : Typer Unit := do
  check (need s.features .stackSwitching)
  match i with
  | .new type =>
    let (f, _) ← contType s type
    sig s [.ref ⟨true, .defined f⟩] [refTo s false type]
  | .bind source target =>
    let (_, f) ← contType s source
    let (_, h) ← contType s target
    if f.params.length < h.params.length then fail "type mismatch in continuation arguments"
    let (bound, free) := f.params.splitAt (f.params.length - h.params.length)
    if ¬ valsMatch s.types h.params free ∨ ¬ valsMatch s.types f.results h.results then
      fail "type mismatch in continuation types"
    sig s (bound ++ [refTo s true source]) [refTo s false target]
  | .suspend tag =>
    let t ← tagType s tag
    sig s t.params t.results
  | .resume type handlers =>
    let f ← handled s type handlers
    sig s (f.params ++ [refTo s true type]) f.results
  | .resumeThrow type tag handlers =>
    let f ← handled s type handlers
    let t ← exceptionType s tag
    sig s (t.params ++ [refTo s true type]) f.results
  | .switch type tag =>
    let (_, f) ← contType s type
    let t ← tagType s tag
    if ¬ t.params.isEmpty then fail "type mismatch: non-empty tag parameter type"
    let other ← lastContinuation s f.params
    if ¬ valsMatch s.types f.results t.results ∨ ¬ valsMatch s.types t.results other.results then
      fail "type mismatch in continuation types"
    sig s (f.params.dropLast ++ [refTo s true type]) other.params

end PluginHost.Wasm.Typing.Typer
