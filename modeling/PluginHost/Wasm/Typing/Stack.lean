import PluginHost.Wasm.Typing.Subtype
/-!
Operands and open blocks while code is typed. Every instruction pops operands of certain types and
pushes others. A block may not reach below its own operands; after an instruction that never goes
on, operands of any type can be popped until the block ends.
-/
namespace PluginHost.Wasm.Typing

/-- What code may refer to. All types name others by identity. -/
structure Scope where
  features : Features
  types : Types
  functions : Array Nat
  tables : Array TableType
  memories : Array MemType
  globals : Array GlobalType
  /-- Globals that come before the place in question. -/
  knownGlobals : Nat
  /-- Globals whose first values may be used in constant expressions without a proposal. -/
  importedGlobals : Nat
  tags : Array Nat
  elems : Array RefType
  dataCount : Option Nat
  declared : Array Bool
  /-- Threads share the function that is typed. -/
  shared : Bool

inductive Opener where
  | block
  | loop
  | if_
  | else_
  | try_
  | catch_
  | catchAll
  deriving DecidableEq, Inhabited

inductive Operand where
  | bottom
  /-- Any type of references, or any to things of a kind. -/
  | someRef (kind : Option HeapKind)
  | known (type : ValType)
  deriving DecidableEq, Inhabited

structure Frame where
  opener : Opener
  params : List ValType
  results : List ValType
  operands : List Operand
  unreachable : Bool
  /-- How many local variables had been set when the block was opened. -/
  settled : Nat
  deriving Inhabited

structure Place where
  /-- The open blocks, the innermost first. -/
  frames : List Frame
  /-- Variables without a first value of their own that were set, the latest first. -/
  settled : List Nat
  deriving Inhabited

abbrev Typer (α : Type) := StateT Place (Except Fault) α

namespace Typer

def check (c : Check) : Typer Unit := liftM c

def fail (text : String) : Typer α := throw (.invalid text)

def beyondEnd : Typer α := fail "operators remaining after end of function"

def find (what : String) (xs : Array α) (i : Nat) : Typer α :=
  match xs[i]? with
  | some a => return a
  | none => fail ("unknown " ++ what)

def onFrame (f : Frame → Except Fault (α × Frame)) : Typer α := fun t =>
  match t with
  | ⟨[], _⟩ => .error (.invalid "operators remaining after end of function")
  | ⟨frame :: frames, settled⟩ =>
    match f frame with
    | .ok (a, frame) => .ok (a, ⟨frame :: frames, settled⟩)
    | .error e => .error e

def pushOperand (t : Operand) : Typer Unit :=
  onFrame fun f => .ok ((), { f with operands := t :: f.operands })

def push (t : ValType) : Typer Unit := pushOperand (.known t)

def pushAll (ts : List ValType) : Typer Unit := ts.forM push

def popAny : Typer Operand := onFrame fun f =>
  match f with
  | ⟨opener, params, results, t :: operands, unreachable, settled⟩ =>
    .ok (t, ⟨opener, params, results, operands, unreachable, settled⟩)
  | f =>
    if f.unreachable then .ok (.bottom, f)
    else .error (.invalid "type mismatch: expected a type but nothing on stack")

variable (s : Scope)

/-- Whether an operand can stand for a type. A reference to things of a kind may be one to shared
things or not, and is taken not to be null. -/
def accepts (t : ValType) : Operand → Bool
  | .bottom => true
  | .someRef kind =>
    match t with
    | .ref r =>
      kind.all fun k => refMatches s.types ⟨false, .kind k (heapShared s.types r.heap)⟩ r
    | _ => false
  | .known found => valMatches s.types found t

def pop (t : ValType) : Typer Operand := do
  let found ← popAny
  if accepts s t found then return found else fail "type mismatch"

def popAll (ts : List ValType) : Typer Unit := ts.reverse.forM fun t => do
  let _ ← pop s t

def popMany (t : ValType) (n : Nat) : Typer Unit := onFrame fun f =>
  let (taken, rest) := f.operands.splitAt n
  if ¬ taken.all (accepts s t) then .error (.invalid "type mismatch")
  else if taken.length < n ∧ ¬ f.unreachable then
    .error (.invalid "type mismatch: expected a type but nothing on stack")
  else .ok ((), { f with operands := rest })

inductive Popped where
  | someRef (kind : Option HeapKind)
  | known (type : RefType)

def Popped.operand : Popped → Operand
  | .someRef kind => .someRef kind
  | .known r => .known (.ref r)

def Popped.firm : Popped → Popped
  | .someRef kind => .someRef kind
  | .known r => .known { r with nullable := false }

def popRef : Typer Popped := do
  match ← popAny with
  | .bottom => return .someRef none
  | .someRef kind => return .someRef kind
  | .known (.ref r) => return .known r
  | .known _ => fail "type mismatch: expected reference type"

def popKind (k : HeapKind) : Typer Popped := do
  let popped ← popRef
  let fits := match popped with
    | .someRef kind => kind.all (kindBelow · k)
    | .known r => refMatches s.types r ⟨true, .kind k (heapShared s.types r.heap)⟩
  if fits then return popped else fail "type mismatch"

def neverGoesOn : Typer Unit :=
  onFrame fun f => .ok ((), { f with operands := [], unreachable := true })

def openFrame (opener : Opener) (params results operands : List ValType) : Typer Unit :=
  modify fun ⟨frames, settled⟩ =>
    let known := operands.reverse.map .known
    ⟨⟨opener, params, results, known, false, settled.length⟩ :: frames, settled⟩

def openBlock (opener : Opener) (params results : List ValType) : Typer Unit :=
  openFrame opener params results params

/-- Closes the innermost block, which has to leave its results and nothing else. Variables that were
set inside count as not set again. -/
def closeBlock : Typer Frame := do
  let results ← onFrame fun f => .ok (f.results, f)
  popAll s results
  match ← get with
  | ⟨f :: frames, settled⟩ =>
    if ¬ f.operands.isEmpty then fail "type mismatch: values remaining on stack at end of block"
    set (⟨frames, settled.drop (settled.length - f.settled)⟩ : Place)
    return f
  | _ => beyondEnd

def labelled (label : Nat) : Typer Frame := do
  match (← get).frames[label]? with
  | some f => return f
  | none => fail "unknown label: branch depth too large"

def labelTypes (label : Nat) : Typer (List ValType) := do
  let f ← labelled label
  return if f.opener = .loop then f.params else f.results

def lastLabelType (label : Nat) : Typer (List ValType × ValType) := do
  match (← labelTypes label).reverse with
  | t :: ts => return (ts.reverse, t)
  | [] => fail "type mismatch: label without types"

def sig (params results : List ValType) : Typer Unit := do
  popAll s params
  pushAll results

/-- Something that a function names; what threads share must not reach what they do not share. -/
def reach (what : String) (shared : Bool) : Typer Unit :=
  if s.shared ∧ ¬ shared then fail ("shared functions cannot access unshared " ++ what) else return

def compositeOf (type : Nat) : Typer CompositeType := do
  match s.types.body? type with
  | some b => return b
  | none => fail "unknown type"

def composite (i : Nat) : Typer CompositeType := compositeOf s (s.types.id i)

def funcTypeOf (type : Nat) : Typer FuncType := do
  match ← compositeOf s type with
  | ⟨shared, .function f⟩ =>
    reach s "functions" shared
    return f
  | _ => fail "expected function type"

def funcType (i : Nat) : Typer FuncType := funcTypeOf s (s.types.id i)

def structType (i : Nat) : Typer (List FieldType) := do
  match ← composite s i with
  | ⟨shared, .struct fields⟩ =>
    reach s "structs" shared
    return fields
  | _ => fail "expected struct type"

def arrayType (i : Nat) : Typer FieldType := do
  match ← composite s i with
  | ⟨shared, .array field⟩ =>
    reach s "arrays" shared
    return field
  | _ => fail "expected array type"

def contType (i : Nat) : Typer (Nat × FuncType) := do
  match ← composite s i with
  | ⟨shared, .continuation f⟩ =>
    reach s "continuations" shared
    match s.types.function? f with
    | some t => return (f, t)
    | none => fail "non-function type"
  | _ => fail "expected continuation type"

def functionType (i : Nat) : Typer FuncType := do funcTypeOf s (← find "function" s.functions i)

def tagType (i : Nat) : Typer FuncType := do
  match s.types.function? (← find "tag" s.tags i) with
  | some t => return t
  | none => fail "unknown type"

def exceptionType (i : Nat) : Typer FuncType := do
  let t ← tagType s i
  if ¬ t.results.isEmpty then fail "invalid exception type: non-empty tag result type"
  return t

def globalType (i : Nat) : Typer GlobalType := do
  let g ← find "global" s.globals i
  if s.knownGlobals ≤ i then fail "unknown global"
  reach s "globals" g.shared
  return g

def tableType (i : Nat) : Typer TableType := do
  let t ← find "table" s.tables i
  reach s "tables" t.shared
  return t

def elemType (i : Nat) : Typer RefType := do
  let r ← find "elem segment" s.elems i
  reach s "element segments" (heapShared s.types r.heap)
  return r

def dataSegment (i : Nat) : Typer Unit := do
  match s.dataCount with
  | some n => if n ≤ i then fail "unknown data segment"
  | none => fail "data count section required"

def addressType (wide : Bool) : ValType := if wide then .i64 else .i32

def memoryAddress (i : Nat) : Typer ValType :=
  return addressType (← find "memory" s.memories i).wide

def tableAddress (t : TableType) : ValType := addressType t.wide

def narrower (a b : ValType) : ValType := if a = .i64 then b else a

def named (t : ValType) : Typer ValType := do
  let t := s.types.val t
  check (checkVal s.types s.features t)
  return t

def namedRef (r : RefType) : Typer RefType := do
  let r := s.types.ref r
  check (checkRef s.types s.features r)
  return r

def refTo (nullable : Bool) (i : Nat) : ValType := .ref ⟨nullable, .defined (s.types.id i)⟩

def blockTypes (t : BlockType) : Typer (List ValType × List ValType) := do
  match t with
  | .empty => return ([], [])
  | .result t => return ([], [← named s t])
  | .defined i =>
    let f ← funcType s i
    return (f.params, f.results)

def returnTypes : Typer (List ValType) := do
  match (← get).frames.getLast? with
  | some f => return f.results
  | none => beyondEnd

end Typer

end PluginHost.Wasm.Typing
