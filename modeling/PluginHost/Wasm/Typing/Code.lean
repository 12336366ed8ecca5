import PluginHost.Wasm.Typing.Aggregate
import PluginHost.Wasm.Typing.Switching
/-!
Typing of code: control, tables, memories, references and numbers, and the bodies and constant
expressions made of them.
-/
namespace PluginHost.Wasm.Typing

namespace Typer

variable (s : Scope)

def tailResults (results : List ValType) : Typer Unit := do
  if ¬ valsMatch s.types results (← returnTypes) then fail "type mismatch in tail call"

def accessAddress (a : MemArg) (natural : Nat) (exact : Bool) : Typer ValType := do
  let m ← find "memory" s.memories a.memory
  if a.long then check (need s.features .memory64)
  if exact then
    if a.align ≠ natural then fail "atomic instructions must always specify maximum alignment"
  else
    if natural < a.align then fail "alignment must not be larger than natural"
    if ¬ m.wide ∧ UInt32.size ≤ a.offset then fail "offset out of range: must be <= 2**32"
  return addressType m.wide

def log2 (octets : Nat) : Nat :=
  match octets with
  | 1 => 0
  | 2 => 1
  | 4 => 2
  | _ => 3

def conversionTypes : Conversion → ValType × ValType
  | .wrap => (.i64, .i32)
  | .extendS | .extendU => (.i32, .i64)
  | .truncate int float _ _ => (float.float, int.int)
  | .convert float int _ => (int.int, float.float)
  | .demote => (.f64, .f32)
  | .promote => (.f32, .f64)
  | .toBits w => (w.float, w.int)
  | .ofBits w => (w.int, w.float)

def constType : Value → ValType
  | .i32 _ => .i32
  | .i64 _ => .i64
  | .f32 _ => .f32
  | .f64 _ => .f64
  | .v128 _ => .v128
  | .funcref _ => .ref .funcref
  | .externref _ => .ref .externref
  | .ref => .ref (.ofKind true .any)

def branchKeeping (label : Nat) : Typer Unit := do
  let ts ← labelTypes label
  sig s ts ts

def peekAll (ts : List ValType) : Typer Unit := do
  let popped ← ts.reverse.mapM fun t => pop s t
  popped.reverse.forM pushOperand

/-- Types a branch by index: all labels carry as many values. -/
def branchTable (labels : List Nat) (default_ : Nat) : Typer Unit := do
  let _ ← pop s .i32
  let types ← labelTypes default_
  let arity := types.length
  labels.forM fun l => do
    let ts ← labelTypes l
    if ts.length ≠ arity then fail "type mismatch: br_table target labels have different arity"
    peekAll s ts
  popAll s types
  neverGoesOn

def catchClause (c : Catch) : Typer Unit := do
  let caught ← match c.tag with
    | some tag => pure (← exceptionType s tag).params
    | none => pure []
  let caught := if c.withReference then caught ++ [.ref (.ofKind false .exception)] else caught
  if ¬ valsMatch s.types caught (← labelTypes c.label) then
    fail "type mismatch: catch clause does not match label"

def enterBlock (opener : Opener) (t : BlockType) (first : Typer Unit) : Typer Unit := do
  let (params, results) ← blockTypes s t
  popAll s params
  first
  openBlock opener params results

def closeTried : Typer Frame := do
  let f ← closeBlock s
  if f.opener ≠ .try_ ∧ f.opener ≠ .catch_ then fail "catch found outside of a try block"
  return f

def indirect (type table : Nat) : Typer FuncType := do
  let t ← tableType s table
  if ¬ refMatches s.types t.element .funcref then
    fail "indirect calls must go through a table with type <= funcref"
  let _ ← pop s (tableAddress t)
  funcType s type

def byReference (type : Nat) : Typer FuncType := do
  check (need s.features .typedReferences)
  let f ← funcType s type
  let _ ← pop s (refTo s true type)
  return f

def tailCall (f : FuncType) : Typer Unit := do
  tailResults s f.results
  popAll s f.params
  neverGoesOn

def control (i : Instr) : Typer Unit := do
  match i with
  | .unreachable => neverGoesOn
  | .block t => enterBlock s .block t (return)
  | .loop t => enterBlock s .loop t (return)
  | .if_ t =>
    let _ ← pop s .i32
    enterBlock s .if_ t (return)
  | .else_ =>
    let f ← closeBlock s
    if f.opener ≠ .if_ then fail "else found outside of an if block"
    openBlock .else_ f.params f.results
  | .end_ =>
    let f ← closeBlock s
    if f.opener = .if_ ∧ ¬ valsMatch s.types f.params f.results then
      fail "type mismatch: else branch missing"
    if ¬ (← get).frames.isEmpty then pushAll f.results
  | .br label =>
    popAll s (← labelTypes label)
    neverGoesOn
  | .brIf label =>
    let _ ← pop s .i32
    branchKeeping s label
  | .brTable labels default_ => branchTable s labels default_
  | .return_ =>
    popAll s (← returnTypes)
    neverGoesOn
  | .call f =>
    let t ← functionType s f
    sig s t.params t.results
  | .callIndirect type table =>
    let f ← indirect s type table
    sig s f.params f.results
  | .returnCall f => tailCall s (← functionType s f)
  | .returnCallIndirect type table => tailCall s (← indirect s type table)
  | .callRef type =>
    let f ← byReference s type
    sig s f.params f.results
  | .returnCallRef type => tailCall s (← byReference s type)
  | .throw_ tag =>
    check (need s.features .exceptions)
    popAll s (← exceptionType s tag).params
    neverGoesOn
  | .throwRef =>
    check (need s.features .exceptions)
    let _ ← pop s (.ref (.ofKind true .exception))
    neverGoesOn
  | .tryTable t catches =>
    check (need s.features .exceptions)
    enterBlock s .block t (catches.forM (catchClause s))
  | .try_ t =>
    check (need s.features .oldExceptions)
    enterBlock s .try_ t (return)
  | .catch_ tag =>
    check (need s.features .oldExceptions)
    let f ← closeTried s
    let t ← exceptionType s tag
    openFrame .catch_ f.params f.results t.params
  | .catchAll =>
    check (need s.features .oldExceptions)
    let f ← closeTried s
    openFrame .catchAll f.params f.results []
  | .rethrow label =>
    check (need s.features .oldExceptions)
    let f ← labelled label
    if f.opener ≠ .catch_ ∧ f.opener ≠ .catchAll then
      fail "invalid rethrow label: target was not a catch block"
    neverGoesOn
  | .delegate label =>
    check (need s.features .oldExceptions)
    let f ← closeBlock s
    if f.opener ≠ .try_ then fail "delegate found outside of a try block"
    let _ ← labelled label
    pushAll f.results
  | _ => return

def onTable (i : Instr) : Typer Unit := do
  match i with
  | .tableGet table =>
    let t ← tableType s table
    sig s [tableAddress t] [.ref t.element]
  | .tableSet table =>
    let t ← tableType s table
    sig s [tableAddress t, .ref t.element] []
  | .tableInit elem table =>
    let t ← tableType s table
    if ¬ refMatches s.types (← elemType s elem) t.element then fail "type mismatch"
    sig s [tableAddress t, .i32, .i32] []
  | .elemDrop elem =>
    let _ ← elemType s elem
  | .tableCopy target source =>
    let t ← tableType s target
    let u ← tableType s source
    if ¬ refMatches s.types u.element t.element then fail "type mismatch"
    sig s [tableAddress t, tableAddress u, narrower (tableAddress t) (tableAddress u)] []
  | .tableGrow table =>
    let t ← tableType s table
    sig s [.ref t.element, tableAddress t] [tableAddress t]
  | .tableSize table => push (tableAddress (← tableType s table))
  | .tableFill table =>
    let t ← tableType s table
    sig s [tableAddress t, .ref t.element, tableAddress t] []
  | _ => return

def onMemory (i : Instr) : Typer Unit := do
  match i with
  | .load type octets _ arg => sig s [← accessAddress s arg (log2 octets) false] [type]
  | .store type octets arg => sig s [← accessAddress s arg (log2 octets) false, type] []
  | .access a feature =>
    if let some f := feature then check (need s.features f)
    let address ← accessAddress s a.arg a.natural a.exact
    sig s (address :: a.params) a.results
  | .memorySize m => push (← memoryAddress s m)
  | .memoryGrow m =>
    let address ← memoryAddress s m
    sig s [address] [address]
  | .memoryInit data m =>
    let address ← memoryAddress s m
    dataSegment s data
    sig s [address, .i32, .i32] []
  | .dataDrop data => dataSegment s data
  | .memoryCopy target source =>
    let a ← memoryAddress s target
    let b ← memoryAddress s source
    sig s [a, b, narrower a b] []
  | .memoryFill m =>
    let address ← memoryAddress s m
    sig s [address, .i32, address] []
  | .memoryDiscard m =>
    check (need s.features .memoryControl)
    let address ← memoryAddress s m
    sig s [address, address] []
  | _ => return

def sameSharing (a b : Popped) : Typer Unit :=
  match a, b with
  | .known r, .known q =>
    if heapShared s.types r.heap = heapShared s.types q.heap then return
    else fail "type mismatch: shared and unshared references"
  | _, _ => return

def onReference (i : Instr) : Typer Unit := do
  match i with
  | .refNull h => push (.ref (← namedRef s ⟨true, h⟩))
  | .refIsNull =>
    let _ ← popRef
    push .i32
  | .refFunc f =>
    let t ← find "function" s.functions f
    if ¬ s.declared.getD f false then fail "undeclared function reference"
    push (.ref ⟨false, .defined t⟩)
  | .refEq =>
    check (need s.features .gc)
    let a ← popKind s .eq
    let b ← popKind s .eq
    sameSharing s a b
    push .i32
  | .refAsNonNull =>
    check (need s.features .typedReferences)
    pushOperand (← popRef).firm.operand
  | .brOnNull label =>
    check (need s.features .typedReferences)
    let r ← popRef
    branchKeeping s label
    pushOperand r.firm.operand
  | .brOnNonNull label =>
    check (need s.features .typedReferences)
    match ← lastLabelType label with
    | (types, .ref l) =>
      let _ ← pop s (.ref { l with nullable := true })
      sig s types types
    | _ => fail "type mismatch: label without reference"
  | _ => return

def select (type : Option ValType) : Typer Unit := do
  match type with
  | some t =>
    let t ← named s t
    sig s [t, t, .i32] [t]
  | none =>
    let _ ← pop s .i32
    match ← popAny, ← popAny with
    | .someRef _, _ | _, .someRef _ | .known (.ref _), _ | _, .known (.ref _) =>
      fail "type mismatch: select only takes integral types"
    | .bottom, t | t, .bottom => pushOperand t
    | .known t, .known u =>
      if t ≠ u then fail "type mismatch: select operands have different types"
      push t

def isUnset (params x : Nat) (t : ValType) : Typer Bool := do
  return params ≤ x && ¬ t.isDefaultable && ¬ (← get).settled.contains x

def settle (params x : Nat) (t : ValType) : Typer Unit := do
  if ← isUnset params x t then modify fun st => { st with settled := x :: st.settled }

structure Locals where
  params : Nat
  types : Array ValType

def onValue (locals : Locals) (i : Instr) : Typer Unit := do
  match i with
  | .drop =>
    let _ ← popAny
  | .select type => select s type
  | .localGet x =>
    let t ← find "local" locals.types x
    if ← isUnset locals.params x t then fail "uninitialized local"
    push t
  | .localSet x =>
    let t ← find "local" locals.types x
    let _ ← pop s t
    settle locals.params x t
  | .localTee x =>
    let t ← find "local" locals.types x
    let _ ← pop s t
    settle locals.params x t
    push t
  | .globalGet x => push (← globalType s x).value
  | .globalSet x =>
    let g ← globalType s x
    if ¬ g.mutable then fail "global is immutable"
    sig s [g.value] []
  | .const v => push (constType v)
  | .intBinary w _ => sig s [w.int, w.int] [w.int]
  | .intUnary w _ => sig s [w.int] [w.int]
  | .intCompare w _ => sig s [w.int, w.int] [.i32]
  | .intEqz w => sig s [w.int] [.i32]
  | .floatBinary w _ => sig s [w.float, w.float] [w.float]
  | .floatUnary w _ => sig s [w.float] [w.float]
  | .floatCompare w _ => sig s [w.float, w.float] [.i32]
  | .convert c =>
    let (operand, result) := conversionTypes c
    sig s [operand] [result]
  | .typed params results feature =>
    if let some f := feature then check (need s.features f)
    sig s params results
  | _ => return

def instr (locals : Locals) (i : Instr) : Typer Unit := do
  if (← get).frames.isEmpty then beyondEnd
  control s i
  onTable s i
  onMemory s i
  onReference s i
  onValue s locals i
  match i with
  | .aggregate a => aggregate s a
  | .atomic a place => atomic s a place
  | .switching i => switching s i
  | _ => return

end Typer

def maxLocals : Nat := 50000

def Place.start (results : List ValType) : Place := ⟨[⟨.block, [], results, [], false, 0⟩], []⟩

def checkInstrs (s : Scope) (locals : Typer.Locals) (results : List ValType) (code : List Instr) :
    Check := do
  let (_, rest) ← (code.forM fun i => Typer.instr s locals i).run (.start results)
  rule rest.frames.isEmpty "control frames remain at end of function"

def checkCode (s : Scope) (t : FuncType) (b : Body) : Check := do
  let runs := b.locals.map fun (n, l) => (n, s.types.val l)
  runs.forM fun (_, l) => checkVal s.types s.features l
  rule (t.params.length + total (runs.map Prod.fst) ≤ maxLocals) "too many locals"
  let types := t.params ++ runs.flatMap fun (n, l) => List.replicate n l
  checkInstrs s ⟨t.params.length, types.toArray⟩ t.results b.code

def checkConstInstr (s : Scope) (i : Instr) : Check := do
  match i with
  | .const _ | .refNull _ | .refFunc _ => return
  | .intBinary _ op => rule (op = .add || op = .sub || op = .mul) "constant expression required"
  | .globalGet x =>
    match s.globals[x]? with
    | some g =>
      rule (¬ g.mutable) "constant expression required: global.get of mutable global"
      if s.importedGlobals ≤ x then need s.features .gc
    | none => throw (.invalid "unknown global")
  | .aggregate (.structNew _) | .aggregate (.structNewDefault _) | .aggregate (.arrayNew _)
  | .aggregate (.arrayNewDefault _) | .aggregate (.arrayNewFixed ..) | .aggregate (.refI31 _) =>
    return
  | _ => throw (.invalid "constant expression required: non-constant operator")

def checkConst (s : Scope) (t : ValType) (e : ConstExpr) : Check := do
  e.forM (checkConstInstr s)
  checkInstrs s ⟨0, #[]⟩ [t] (e ++ [Instr.end_])

end PluginHost.Wasm.Typing
