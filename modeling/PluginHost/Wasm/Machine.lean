import PluginHost.Wasm.State
/-!
The machine that runs code. It keeps the operands of each open block apart, so that a branch only
has to keep what the label carries. Functions start with a look at fuel and clock, and so does every
turn of a loop; calls are counted, so that no guest can nest them without end.
-/
namespace PluginHost.Wasm

structure Label where
  /-- Values that a branch to the label carries. -/
  arity : Nat
  /-- Operands below the block. -/
  below : List Value
  target : List Instr
  deriving Inhabited

structure Frame where
  locals : Array Value
  /-- Operands of the innermost block, the latest first. -/
  operands : List Value
  /-- Open blocks, the innermost first. -/
  labels : List Label
  code : List Instr
  arity : Nat
  deriving Inhabited

structure Thread where
  callers : List Frame
  depth : Nat
  /-- Looks at the clock since it moved. -/
  looks : Nat
  deriving Inhabited

inductive Task where
  | memory (type : MemType)
  | table (type : TableType)
  | fill
  | start (function : Nat)
  deriving Inhabited

inductive Code where
  | running (frame : Frame) (thread : Thread)
  | entering (function : Nat) (args : List Value) (caller : Caller) (thread : Thread)
  /-- Looks at fuel and clock before it goes on. -/
  | looking (frame : Frame) (thread : Thread)
  | returning (results : List Value) (thread : Thread)
  /-- Waits for an answer of the host. -/
  | either (yes no : Code)
  | growingMemory (memory delta : Nat) (next : Code)
  | growingTable (table delta : Nat) (value : Value) (next : Code)
  | making (tasks : List Task)
  | stopping (cause : TrapCause)
  deriving Inhabited

namespace Machine

def maxDepth : Nat := 20000

def hostCallDepth : Nat := 32

def looksPerTick : Nat := 10000

def tickMillis : Nat := 5

def afterEnd : (depth : Nat) → List Instr → List Instr
  | _, [] => []
  | depth, i :: is =>
    match i with
    | .block _ | .loop _ | .if_ _ => afterEnd (depth + 1) is
    | .end_ =>
      match depth with
      | 0 => is
      | depth + 1 => afterEnd depth is
    | _ => afterEnd depth is

def elseBranch? : (depth : Nat) → List Instr → Option (List Instr)
  | _, [] => none
  | depth, i :: is =>
    match i with
    | .block _ | .loop _ | .if_ _ => elseBranch? (depth + 1) is
    | .else_ => if depth = 0 then some is else elseBranch? depth is
    | .end_ =>
      match depth with
      | 0 => none
      | depth + 1 => elseBranch? depth is
    | _ => elseBranch? depth is

/-- Code that does not fit its operands; checked modules have none. -/
def stuck : TrapCause := .engine "operands of other types"

def notRun : TrapCause := .engine "instruction is not supported"

def bitsOf : Value → Nat
  | .i32 n => n.toNat
  | .i64 n => n.toNat
  | .f32 n => n.toNat
  | .f64 n => n.toNat
  | .v128 n => n.toNat
  | _ => 0

def ofBits (t : ValType) (n : Nat) : Value :=
  match t with
  | .i32 => .i32 (UInt32.ofNat n)
  | .i64 => .i64 (UInt64.ofNat n)
  | .f32 => .f32 (UInt32.ofNat n)
  | .f64 => .f64 (UInt64.ofNat n)
  | .v128 => .v128 (BitVec.ofNat 128 n)
  | .ref _ => .ref

def ofBool (b : Bool) : Value := .i32 (if b then 1 else 0)

def resultType : Conversion → ValType
  | .wrap => .i32
  | .extendS | .extendU => .i64
  | .truncate int _ _ _ => int.int
  | .convert float _ _ => float.float
  | .demote => .f32
  | .promote => .f64
  | .toBits w => w.int
  | .ofBits w => w.float

def loaded (t : ValType) (octets : Nat) (signed : Bool) (n : Nat) : Value :=
  if signed then
    let wide := if t = .i64 then 64 else 32
    ofBits t ((BitVec.ofNat (8 * octets) n).signExtend wide).toNat
  else ofBits t n

def isNull : Value → Bool
  | .funcref none => true
  | .externref none => true
  | .ref => true
  | _ => false

def intBinary (w : Width) (op : IntBinary) (a b : Value) : Except TrapCause Value :=
  match w, a, b with
  | .w32, .i32 a, .i32 b => do return .i32 ⟨← op.eval a.toBitVec b.toBitVec⟩
  | .w64, .i64 a, .i64 b => do return .i64 ⟨← op.eval a.toBitVec b.toBitVec⟩
  | _, _, _ => .error stuck

def intUnary (w : Width) (op : IntUnary) (a : Value) : Except TrapCause Value :=
  match w, a with
  | .w32, .i32 a => .ok (.i32 ⟨op.eval a.toBitVec⟩)
  | .w64, .i64 a => .ok (.i64 ⟨op.eval a.toBitVec⟩)
  | _, _ => .error stuck

def intCompare (w : Width) (op : IntCompare) (a b : Value) : Except TrapCause Value :=
  match w, a, b with
  | .w32, .i32 a, .i32 b => .ok (ofBool (op.eval a.toBitVec b.toBitVec))
  | .w64, .i64 a, .i64 b => .ok (ofBool (op.eval a.toBitVec b.toBitVec))
  | _, _, _ => .error stuck

/-- Runs an instruction that works on numbers only; operands are given the latest first. -/
def numeric (i : Instr) (vs : List Value) : Except TrapCause (List Value) :=
  match i, vs with
  | .const v, vs => .ok (v :: vs)
  | .drop, _ :: vs => .ok vs
  | .select _, .i32 c :: b :: a :: vs => .ok ((if c = 0 then b else a) :: vs)
  | .intBinary w op, b :: a :: vs => do return (← intBinary w op a b) :: vs
  | .intUnary w op, a :: vs => do return (← intUnary w op a) :: vs
  | .intCompare w op, b :: a :: vs => do return (← intCompare w op a b) :: vs
  | .intEqz _, a :: vs => .ok (ofBool (bitsOf a = 0) :: vs)
  | .floatBinary w op, b :: a :: vs =>
    .ok (ofBits w.float (FloatBits.evalBinary w op (bitsOf a) (bitsOf b)) :: vs)
  | .floatUnary w op, a :: vs =>
    .ok (ofBits w.float (FloatBits.evalUnary w op (bitsOf a)) :: vs)
  | .floatCompare w op, b :: a :: vs =>
    .ok (ofBool (FloatBits.evalCompare w op (bitsOf a) (bitsOf b)) :: vs)
  | .convert c, a :: vs => do return ofBits (resultType c) (← c.eval (bitsOf a)) :: vs
  | .refNull h, vs => .ok (Program.null h :: vs)
  | .refIsNull, v :: vs => .ok (ofBool (isNull v) :: vs)
  | .refFunc f, vs => .ok (.funcref (some f) :: vs)
  | .nop, vs => .ok vs
  | .typed .., _ => .error notRun
  | .access .., _ => .error notRun
  | .aggregate _, _ => .error notRun
  | .atomic .., _ => .error notRun
  | .switching _, _ => .error notRun
  | _, _ => .error stuck

def onState (i : Instr) (s : State) (vs : List Value) : Except TrapCause (List Value × State) :=
  match i, vs with
  | .load t octets signed a, .i32 address :: vs => do
    let n ← s.load a.memory (address.toNat + a.offset) octets
    return (loaded t octets signed n :: vs, s)
  | .store _ octets a, v :: .i32 address :: vs => do
    return (vs, ← s.store a.memory (address.toNat + a.offset) octets (bitsOf v))
  | .globalGet x, vs => .ok (s.globals.getD x .ref :: vs, s)
  | .globalSet x, v :: vs => .ok (vs, { s with globals := s.globals.setIfInBounds x v })
  | .memorySize k, vs => .ok (.i32 (UInt32.ofNat (s.pageCount k)) :: vs, s)
  | .memoryCopy target source, .i32 n :: .i32 start :: .i32 address :: vs => do
    return (vs, ← s.copyMemory target source address.toNat start.toNat n.toNat)
  | .memoryFill k, .i32 n :: .i32 b :: .i32 address :: vs => do
    return (vs, ← s.fillMemory k address.toNat n.toNat (UInt8.ofNat b.toNat))
  | .memoryInit segment k, .i32 n :: .i32 start :: .i32 address :: vs => do
    return (vs, ← s.initMemory k segment address.toNat start.toNat n.toNat)
  | .dataDrop segment, vs => .ok (vs, s.dropData segment)
  | .tableGet k, .i32 x :: vs => do return ((← s.getElement k x.toNat) :: vs, s)
  | .tableSet k, v :: .i32 x :: vs => do return (vs, ← s.setElements k x.toNat [v])
  | .tableSize k, vs => .ok (.i32 (UInt32.ofNat (s.tableSize k)) :: vs, s)
  | .tableCopy target source, .i32 n :: .i32 start :: .i32 x :: vs => do
    return (vs, ← s.copyTable target source x.toNat start.toNat n.toNat)
  | .tableFill k, .i32 n :: v :: .i32 x :: vs => do
    return (vs, ← s.fillTable k x.toNat n.toNat v)
  | .tableInit segment k, .i32 n :: .i32 start :: .i32 x :: vs => do
    return (vs, ← s.initTable k segment x.toNat start.toNat n.toNat)
  | .elemDrop segment, vs => .ok (vs, s.dropElem segment)
  | i, vs => do return (← numeric i vs, s)

def goOn (cost : Nat) (frame : Frame) (thread : Thread) (s : State) : Step State Code :=
  .next cost (.running frame thread) s

def branch (label : Nat) (frame : Frame) (thread : Thread) (s : State) : Step State Code :=
  match frame.labels.drop label with
  | l :: outer =>
    goOn 1 { frame with
      operands := frame.operands.take l.arity ++ l.below
      labels := outer
      code := l.target } thread s
  | [] => .next 1 (.returning (frame.operands.take frame.arity) thread) s

def openBlock (params : Nat) (l : Label) (frame : Frame) (code : List Instr) : Frame :=
  { frame with
    operands := frame.operands.take params
    labels := { l with below := frame.operands.drop params } :: frame.labels
    code := code }

def closeBlock (code : List Instr) (frame : Frame) (thread : Thread) (s : State) :
    Step State Code :=
  match frame.labels with
  | l :: outer =>
    goOn 0 { frame with operands := frame.operands ++ l.below, labels := outer, code } thread s
  | [] => .next 0 (.returning (frame.operands.take frame.arity) thread) s

def look (frame : Frame) (thread : Thread) (s : State) : Step State Code :=
  if thread.looks + 1 < looksPerTick then
    .check 0 (.running frame { thread with looks := thread.looks + 1 }) s
  else .check tickMillis (.running frame { thread with looks := 0 }) s

/-- Calls a function with operands of the frame; the frame waits, unless the call is its last. -/
def call (p : Program) (function : Nat) (last : Bool) (frame : Frame) (thread : Thread)
    (s : State) : Step State Code :=
  match p.functionType? function with
  | none => .trapped stuck s
  | some t =>
    let n := t.params.length
    let args := (frame.operands.take n).reverse
    if last then .next 1 (.entering function args .guest thread) s
    else
      let frame := { frame with operands := frame.operands.drop n }
      .next 1 (.entering function args .guest
        { thread with callers := frame :: thread.callers, depth := thread.depth + 1 }) s

def callIndirect (p : Program) (type table : Nat) (last : Bool) (frame : Frame) (thread : Thread)
    (s : State) : Step State Code :=
  match frame.operands with
  | .i32 x :: vs =>
    match s.getElement table x.toNat with
    | .ok (.funcref (some f)) =>
      let expected := match p.types[type]? with
        | some ⟨_, _, _, .function t⟩ => some t
        | _ => none
      if p.functionType? f = expected then call p f last { frame with operands := vs } thread s
      else .trapped .indirectCallMismatch s
    | .ok _ => .trapped .uninitializedElement s
    | .error cause => .trapped cause s
  | _ => .trapped stuck s

def growMemory (k : Nat) (frame : Frame) (thread : Thread) (s : State) : Step State Code :=
  match frame.operands with
  | .i32 delta :: vs =>
    let old := s.pageCount k
    let answered (n : UInt32) : Code := .running { frame with operands := .i32 n :: vs } thread
    if delta = 0 then .next 1 (answered (UInt32.ofNat old)) s
    else
      let pages := (((s.memories[k]?).bind Memory.maximum).getD 65536)
      .growMemory (old * Memory.pageBytes) ((old + delta.toNat) * Memory.pageBytes)
        (some (pages * Memory.pageBytes))
        (.either (.growingMemory k delta.toNat (answered (UInt32.ofNat old)))
          (answered (UInt32.ofInt (-1)))) s
  | _ => .trapped stuck s

def growTable (k : Nat) (frame : Frame) (thread : Thread) (s : State) : Step State Code :=
  match frame.operands with
  | .i32 delta :: v :: vs =>
    let old := s.tableSize k
    let answered (n : UInt32) : Code := .running { frame with operands := .i32 n :: vs } thread
    if delta = 0 then .next 1 (answered (UInt32.ofNat old)) s
    else
      .growTable (old + delta.toNat) ((s.tables[k]?).bind TableState.maximum)
        (.either (.growingTable k delta.toNat v (answered (UInt32.ofNat old)))
          (answered (UInt32.ofInt (-1)))) s
  | _ => .trapped stuck s

def instr (p : Program) (i : Instr) (frame : Frame) (thread : Thread) (s : State) :
    Step State Code :=
  match i with
  | .unreachable => .trapped .unreachable s
  | .block t =>
    let (params, results) := p.blockArity t
    goOn 0 (openBlock params ⟨results, [], afterEnd 0 frame.code⟩ frame frame.code) thread s
  | .loop t =>
    let (params, _) := p.blockArity t
    look (openBlock params ⟨params, [], .loop t :: frame.code⟩ frame frame.code) thread s
  | .if_ t =>
    match frame.operands with
    | .i32 c :: vs =>
      let (params, results) := p.blockArity t
      let after := afterEnd 0 frame.code
      let frame := { frame with operands := vs }
      let opened (code : List Instr) : Frame := openBlock params ⟨results, [], after⟩ frame code
      if c ≠ 0 then goOn 1 (opened frame.code) thread s
      else
        match elseBranch? 0 frame.code with
        | some code => goOn 1 (opened code) thread s
        | none => goOn 1 { frame with code := after } thread s
    | _ => .trapped stuck s
  | .else_ => closeBlock ((frame.labels.head?.map Label.target).getD []) frame thread s
  | .end_ => closeBlock frame.code frame thread s
  | .br label => branch label frame thread s
  | .brIf label =>
    match frame.operands with
    | .i32 c :: vs =>
      let frame := { frame with operands := vs }
      if c ≠ 0 then branch label frame thread s else goOn 1 frame thread s
    | _ => .trapped stuck s
  | .brTable labels default_ =>
    match frame.operands with
    | .i32 x :: vs =>
      branch (labels.getD x.toNat default_) { frame with operands := vs } thread s
    | _ => .trapped stuck s
  | .return_ => .next 0 (.returning (frame.operands.take frame.arity) thread) s
  | .call f => call p f false frame thread s
  | .callIndirect type table => callIndirect p type table false frame thread s
  | .returnCall f => call p f true frame thread s
  | .returnCallIndirect type table => callIndirect p type table true frame thread s
  | .localGet x =>
    goOn 1 { frame with operands := frame.locals.getD x .ref :: frame.operands } thread s
  | .localSet x =>
    match frame with
    | ⟨locals, v :: vs, labels, code, arity⟩ =>
      goOn 1 ⟨locals.setIfInBounds x v, vs, labels, code, arity⟩ thread s
    | _ => .trapped stuck s
  | .localTee x =>
    match frame with
    | ⟨locals, v :: vs, labels, code, arity⟩ =>
      goOn 1 ⟨locals.setIfInBounds x v, v :: vs, labels, code, arity⟩ thread s
    | _ => .trapped stuck s
  | .memoryGrow k => growMemory k frame thread s
  | .tableGrow k => growTable k frame thread s
  | .nop => goOn 0 frame thread s
  | .drop => goOn 0 { frame with operands := frame.operands.drop 1 } thread s
  | i =>
    match onState i s frame.operands with
    | .ok (vs, s) => goOn 1 { frame with operands := vs } thread s
    | .error cause => .trapped cause s

def enter (p : Program) (function : Nat) (args : List Value) (caller : Caller) (thread : Thread)
    (s : State) : Step State Code :=
  if maxDepth < thread.depth then .trapped .stackExhausted s
  else if function < p.imported.size then
    .call function args caller (thread.depth + hostCallDepth) (.returning [] thread) s
  else
    match p.functions[function - p.imported.size]? with
    | none => .trapped stuck s
    | some f =>
      .next 1 (.looking ⟨(args ++ f.locals).toArray, [], [], f.code, f.type.results.length⟩
        thread) s

def fillTable (s : State) (k : Nat) (e : ElemSegment) : Except TrapCause State := do
  match e.mode with
  | .passive => return s
  | .declared => return s.dropElem k
  | .active target offset =>
    let vs := s.elems.getD k []
    let s ← s.setElements target (bitsOf (Program.constant s.globals [] offset)) vs
    return s.dropElem k

def fillMemory (s : State) (k : Nat) (d : DataSegment) : Except TrapCause State := do
  match d.mode with
  | .active target offset =>
    let s ← s.put target (bitsOf (Program.constant s.globals [] offset)) d.bytes
    return s.dropData k
  | _ => return s

def fill (p : Program) (s : State) : Except TrapCause State := do
  let globals := p.globals.foldl (fun gs e => gs.push (Program.constant gs [] e)) #[]
  let s := { s with
    globals
    elems := p.elems.map fun e => e.items.map (Program.constant globals [])
    data := p.data.map DataSegment.bytes }
  let s ← p.elems.toList.zipIdx.foldlM (fun s (e, k) => fillTable s k e) s
  p.data.toList.zipIdx.foldlM (fun s (d, k) => fillMemory s k d) s

def make (p : Program) (tasks : List Task) (s : State) : Step State Code :=
  match tasks with
  | [] => .finished [] s
  | .memory t :: tasks =>
    let k := s.memories.size
    .growMemory 0 (t.limits.minimum * Memory.pageBytes)
      (t.limits.maximum.map (· * Memory.pageBytes))
      (.either (.growingMemory k t.limits.minimum (.making tasks))
        (.stopping (.engine "memory minimum size exceeds memory limits")))
      { s with memories := s.memories.push (.empty t.limits.maximum) }
  | .table t :: tasks =>
    let k := s.tables.size
    .growTable t.limits.minimum t.limits.maximum
      (.either
        (.growingTable k t.limits.minimum (Value.zero (ValType.ref t.element).toValueType)
          (.making tasks))
        (.stopping (.engine "table minimum size exceeds table limits")))
      { s with tables := s.tables.push ⟨#[], t.limits.maximum⟩ }
  | .fill :: tasks =>
    match fill p s with
    | .ok s => .next 0 (.making tasks) s
    | .error cause => .trapped cause s
  | .start f :: _ => .next 0 (.entering f [] .guest ⟨[], 0, 0⟩) s

def step (p : Program) (code : Code) (s : State) : Step State Code :=
  match code with
  | .running ⟨locals, operands, labels, i :: code, arity⟩ thread =>
    instr p i ⟨locals, operands, labels, code, arity⟩ thread s
  | .running frame thread => closeBlock [] frame thread s
  | .entering function args caller thread => enter p function args caller thread s
  | .looking frame thread => look frame thread s
  | .returning results ⟨callers, depth, looks⟩ =>
    match callers with
    | [] => .finished results.reverse s
    | frame :: callers =>
      goOn 0 { frame with operands := results ++ frame.operands } ⟨callers, depth - 1, looks⟩ s
  | .either _ no => .next 0 no s
  | .growingMemory k delta next => .next 1 next (s.onMemory k fun m => m.grow delta)
  | .growingTable k delta v next => .next 1 next (s.growTable k delta v)
  | .making tasks => make p tasks s
  | .stopping cause => .trapped cause s

def tasks (p : Program) : List Task :=
  p.memories.map .memory ++ p.tables.map .table ++ [.fill] ++ p.start.toList.map .start

def resume (results : List Value) : Code → Code
  | .returning _ thread => .returning results.reverse thread
  | code => code

def answer (allowed : Bool) : Code → Code
  | .either yes no => if allowed then yes else no
  | code => code

end Machine

end PluginHost.Wasm
