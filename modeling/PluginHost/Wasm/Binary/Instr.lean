import PluginHost.Wasm.Binary.Type
/-!
The binary form of instructions. Families of instructions of one shape are tables indexed by the
octet that names them.
-/
namespace PluginHost.Wasm.Binary

open Reader

def entry (what : String) (table : List α) (i : Nat) : Reader α :=
  match table[i]? with
  | some a => return a
  | none => throw (.malformed what)

def offset : Reader (Nat × Bool) := do
  match u32.run (← get) with
  | .ok (n, rest) =>
    set rest
    return (n, false)
  | .error _ => return (← u64, true)

def memArg : Reader MemArg := do
  let flags ← u32
  let memory ← if flags.testBit 6 then u32 else pure 0
  let align := if flags.testBit 6 then flags - 64 else flags
  if 64 ≤ align then throw (.malformed "alignment")
  let (offset, long) ← offset
  return ⟨align, memory, offset, long⟩

def loads : List (ValType × Nat × Bool) :=
  [(.i32, 4, false), (.i64, 8, false), (.f32, 4, false), (.f64, 8, false),
    (.i32, 1, true), (.i32, 1, false), (.i32, 2, true), (.i32, 2, false),
    (.i64, 1, true), (.i64, 1, false), (.i64, 2, true), (.i64, 2, false),
    (.i64, 4, true), (.i64, 4, false)]

def stores : List (ValType × Nat) :=
  [(.i32, 4), (.i64, 8), (.f32, 4), (.f64, 8), (.i32, 1), (.i32, 2), (.i64, 1), (.i64, 2),
    (.i64, 4)]

def intCompares : List IntCompare := [.eq, .ne, .ltS, .ltU, .gtS, .gtU, .leS, .leU, .geS, .geU]

def floatCompares : List FloatCompare := [.eq, .ne, .lt, .gt, .le, .ge]

def intUnaries : List IntUnary := [.clz, .ctz, .popcnt]

def intBinaries : List IntBinary :=
  [.add, .sub, .mul, .divS, .divU, .remS, .remU, .and, .or, .xor, .shl, .shrS, .shrU, .rotl, .rotr]

def floatUnaries : List FloatUnary := [.abs, .neg, .ceil, .floor, .trunc, .nearest, .sqrt]

def floatBinaries : List FloatBinary := [.add, .sub, .mul, .div, .min, .max, .copysign]

def conversions : List Conversion :=
  [.wrap, .truncate .w32 .w32 true false, .truncate .w32 .w32 false false,
    .truncate .w32 .w64 true false, .truncate .w32 .w64 false false, .extendS, .extendU,
    .truncate .w64 .w32 true false, .truncate .w64 .w32 false false,
    .truncate .w64 .w64 true false, .truncate .w64 .w64 false false,
    .convert .w32 .w32 true, .convert .w32 .w32 false, .convert .w32 .w64 true,
    .convert .w32 .w64 false, .demote, .convert .w64 .w32 true, .convert .w64 .w32 false,
    .convert .w64 .w64 true, .convert .w64 .w64 false, .promote, .toBits .w32, .toBits .w64,
    .ofBits .w32, .ofBits .w64]

def numeric : List Instr :=
  [[.intEqz .w32], intCompares.map (.intCompare .w32), [.intEqz .w64],
    intCompares.map (.intCompare .w64), floatCompares.map (.floatCompare .w32),
    floatCompares.map (.floatCompare .w64), intUnaries.map (.intUnary .w32),
    intBinaries.map (.intBinary .w32), intUnaries.map (.intUnary .w64),
    intBinaries.map (.intBinary .w64), floatUnaries.map (.floatUnary .w32),
    floatBinaries.map (.floatBinary .w32), floatUnaries.map (.floatUnary .w64),
    floatBinaries.map (.floatBinary .w64), conversions.map .convert,
    [.intUnary .w32 (.extendS 8), .intUnary .w32 (.extendS 16), .intUnary .w64 (.extendS 8),
      .intUnary .w64 (.extendS 16), .intUnary .w64 (.extendS 32)]].flatten

def saturating : List Conversion :=
  [.truncate .w32 .w32 true true, .truncate .w32 .w32 false true,
    .truncate .w32 .w64 true true, .truncate .w32 .w64 false true,
    .truncate .w64 .w32 true true, .truncate .w64 .w32 false true,
    .truncate .w64 .w64 true true, .truncate .w64 .w64 false true]

def bulk : Reader Instr := do
  let op ← u32
  if op < 8 then return .convert (← entry "instruction" saturating op)
  match op with
  | 8 =>
    let data ← u32
    return .memoryInit data (← u32)
  | 9 => return .dataDrop (← u32)
  | 10 =>
    let target ← u32
    return .memoryCopy target (← u32)
  | 11 => return .memoryFill (← u32)
  | 12 =>
    let elem ← u32
    return .tableInit elem (← u32)
  | 13 => return .elemDrop (← u32)
  | 14 =>
    let target ← u32
    return .tableCopy target (← u32)
  | 15 => return .tableGrow (← u32)
  | 16 => return .tableSize (← u32)
  | 17 => return .tableFill (← u32)
  | 18 => return .memoryDiscard (← u32)
  | 19 | 20 => return .typed [.i64, .i64, .i64, .i64] [.i64, .i64] (some .wideArithmetic)
  | 21 | 22 => return .typed [.i64, .i64] [.i64, .i64] (some .wideArithmetic)
  | _ => throw (.malformed "instruction")

def castTypes : Reader (Nat × RefType × RefType) := do
  let flags := (← octet).toNat
  if 3 < flags then throw (.malformed "cast flags")
  let label ← u32
  let source ← heapType
  let target ← heapType
  return (label, ⟨flags.testBit 0, source⟩, ⟨flags.testBit 1, target⟩)

def aggregate : Reader Aggregate := do
  let two (f : Nat → Nat → Aggregate) : Reader Aggregate := do
    let a ← u32
    return f a (← u32)
  match ← u32 with
  | 0 => return .structNew (← u32)
  | 1 => return .structNewDefault (← u32)
  | 2 => two fun t f => .structGet t f none
  | 3 => two fun t f => .structGet t f (some true)
  | 4 => two fun t f => .structGet t f (some false)
  | 5 => two .structSet
  | 6 => return .arrayNew (← u32)
  | 7 => return .arrayNewDefault (← u32)
  | 8 => two .arrayNewFixed
  | 9 => two .arrayNewData
  | 10 => two .arrayNewElem
  | 11 => return .arrayGet (← u32) none
  | 12 => return .arrayGet (← u32) (some true)
  | 13 => return .arrayGet (← u32) (some false)
  | 14 => return .arraySet (← u32)
  | 15 => return .arrayLen
  | 16 => return .arrayFill (← u32)
  | 17 => two .arrayCopy
  | 18 => two .arrayInitData
  | 19 => two .arrayInitElem
  | 20 => return .refTest ⟨false, ← heapType⟩
  | 21 => return .refTest ⟨true, ← heapType⟩
  | 22 => return .refCast ⟨false, ← heapType⟩
  | 23 => return .refCast ⟨true, ← heapType⟩
  | 24 =>
    let (label, source, target) ← castTypes
    return .brOnCast label source target false
  | 25 =>
    let (label, source, target) ← castTypes
    return .brOnCast label source target true
  | 26 => return .anyConvertExternal
  | 27 => return .externalConvertAny
  | 28 => return .refI31 false
  | 29 => return .i31Get true
  | 30 => return .i31Get false
  | _ => throw (.malformed "instruction")

def atomicShapes : List (ValType × Nat) :=
  [(.i32, 2), (.i64, 3), (.i32, 0), (.i32, 1), (.i64, 0), (.i64, 1), (.i64, 2)]

def memoryAtomic (op : Nat) : Reader Instr := do
  let access (natural : Nat) (params results : List ValType) : Reader Instr := do
    return .access ⟨← memArg, natural, true, params, results⟩ (some .threads)
  match op with
  | 0 => access 2 [.i32] [.i32]
  | 1 => access 2 [.i32, .i64] [.i32]
  | 2 => access 3 [.i64, .i64] [.i32]
  | 3 =>
    if (← octet) ≠ 0 then throw (.malformed "fence")
    return .typed [] [] (some .threads)
  | _ =>
    if op < 0x10 then throw (.malformed "instruction")
    let (type, natural) ← entry "instruction" atomicShapes ((op - 0x10) % 7)
    match (op - 0x10) / 7 with
    | 0 => access natural [] [type]
    | 1 => access natural [type] []
    | 2 | 3 | 4 | 5 | 6 | 7 => access natural [type] [type]
    | 8 => access natural [type, type] [type]
    | _ => throw (.malformed "instruction")

/-- The accesses to variables, in order; the five ways to combine follow each other. -/
def globalAtomics : List Atomic :=
  [.get none, .set, .combine, .combine, .combine, .combine, .combine, .exchange, .compareExchange]

def tableAtomics : List Atomic := [.get none, .set, .exchange, .compareExchange]

def fieldAtomics : List Atomic :=
  [.get none, .get (some true), .get (some false), .set, .combine, .combine, .combine, .combine,
    .combine, .exchange, .compareExchange]

def ordering : Reader Unit := do
  if 1 < (← octet).toNat then throw (.malformed "ordering")

def atomic : Reader Instr := do
  let op ← u32
  let access (table : List Atomic) (first : Nat) (place : Reader SharedPlace) : Reader Instr := do
    let a ← entry "instruction" table (op - first)
    ordering
    return .atomic a (← place)
  if op < 0x4F then memoryAtomic op
  else if op < 0x58 then access globalAtomics 0x4F (.global <$> u32)
  else if op < 0x5C then access tableAtomics 0x58 (.table <$> u32)
  else if op < 0x67 then
    access fieldAtomics 0x5C (do
      let type ← u32
      return .field type (← u32))
  else if op < 0x72 then access fieldAtomics 0x67 (.element <$> u32)
  else if op = 0x72 then return .aggregate (.refI31 true)
  else throw (.malformed "instruction")

def handler : Reader Handler := do
  match (← octet).toNat with
  | 0 =>
    let tag ← u32
    return ⟨tag, some (← u32)⟩
  | 1 => return ⟨← u32, none⟩
  | _ => throw (.malformed "handler")

def switching? (op : Nat) : Reader (Option Switching) := do
  match op with
  | 0xE0 => return some (.new (← u32))
  | 0xE1 =>
    let source ← u32
    return some (.bind source (← u32))
  | 0xE2 => return some (.suspend (← u32))
  | 0xE3 =>
    let type ← u32
    return some (.resume type (← list 10000 handler))
  | 0xE4 =>
    let type ← u32
    let tag ← u32
    return some (.resumeThrow type tag (← list 10000 handler))
  | 0xE5 =>
    let type ← u32
    return some (.switch type (← u32))
  | _ => return none

inductive VectorShape where
  | unary
  | binary
  | ternary
  | shift
  | test
  | splat (type : ValType)
  | extract (type : ValType) (lanes : Nat)
  | replace (type : ValType) (lanes : Nat)
  | load (natural : Nat)
  | store
  | loadLane (natural : Nat)
  | storeLane (natural : Nat)
  | constant
  | shuffle
  | unused
  deriving DecidableEq, Inhabited

def run (n : Nat) (s : VectorShape) : List VectorShape := List.replicate n s

/-- Shapes of the instructions on vectors, in the order of their numbers. -/
def vectorShapes : List VectorShape :=
  [[.load 4], run 6 (.load 3),
    [.load 0, .load 1, .load 2, .load 3, .store, .constant, .shuffle, .binary, .splat .i32,
      .splat .i32, .splat .i32, .splat .i64, .splat .f32, .splat .f64, .extract .i32 16,
      .extract .i32 16, .replace .i32 16, .extract .i32 8, .extract .i32 8, .replace .i32 8,
      .extract .i32 4, .replace .i32 4, .extract .i64 2, .replace .i64 2, .extract .f32 4,
      .replace .f32 4, .extract .f64 2, .replace .f64 2],
    run 42 .binary, [.unary], run 4 .binary,
    [.ternary, .test, .loadLane 0, .loadLane 1, .loadLane 2, .loadLane 3, .storeLane 0,
      .storeLane 1, .storeLane 2, .storeLane 3, .load 2, .load 3, .unary, .unary, .unary, .unary,
      .unary, .test, .test, .binary, .binary, .unary, .unary, .unary, .unary, .shift, .shift,
      .shift],
    run 6 .binary, [.unary, .unary], run 4 .binary, [.unary, .binary], run 4 .unary,
    [.unary, .unary, .binary, .test, .test, .binary, .binary], run 4 .unary, run 3 .shift,
    run 6 .binary, [.unary], run 5 .binary, [.unused], run 5 .binary,
    [.unary, .unary, .unused, .test, .test, .unused, .unused], run 4 .unary, run 3 .shift,
    [.binary, .unused, .unused, .binary, .unused, .unused, .unused], run 6 .binary, [.unused],
    run 4 .binary, [.unary, .unary, .unused, .test, .test, .unused, .unused], run 4 .unary,
    run 3 .shift, [.binary, .unused, .unused, .binary, .unused, .unused, .unused], run 11 .binary,
    [.unary, .unary, .unused, .unary], run 8 .binary, [.unary, .unary, .unused, .unary],
    run 8 .binary, run 8 .unary, [.binary], run 4 .unary, run 8 .ternary, run 6 .binary,
    [.ternary]].flatten

def lane (lanes : Nat) : Reader Unit := do
  if lanes ≤ (← octet).toNat then throw (.malformed "lane index")

def vector : Reader Instr := do
  match ← entry "instruction" vectorShapes (← u32) with
  | .unary => return .typed [.v128] [.v128] none
  | .binary => return .typed [.v128, .v128] [.v128] none
  | .ternary => return .typed [.v128, .v128, .v128] [.v128] none
  | .shift => return .typed [.v128, .i32] [.v128] none
  | .test => return .typed [.v128] [.i32] none
  | .splat t => return .typed [t] [.v128] none
  | .extract t lanes =>
    lane lanes
    return .typed [.v128] [t] none
  | .replace t lanes =>
    lane lanes
    return .typed [.v128, t] [.v128] none
  | .load natural => return .access ⟨← memArg, natural, false, [], [.v128]⟩ none
  | .store => return .access ⟨← memArg, 4, false, [.v128], []⟩ none
  | .loadLane natural =>
    let arg ← memArg
    lane (16 / twoTo natural)
    return .access ⟨arg, natural, false, [.v128], [.v128]⟩ none
  | .storeLane natural =>
    let arg ← memArg
    lane (16 / twoTo natural)
    return .access ⟨arg, natural, false, [.v128], []⟩ none
  | .constant => return .const (.v128 (BitVec.ofNat 128 (← fixed 16)))
  | .shuffle =>
    let _ ← times (lane 32) [] 16
    return .typed [.v128, .v128] [.v128] none
  | .unused => throw (.malformed "instruction")

def catchClause : Reader Catch := do
  match (← octet).toNat with
  | 0 =>
    let tag ← u32
    return ⟨some tag, false, ← u32⟩
  | 1 =>
    let tag ← u32
    return ⟨some tag, true, ← u32⟩
  | 2 => return ⟨none, false, ← u32⟩
  | 3 => return ⟨none, true, ← u32⟩
  | _ => throw (.malformed "catch clause")

def reference (op : Nat) : Reader Instr := do
  match op with
  | 0xD0 => return .refNull (← heapType)
  | 0xD1 => return .refIsNull
  | 0xD2 => return .refFunc (← u32)
  | 0xD3 => return .refEq
  | 0xD4 => return .refAsNonNull
  | 0xD5 => return .brOnNull (← u32)
  | 0xD6 => return .brOnNonNull (← u32)
  | _ => throw (.malformed "instruction")

def control? (op : Nat) : Reader (Option Instr) := do
  match op with
  | 0x00 => return some .unreachable
  | 0x01 => return some .nop
  | 0x02 => return some (.block (← blockType))
  | 0x03 => return some (.loop (← blockType))
  | 0x04 => return some (.if_ (← blockType))
  | 0x05 => return some .else_
  | 0x06 => return some (.try_ (← blockType))
  | 0x07 => return some (.catch_ (← u32))
  | 0x08 => return some (.throw_ (← u32))
  | 0x09 => return some (.rethrow (← u32))
  | 0x0A => return some .throwRef
  | 0x0B => return some .end_
  | 0x0C => return some (.br (← u32))
  | 0x0D => return some (.brIf (← u32))
  | 0x0E =>
    let labels ← list 7654321 u32
    return some (.brTable labels (← u32))
  | 0x0F => return some .return_
  | 0x10 => return some (.call (← u32))
  | 0x11 =>
    let type ← u32
    return some (.callIndirect type (← u32))
  | 0x12 => return some (.returnCall (← u32))
  | 0x13 =>
    let type ← u32
    return some (.returnCallIndirect type (← u32))
  | 0x14 => return some (.callRef (← u32))
  | 0x15 => return some (.returnCallRef (← u32))
  | 0x18 => return some (.delegate (← u32))
  | 0x19 => return some .catchAll
  | 0x1A => return some .drop
  | 0x1B => return some (.select none)
  | 0x1C =>
    if (← u32) ≠ 1 then throw (.malformed "number of types")
    return some (.select (some (← valType)))
  | 0x1F =>
    let type ← blockType
    return some (.tryTable type (← list 10000 catchClause))
  | _ => return none

def access? (op : Nat) : Reader (Option Instr) := do
  match op with
  | 0x20 => return some (.localGet (← u32))
  | 0x21 => return some (.localSet (← u32))
  | 0x22 => return some (.localTee (← u32))
  | 0x23 => return some (.globalGet (← u32))
  | 0x24 => return some (.globalSet (← u32))
  | 0x25 => return some (.tableGet (← u32))
  | 0x26 => return some (.tableSet (← u32))
  | 0x3F => return some (.memorySize (← u32))
  | 0x40 => return some (.memoryGrow (← u32))
  | 0x41 => return some (.const (.i32 (UInt32.ofInt (← signed 32))))
  | 0x42 => return some (.const (.i64 (UInt64.ofInt (← signed 64))))
  | 0x43 => return some (.const (.f32 (UInt32.ofNat (← fixed 4))))
  | 0x44 => return some (.const (.f64 (UInt64.ofNat (← fixed 8))))
  | _ =>
    if 0x28 ≤ op ∧ op ≤ 0x35 then
      let (type, octets, signed) ← entry "instruction" loads (op - 0x28)
      return some (.load type octets signed (← memArg))
    else if 0x36 ≤ op ∧ op ≤ 0x3E then
      let (type, octets) ← entry "instruction" stores (op - 0x36)
      return some (.store type octets (← memArg))
    else return none

def instr : Reader Instr := do
  let op := (← octet).toNat
  match ← control? op with
  | some i => return i
  | none =>
    match ← access? op with
    | some i => return i
    | none =>
      match op with
      | 0xFB => return .aggregate (← aggregate)
      | 0xFC => bulk
      | 0xFD => vector
      | 0xFE => atomic
      | _ =>
        if op < 0x45 then throw (.malformed "instruction")
        else if op < 0xC5 then entry "instruction" numeric (op - 0x45)
        else
          match ← switching? op with
          | some i => return .switching i
          | none => reference op

def constExprFrom (done : List Instr) : (bound : Nat) → Reader ConstExpr
  | 0 => throw .ends
  | bound + 1 => do
    match ← instr with
    | .end_ => return done.reverse
    | i => constExprFrom (i :: done) bound

def constExpr : Reader ConstExpr := do constExprFrom [] ((← get).length + 1)

end PluginHost.Wasm.Binary
