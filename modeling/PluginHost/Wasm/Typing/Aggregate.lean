import PluginHost.Wasm.Typing.Stack
/-!
Typing of instructions on structures and arrays, and of the accesses of threads to what lies outside
memories.
-/
namespace PluginHost.Wasm.Typing.Typer

variable (s : Scope)

def readable (f : FieldType) (signed : Option Bool) : Typer Unit :=
  if f.storage.isPacked = signed.isSome then return else fail "sign of a field that has none"

def mutable (f : FieldType) : Typer Unit :=
  if f.mutable then return else fail "field is immutable"

def structField (type field : Nat) : Typer FieldType := do
  find "field" (← structType s type).toArray field

def mutableField (type field : Nat) : Typer FieldType := do
  let f ← structField s type field
  mutable f
  return f

def mutableElement (type : Nat) : Typer FieldType := do
  let f ← arrayType s type
  mutable f
  return f

def fromData (f : FieldType) : Typer Unit :=
  match f.storage with
  | .value (.ref _) => fail "array of references from data"
  | _ => return

def fromElem (f : FieldType) (elem : Nat) : Typer Unit := do
  match f.storage with
  | .value (.ref r) =>
    if ¬ refMatches s.types (← elemType s elem) r then fail "type mismatch"
  | _ => fail "array of numbers from references"

def defaultable (f : FieldType) : Typer Unit :=
  if f.storage.unpacked.isDefaultable then return else fail "field without default"

def popCast (r : RefType) : Typer RefType := do
  let r := s.types.ref r
  if let .defined i := r.heap then check (rule (i < s.types.entries.size) "unknown type")
  let _ ← pop s (.ref ⟨true, topHeap s.types r.heap⟩)
  return r

def difference (a b : RefType) : RefType := if b.nullable then { a with nullable := false } else a

def convertRef (source target : HeapKind) : Typer Unit := do
  match ← popKind s source with
  | .someRef _ => pushOperand (.someRef (some target))
  | .known r => push (.ref ⟨r.nullable, .kind target (heapShared s.types r.heap)⟩)

def aggregate (a : Aggregate) : Typer Unit := do
  check (need s.features .gc)
  let nullable (t : Nat) : ValType := refTo s true t
  let firm (t : Nat) : ValType := refTo s false t
  match a with
  | .structNew t =>
    let fs ← structType s t
    sig s (fs.map fun f => f.storage.unpacked) [firm t]
  | .structNewDefault t =>
    (← structType s t).forM defaultable
    push (firm t)
  | .structGet t field signed =>
    let f ← structField s t field
    readable f signed
    sig s [nullable t] [f.storage.unpacked]
  | .structSet t field =>
    let f ← mutableField s t field
    sig s [nullable t, f.storage.unpacked] []
  | .arrayNew t =>
    let f ← arrayType s t
    sig s [f.storage.unpacked, .i32] [firm t]
  | .arrayNewDefault t =>
    defaultable (← arrayType s t)
    sig s [.i32] [firm t]
  | .arrayNewFixed t count =>
    let f ← arrayType s t
    popMany s f.storage.unpacked count
    push (firm t)
  | .arrayNewData t data =>
    fromData (← arrayType s t)
    dataSegment s data
    sig s [.i32, .i32] [firm t]
  | .arrayNewElem t elem =>
    fromElem s (← arrayType s t) elem
    sig s [.i32, .i32] [firm t]
  | .arrayGet t signed =>
    let f ← arrayType s t
    readable f signed
    sig s [nullable t, .i32] [f.storage.unpacked]
  | .arraySet t =>
    let f ← mutableElement s t
    sig s [nullable t, .i32, f.storage.unpacked] []
  | .arrayLen =>
    let _ ← popKind s .array
    push .i32
  | .arrayFill t =>
    let f ← mutableElement s t
    sig s [nullable t, .i32, f.storage.unpacked, .i32] []
  | .arrayCopy target source =>
    let f ← mutableElement s target
    let g ← arrayType s source
    match f.storage, g.storage with
    | .value a, .value b => if ¬ valMatches s.types b a then fail "type mismatch"
    | a, b => if a ≠ b then fail "type mismatch"
    sig s [nullable target, .i32, nullable source, .i32, .i32] []
  | .arrayInitData t data =>
    fromData (← mutableElement s t)
    dataSegment s data
    sig s [nullable t, .i32, .i32, .i32] []
  | .arrayInitElem t elem =>
    fromElem s (← mutableElement s t) elem
    sig s [nullable t, .i32, .i32, .i32] []
  | .refTest r =>
    let _ ← popCast s r
    push .i32
  | .refCast r => push (.ref (← popCast s r))
  | .brOnCast label source target onFail =>
    let source ← namedRef s source
    let target ← namedRef s target
    if ¬ refMatches s.types target source then fail "type mismatch: cast to another family"
    let rest := difference source target
    let (taken, kept) := if onFail then (rest, target) else (target, rest)
    let (types, last) ← lastLabelType label
    if ¬ valMatches s.types (.ref taken) last then fail "type mismatch"
    let _ ← pop s (.ref source)
    sig s types types
    push (.ref kept)
  | .anyConvertExternal => convertRef s .external .any
  | .externalConvertAny => convertRef s .any .external
  | .refI31 shared =>
    if shared then check (need s.features .sharedEverything)
    sig s [.i32] [.ref ⟨false, .kind .i31 shared⟩]
  | .i31Get _ =>
    let _ ← popKind s .i31
    push .i32

def isAtomic (k : HeapKind) (shared : Bool) (t : ValType) : Bool :=
  t = .i32 || t = .i64 || (match t with
    | .ref _ => valMatches s.types t (.ref ⟨true, .kind k shared⟩)
    | _ => false)

def atomicKind : Atomic → HeapKind
  | .compareExchange => .eq
  | _ => .any

def allow (a : Atomic) (shared : Bool) (t : ValType) : Typer Unit := do
  let fits : Bool := match a with
    | .combine => t = .i32 || t = .i64
    | a => isAtomic s (atomicKind a) shared t
  if ¬ fits then fail "invalid type of an atomic access"

def allowField (a : Atomic) (f : FieldType) : Typer Unit := do
  match a, f.storage with
  | .get (some _), _ => return
  | .set, .i8 | .set, .i16 => return
  | a, .value t => allow s a true t
  | _, _ => fail "invalid type of an atomic access"

def access (a : Atomic) (place : List ValType) (t : ValType) : Typer Unit :=
  match a with
  | .get _ => sig s place [t]
  | .set => sig s (place ++ [t]) []
  | .combine | .exchange => sig s (place ++ [t]) [t]
  | .compareExchange => sig s (place ++ [t, t]) [t]

def atomic (a : Atomic) (place : SharedPlace) : Typer Unit := do
  check (need s.features .sharedEverything)
  let onField (f : FieldType) (operands : List ValType) : Typer Unit := do
    match a with
    | .get signed => readable f signed
    | _ => mutable f
    allowField s a f
    access s a operands f.storage.unpacked
  match place with
  | .global i =>
    let g ← globalType s i
    if a = .set ∧ ¬ g.mutable then fail "global is immutable"
    allow s a false g.value
    access s a [] g.value
  | .table i =>
    let t ← tableType s i
    allow s a true (.ref t.element)
    access s a [tableAddress t] (.ref t.element)
  | .field type field => do onField (← structField s type field) [refTo s true type]
  | .element type => do onField (← arrayType s type) [refTo s true type, .i32]

end PluginHost.Wasm.Typing.Typer
