import PluginHost.Wasm.Typing.Types
/-!
When a value of one type can stand where another type is asked for, and which types a module may
name at all. Types are named by identity.
-/
namespace PluginHost.Wasm.Typing

def kindOf : Shape → HeapKind
  | .function _ => .function
  | .struct _ => .struct
  | .array _ => .array
  | .continuation _ => .continuation

def kindBelow (a b : HeapKind) : Bool :=
  a = b ||
  match a with
  | .none => b = .any || b = .eq || b = .i31 || b = .struct || b = .array
  | .i31 | .struct | .array => b = .eq || b = .any
  | .eq => b = .any
  | .noFunction => b = .function
  | .noExternal => b = .external
  | .noException => b = .exception
  | .noContinuation => b = .continuation
  | _ => false

def topKind : HeapKind → HeapKind
  | .function | .noFunction => .function
  | .external | .noExternal => .external
  | .exception | .noException => .exception
  | .continuation | .noContinuation => .continuation
  | .any | .eq | .i31 | .struct | .array | .none => .any

def nullOf? : HeapKind → Option HeapKind
  | .none => some .any
  | .noFunction => some .function
  | .noContinuation => some .continuation
  | _ => none

def maxDepth : Nat := 63

variable (types : Types)

def descends : (steps i j : Nat) → Bool
  | 0, i, j => i == j
  | steps + 1, i, j =>
    i == j ||
    match (types.entries[i]?).bind SubType.parent with
    | some p => descends steps p j
    | none => false

def refines (i j : Nat) : Bool := descends types (maxDepth + 1) i j

def ancestors : (bound i : Nat) → Nat
  | 0, _ => 0
  | bound + 1, i =>
    match (types.entries[i]?).bind SubType.parent with
    | some p => ancestors bound p + 1
    | none => 0

def heapShared : HeapType → Bool
  | .kind _ shared => shared
  | .defined i => ((types.body? i).map CompositeType.shared).getD false

def valShared : ValType → Bool
  | .ref r => heapShared types r.heap
  | _ => true

def topHeap (h : HeapType) : HeapType :=
  match h with
  | .kind k shared => .kind (topKind k) shared
  | .defined i =>
    match types.body? i with
    | some b => .kind (topKind (kindOf b.shape)) b.shared
    | none => h

def heapMatches (a b : HeapType) : Bool :=
  match a, b with
  | .kind k s, .kind l t => s = t && kindBelow k l
  | .defined i, .defined j => refines types i j
  | .defined i, .kind l t =>
    match types.body? i with
    | some body => body.shared = t && kindBelow (kindOf body.shape) l
    | none => false
  | .kind k s, .defined j =>
    match types.body? j with
    | some body => body.shared = s && nullOf? k = some (topKind (kindOf body.shape))
    | none => false

def refMatches (a b : RefType) : Bool :=
  (b.nullable || ¬ a.nullable) && heapMatches types a.heap b.heap

def valMatches (a b : ValType) : Bool :=
  match a, b with
  | .ref r, .ref q => refMatches types r q
  | a, b => a = b

def valsMatch (as bs : List ValType) : Bool :=
  as.length = bs.length && (as.zip bs).all fun (a, b) => valMatches types a b

def fieldMatches (f g : FieldType) : Bool :=
  (g.mutable || ¬ f.mutable) &&
  match f.storage, g.storage with
  | .value s, .value t => valMatches types s t
  | s, t => s = t

def bodyMatches (a b : CompositeType) : Bool :=
  a.shared = b.shared &&
  match a.shape, b.shape with
  | .function f, .function h =>
    valsMatch types h.params f.params && valsMatch types f.results h.results
  | .struct fs, .struct gs =>
    gs.length ≤ fs.length && (fs.zip gs).all fun (f, g) => fieldMatches types f g
  | .array f, .array g => fieldMatches types f g
  | .continuation p, .continuation q => refines types p q
  | _, _ => false

/-! ### Types that a module may name -/

def kindFeatures : HeapKind → List Feature
  | .function | .external => []
  | .exception | .noException => [.exceptions]
  | .continuation | .noContinuation => [.stackSwitching]
  | _ => [.gc]

def checkHeap (features : Features) (h : HeapType) : Check := do
  match h with
  | .kind k shared =>
    (kindFeatures k).forM (need features)
    if shared then need features .sharedEverything
  | .defined i =>
    rule (i < types.entries.size) "unknown type"
    need features .typedReferences

def checkRef (features : Features) (r : RefType) : Check := do
  checkHeap types features r.heap
  if ¬ r.nullable then need features .typedReferences

def checkVal (features : Features) : ValType → Check
  | .ref r => checkRef types features r
  | _ => return

def checkInner (features : Features) (shared : Bool) (t : ValType) : Check := do
  checkVal types features t
  rule (¬ shared || valShared types t) "shared composite type must contain shared types"

def checkField (features : Features) (shared : Bool) (f : FieldType) : Check :=
  match f.storage with
  | .value t => checkInner types features shared t
  | _ => return

def checkBody (features : Features) (c : CompositeType) : Check := do
  if c.shared then need features .sharedEverything
  match c.shape with
  | .function f =>
    f.params.forM (checkInner types features c.shared)
    f.results.forM (checkInner types features c.shared)
  | .struct fs =>
    need features .gc
    fs.forM (checkField types features c.shared)
  | .array f =>
    need features .gc
    checkField types features c.shared f
  | .continuation i =>
    need features .stackSwitching
    rule (types.function? i).isSome "non-function type"

def checkType (features : Features) (t : SubType) : Check := do
  if ¬ t.final ∨ t.parent.isSome then need features .gc
  checkBody types features t.body
  match t.parent with
  | none => return
  | some p =>
    match types.entries[p]? with
    | some parent =>
      rule (¬ parent.final) "sub type cannot have a final super type"
      rule (bodyMatches types t.body parent.body) "sub type must match super type"
      rule (ancestors types (maxDepth + 1) p < maxDepth) "sub type hierarchy too deep"
    | none => throw (.invalid "unknown type")

def checkLimits (l : Limits) : Check :=
  rule (l.maximum.all (l.minimum ≤ ·)) "size minimum must not be greater than maximum"

def pageLog (t : MemType) : Nat := t.pageLog.getD 16

def checkMemory (features : Features) (t : MemType) : Check := do
  if t.pageLog.isSome then
    need features .customPageSizes
    rule (pageLog t = 0 || pageLog t = 16) "invalid custom page size"
  if t.wide then need features .memory64
  checkLimits t.limits
  let most := twoTo ((if t.wide then 64 else 32) - pageLog t)
  rule (t.limits.minimum ≤ most && t.limits.maximum.all (· ≤ most)) "memory size out of bounds"
  if t.shared then
    need features .threads
    rule t.limits.maximum.isSome "shared memory must have maximum size"

def checkTable (features : Features) (t : TableType) : Check := do
  checkRef types features t.element
  if t.wide then need features .memory64
  checkLimits t.limits
  if t.shared then
    need features .sharedEverything
    rule (heapShared types t.element.heap) "shared tables must have a shared element type"

def checkGlobal (features : Features) (t : GlobalType) : Check := do
  checkVal types features t.value
  if t.shared then
    need features .sharedEverything
    rule (valShared types t.value) "shared globals must have a shared value type"

end PluginHost.Wasm.Typing
