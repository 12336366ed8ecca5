import PluginHost.Proofs.Kit
/-!
The blocks of a guest that uses the kit, in whatever order it does so. Each output gets a block of
its own, which keeps its octets until it is released and can be released until then; and what is
live is what was allocated and not released.
-/
namespace PluginHost
open GuestKit

namespace GuestKit

abbrev Octets := { bytes : Bytes // bytes.length ≤ Buffer.maxLength }

def octetValues (bytes : Bytes) : List Value := bytes.map fun b => .i32 b.toUInt32

inductive Use where
  | alloc (size : UInt32)
  | dealloc (ptr size : UInt32)
  | writeOutput (bytes : Octets)
  | pluginFunction (handler : Bytes → Octets) (ptr len : UInt32)
  | readInput (ptr len : UInt32)
  | readPacked (word : UInt64)

namespace Use

def routine : Use → Routine (List Value)
  | alloc size => Entry.alloc [.i32 size]
  | dealloc ptr size => Entry.dealloc [.i32 ptr, .i32 size]
  | writeOutput bytes => do return [.i64 (← GuestKit.writeOutput bytes)]
  | pluginFunction handler ptr len =>
    Entry.octets (fun input => return handler input) [.i32 ptr, .i32 len]
  | readInput ptr len => do return octetValues (← GuestKit.readInput ptr len)
  | readPacked word => do return octetValues (← GuestKit.readPacked word)

end Use

/-! No use takes more than four steps before it ends. -/
section Brief
open Routine
variable {k : Nat}

theorem alloc_brief (size : UInt32) : (alloc size).Brief (k + 2) := by
  unfold alloc
  split
  · exact .allocate fun _ => .done _
  · exact .done _

theorem dealloc_brief (ptr size : UInt32) : (dealloc ptr size).Brief (k + 1) := by
  unfold dealloc
  split
  · exact .release (.done _)
  · exact .done _

theorem readInput_brief (ptr len : UInt32) : (readInput ptr len).Brief (k + 1) := by
  unfold readInput
  split
  · exact .load fun _ => .done _
  · exact .done _

theorem writeOutput_brief (bytes : Bytes) : (writeOutput bytes).Brief (k + 3) := by
  unfold writeOutput
  split
  · exact .done _
  · refine Brief.bind (k := k + 2) (j := 1) (alloc_brief _) fun i ptr => ?_
    split
    · split
      · exact .abort
      · exact .done _
    · exact .store (.done _)

theorem Use.brief (u : Use) : u.routine.Brief 4 := by
  cases u with
  | alloc size => exact Brief.bind (j := 0) (alloc_brief (k := 2) size) fun _ _ => .done _
  | dealloc ptr size =>
    exact Brief.bind (j := 0) (dealloc_brief (k := 3) ptr size) fun _ _ => .done _
  | writeOutput bytes =>
    exact Brief.bind (j := 0) (writeOutput_brief (k := 1) bytes) fun _ _ => .done _
  | pluginFunction handler ptr len =>
    refine Brief.bind (k := 4) (j := 0) ?_ fun _ _ => .done _
    exact Brief.bind (k := 1) (j := 3) (readInput_brief (k := 0) ptr len)
      fun i input => writeOutput_brief (handler input)
  | readInput ptr len =>
    exact Brief.bind (j := 0) (readInput_brief (k := 3) ptr len) fun _ _ => .done _
  | readPacked word =>
    exact Brief.bind (j := 0) (readInput_brief (k := 3) _ _) fun _ _ => .done _

end Brief

end GuestKit

namespace Stage
variable {steps : Nat} {H : Type}

/-- How a use of the kit ends, and the stage after it. It is given more steps than it can take. -/
def use (n : Nat) (s : Stage (Build.machine steps) H) (u : Use) :
    Ending × Stage (Build.machine steps) H := execute (n + 5) (Build.Code.running 0 u.routine) s

def uses (n : Nat) (s : Stage (Build.machine steps) H) (us : List Use) :
    Stage (Build.machine steps) H := us.foldl (fun s u => (s.use n u).2) s

def Lacks (s : Stage (Build.machine steps) H) (length : Nat) : Prop :=
  s.module.allocator.Lacks s.grants s.guest length

/-- A block is there with its octets: whoever has its word reads them, and it can be released, which
releases it and nothing else. -/
structure Stands (n : Nat) (s : Stage (Build.machine steps) H) (b : Block) (bytes : Bytes) :
    Prop where
  live : b.stretch ∈ s.guest.live
  ending_read : ∀ word, Block.unpack word = b →
    (s.use n (.readPacked word)).1 = .ok (octetValues bytes)
  left_read : ∀ word, Block.unpack word = b → (s.use n (.readPacked word)).2.guest = s.guest
  ending_release : (s.use n (.dealloc b.ptr b.len)).1 = .ok []
  left_release : (s.use n (.dealloc b.ptr b.len)).2.guest =
    { s.guest with live := s.guest.live.erase b.stretch }
  once : b.stretch ∉ s.guest.live.erase b.stretch

/-- A block was made for octets. It is new, of their number, and it stands there with them until it
is released, whatever else is done. -/
structure Delivers (n : Nat) (s s' : Stage (Build.machine steps) H) (b : Block) (bytes : Bytes) :
    Prop where
  length : b.len.toNat = bytes.length
  fresh : s.guest.Gains b.stretch s'.guest
  lasting : ∀ us, (∀ u ∈ us, u ≠ .dealloc b.ptr b.len) → (s'.uses n us).Stands n b bytes

structure PutsOut (n : Nat) (s : Stage (Build.machine steps) H) (u : Use) (bytes : Bytes) :
    Prop where
  zero_iff : (s.use n u).1 = .ok [.i64 0] ↔ bytes = []
  nothing : bytes = [] → (s.use n u).2.guest = s.guest
  block : bytes ≠ [] →
    (∃ word, (s.use n u).1 = .ok [.i64 word] ∧
      s.Delivers n (s.use n u).2 (Block.unpack word) bytes) ∨
    (s.use n u).1 = .error (.trapped .unreachable) ∧ s.Lacks bytes.length ∧
      s.guest.Stays (s.use n u).2.guest

def Reads (n : Nat) (s : Stage (Build.machine steps) H) (u : Use) (ptr len : UInt32) : Prop :=
  ∀ input, s.guest.input? ptr len = some input →
    (s.use n u).1 = .ok (octetValues input) ∧ (s.use n u).2.guest = s.guest

def Right (n : Nat) (s : Stage (Build.machine steps) H) (u : Use) : Prop :=
  match u with
  | .alloc size =>
    if 0 < signed size then
      (∃ ptr, ptr ≠ 0 ∧ (s.use n u).1 = .ok [.i32 ptr] ∧
        s.guest.Gains (Block.mk ptr size).stretch (s.use n u).2.guest) ∨
      (s.use n u).1 = .ok [.i32 0] ∧ s.Lacks size.toNat ∧ s.guest.Stays (s.use n u).2.guest
    else (s.use n u).1 = .ok [.i32 0] ∧ (s.use n u).2.guest = s.guest
  | .dealloc ptr size =>
    (s.use n u).1 = .ok [] ∧
      (s.use n u).2.guest =
        if ptr = 0 ∨ signed size ≤ 0 then s.guest
        else s.guest.release (Block.mk ptr size).stretch
  | .writeOutput bytes => s.PutsOut n u bytes
  | .pluginFunction handler ptr len =>
    ∀ input, s.guest.input? ptr len = some input →
      s.PutsOut n u (handler input) ∧
      (s.use n u).1 = (s.use n (.writeOutput (handler input))).1 ∧
      (s.use n u).2.guest = (s.use n (.writeOutput (handler input))).2.guest
  | .readInput ptr len => s.Reads n u ptr len
  | .readPacked word => s.Reads n u (Block.unpack word).ptr (Block.unpack word).len

def makes (n : Nat) (s : Stage (Build.machine steps) H) (u : Use) : Bool :=
  match u, (s.use n u).1 with
  | .alloc _, .ok [.i32 ptr] => ptr ≠ 0
  | .writeOutput _, .ok [.i64 word] => word ≠ 0
  | .pluginFunction .., .ok [.i64 word] => word ≠ 0
  | _, _ => false

def frees (s : Stage (Build.machine steps) H) (u : Use) : Bool :=
  match u with
  | .dealloc ptr size =>
    ptr ≠ 0 && 0 < signed size && (Block.mk ptr size).stretch ∈ s.guest.live
  | _ => false

def allocations (n : Nat) (s : Stage (Build.machine steps) H) : List Use → Nat
  | [] => 0
  | u :: us => (s.makes n u).toNat + (s.use n u).2.allocations n us

def releases (n : Nat) (s : Stage (Build.machine steps) H) : List Use → Nat
  | [] => 0
  | u :: us => (s.frees u).toNat + (s.use n u).2.releases n us

section Each
variable {n : Nat} {s : Stage (Build.machine steps) H} {u : Use} {α : Type} {r : Routine α}
  {answer : α → List Value} {t : Heap}

theorem use_ok {x : α} (hu : u.routine = r.bind fun x => .done (answer x))
    (hr : r.settle s.module.allocator s.grants s.guest = (.ok x, t)) :
    (s.use n u).1 = .ok (answer x) ∧ (s.use n u).2.guest = t := by
  obtain ⟨he, hg, -⟩ := execute_settles (n := n + 5) (d := 0) u.brief (by omega) s
  have hs : s.settle u.routine = (.ok (answer x), t) := by
    rw [settle, hu, Routine.settle_bind, hr]
    rfl
  rw [hs] at he hg
  exact ⟨he, hg⟩

theorem use_error {cause : TrapCause} (hu : u.routine = r.bind fun x => .done (answer x))
    (hr : r.settle s.module.allocator s.grants s.guest = (.error cause, t)) :
    (s.use n u).1 = .error (.trapped cause) ∧ (s.use n u).2.guest = t := by
  obtain ⟨he, hg, -⟩ := execute_settles (n := n + 5) (d := 0) u.brief (by omega) s
  have hs : s.settle u.routine = (.error cause, t) := by
    rw [settle, hu, Routine.settle_bind, hr]
  rw [hs] at he hg
  exact ⟨he, hg⟩

theorem use_congr {u' : Use} (h : s.settle u.routine = s.settle u'.routine) :
    (s.use n u).1 = (s.use n u').1 ∧ (s.use n u).2.guest = (s.use n u').2.guest := by
  obtain ⟨he, hg, -⟩ := execute_settles (n := n + 5) (d := 0) u.brief (by omega) s
  obtain ⟨he', hg', -⟩ := execute_settles (n := n + 5) (d := 0) u'.brief (by omega) s
  rw [h] at he hg
  exact ⟨he.trans he'.symm, hg.trans hg'.symm⟩

inductive Does (n : Nat) (s : Stage (Build.machine steps) H) (u : Use) : Prop where
  | nothing (stays : s.guest.Stays (s.use n u).2.guest) (made : s.makes n u = false)
    (freed : s.frees u = false)
  | allocate (t : Stretch) (gains : s.guest.Gains t (s.use n u).2.guest)
    (made : s.makes n u = true) (freed : s.frees u = false)
  | release (b : Block) (use_eq : u = .dealloc b.ptr b.len)
    (left : (s.use n u).2.guest = s.guest.release b.stretch)
    (made : s.makes n u = false) (freed : s.frees u = decide (b.stretch ∈ s.guest.live))

end Each

/-! The uses one by one. -/
section Specs
variable {n : Nat} {s : Stage (Build.machine steps) H}

theorem alloc_right (n : Nat) (s : Stage (Build.machine steps) H) (size : UInt32) :
    s.Right n (.alloc size) ∧ s.Does n (.alloc size) := by
  have hu : (Use.alloc size).routine = (alloc size).bind fun ptr => .done [.i32 ptr] := rfl
  unfold Right
  dsimp only
  by_cases hs : 0 < signed size
  · rw [if_pos hs]
    obtain ⟨t, hr, hl, hk⟩ | ⟨ptr, t, hr, hp, hg⟩ :=
      settle_alloc s.module.allocator s.grants s.guest hs
    · obtain ⟨he, ht⟩ := use_ok (n := n) hu hr
      rw [← ht] at hk
      exact ⟨.inr ⟨he, hl, hk⟩, .nothing hk (by simp [makes, he]) rfl⟩
    · obtain ⟨he, ht⟩ := use_ok (n := n) hu hr
      rw [← ht] at hg
      exact ⟨.inl ⟨ptr, hp, he, hg⟩, .allocate _ hg (by simp [makes, he, hp]) rfl⟩
  · rw [if_neg hs]
    obtain ⟨he, ht⟩ := use_ok (n := n) hu
      (settle_alloc_zero s.module.allocator s.grants s.guest (Int.not_lt.mp hs))
    exact ⟨⟨he, ht⟩, .nothing (ht ▸ .refl _) (by simp [makes, he]) rfl⟩

theorem dealloc_right (n : Nat) (s : Stage (Build.machine steps) H) (ptr size : UInt32) :
    s.Right n (.dealloc ptr size) ∧ s.Does n (.dealloc ptr size) := by
  have hu : (Use.dealloc ptr size).routine = (dealloc ptr size).bind fun _ => .done [] := rfl
  unfold Right
  dsimp only
  by_cases hn : ptr = 0 ∨ signed size ≤ 0
  · rw [if_pos hn]
    obtain ⟨he, ht⟩ := use_ok (n := n) hu
      (settle_dealloc_none s.module.allocator s.grants s.guest hn)
    refine ⟨⟨he, ht⟩, .nothing (ht ▸ .refl _) (by simp [makes]) ?_⟩
    unfold frees
    rcases hn with hn | hn
    · simp [hn]
    · simp [Int.not_lt.mpr hn]
  · rw [if_neg hn]
    obtain ⟨he, ht⟩ := use_ok (n := n) hu
      (settle_dealloc s.module.allocator s.grants s.guest hn)
    refine ⟨⟨he, ht⟩, .release ⟨ptr, size⟩ rfl ht (by simp [makes]) ?_⟩
    obtain ⟨hp, hs⟩ := not_or.mp hn
    simp [frees, hp, Int.not_le.mp hs]

theorem reads_does {u : Use} {ptr len : UInt32}
    (hu : u.routine = (readInput ptr len).bind fun input => .done (octetValues input))
    (hm : s.makes n u = false) (hf : s.frees u = false) : s.Reads n u ptr len ∧ s.Does n u := by
  have hr := settle_readInput s.module.allocator s.grants s.guest ptr len
  cases hi : s.guest.input? ptr len with
  | none =>
    rw [hi] at hr
    obtain ⟨-, ht⟩ := use_error (n := n) hu hr
    exact ⟨fun input hin => (nomatch hi.symm.trans hin), .nothing (ht ▸ .refl _) hm hf⟩
  | some bytes =>
    rw [hi] at hr
    obtain ⟨he, ht⟩ := use_ok (n := n) hu hr
    refine ⟨fun input hin => ?_, .nothing (ht ▸ .refl _) hm hf⟩
    rw [Option.some.inj (hi.symm.trans hin)] at he
    exact ⟨he, ht⟩

theorem readInput_right (n : Nat) (s : Stage (Build.machine steps) H) (ptr len : UInt32) :
    s.Right n (.readInput ptr len) ∧ s.Does n (.readInput ptr len) :=
  reads_does rfl (by simp [makes]) rfl

theorem readPacked_right (n : Nat) (s : Stage (Build.machine steps) H) (word : UInt64) :
    s.Right n (.readPacked word) ∧ s.Does n (.readPacked word) :=
  reads_does rfl (by simp [makes]) rfl

theorem stands_of_stored {b : Block} {bytes : Bytes} (hs : s.guest.Stored b bytes) :
    s.Stands n b bytes := by
  have hr : ∀ word, Block.unpack word = b →
      (s.use n (.readPacked word)).1 = .ok (octetValues bytes) ∧
        (s.use n (.readPacked word)).2.guest = s.guest := by
    intro word hw
    refine (readPacked_right n s word).1 bytes ?_
    rw [hw]
    exact hs.input?_eq
  have hn : ¬(b.ptr = 0 ∨ signed b.len ≤ 0) :=
    guard_iff.mp (by simp [hs.proper.ptr, hs.proper.len])
  obtain ⟨he, ht⟩ := (dealloc_right n s b.ptr b.len).1
  rw [if_neg hn] at ht
  exact ⟨hs.live, fun word hw => (hr word hw).1, fun word hw => (hr word hw).2, he,
    ht.trans (Heap.release_eq hs.live), hs.once⟩

theorem pack_ne_zero {b : Block} (hp : b.ptr ≠ 0) : b.pack ≠ 0 := by
  intro hz
  have hu := Block.unpack_pack b
  rw [hz] at hu
  exact hp (congrArg Block.ptr hu).symm

end Specs

section Outputs
variable {n : Nat} {s : Stage (Build.machine steps) H} {u : Use}

inductive Output (n : Nat) (s : Stage (Build.machine steps) H) (u : Use) (bytes : Bytes) :
    Prop where
  | nothing (empty : bytes = []) (ending : (s.use n u).1 = .ok [.i64 0])
    (left : (s.use n u).2.guest = s.guest)
  | refused (full : bytes ≠ []) (ending : (s.use n u).1 = .error (.trapped .unreachable))
    (lacks : s.Lacks bytes.length) (stays : s.guest.Stays (s.use n u).2.guest)
  | block (full : bytes ≠ []) (b : Block) (ending : (s.use n u).1 = .ok [.i64 b.pack])
    (gains : s.guest.Gains b.stretch (s.use n u).2.guest)
    (stored : (s.use n u).2.guest.Stored b bytes)

theorem outputs (bytes : Octets) {r : Routine UInt64}
    (hu : u.routine = r.bind fun word => .done [.i64 word])
    (hr : r.settle s.module.allocator s.grants s.guest =
      (writeOutput bytes).settle s.module.allocator s.grants s.guest) :
    s.Output n u bytes := by
  by_cases h₀ : bytes.1 = []
  · rw [h₀, settle_writeOutput_nil] at hr
    obtain ⟨he, ht⟩ := use_ok (n := n) hu hr
    exact .nothing h₀ he ht
  · obtain ⟨t, hw, hl, hk⟩ | ⟨b, t, hw, hg, hs⟩ :=
      settle_writeOutput s.module.allocator s.grants s.guest h₀ bytes.2
    · obtain ⟨he, ht⟩ := use_error (n := n) hu (hr.trans hw)
      exact .refused h₀ he hl (ht ▸ hk)
    · obtain ⟨he, ht⟩ := use_ok (n := n) hu (hr.trans hw)
      exact .block h₀ b he (ht ▸ hg) (ht ▸ hs)

theorem Output.does {bytes : Bytes} (h : s.Output n u bytes)
    (hm : ∀ word, (s.use n u).1 = .ok [.i64 word] → s.makes n u = decide (word ≠ 0))
    (hm' : ∀ e, (s.use n u).1 = .error e → s.makes n u = false)
    (hf : s.frees u = false) : s.Does n u := by
  cases h with
  | nothing _ ending left => exact .nothing (left ▸ .refl _) (hm 0 ending) hf
  | refused _ ending _ stays => exact .nothing stays (hm' _ ending) hf
  | block _ b ending gains stored =>
    refine .allocate _ gains ?_ hf
    rw [hm _ ending]
    exact decide_eq_true (pack_ne_zero stored.proper.ptr)

theorem routine_pluginFunction (handler : Bytes → Octets) (ptr len : UInt32) :
    (Use.pluginFunction handler ptr len).routine =
      (pluginFunction (fun input => return handler input) ptr len).bind
        fun word => .done [.i64 word] :=
  rfl

/-- An export reads its input before its handler is asked. -/
theorem settle_pluginFunction (handler : Bytes → Octets) {ptr len : UInt32} {input : Bytes}
    (hi : s.guest.input? ptr len = some input) :
    (pluginFunction (fun input => return handler input) ptr len).settle s.module.allocator
        s.grants s.guest =
      (writeOutput (handler input)).settle s.module.allocator s.grants s.guest := by
  have hp : pluginFunction (fun input => return handler input) ptr len =
      (readInput ptr len).bind fun input => writeOutput (handler input) := rfl
  rw [hp, Routine.settle_bind, settle_readInput, hi]

theorem does (n : Nat) (s : Stage (Build.machine steps) H) (u : Use) : s.Does n u := by
  cases u with
  | alloc size => exact (alloc_right n s size).2
  | dealloc ptr size => exact (dealloc_right n s ptr size).2
  | writeOutput bytes =>
    exact (outputs bytes rfl rfl).does (fun _ he => by simp [makes, he])
      (fun _ he => by simp [makes, he]) rfl
  | pluginFunction handler ptr len =>
    cases hi : s.guest.input? ptr len with
    | none =>
      have hr : (pluginFunction (fun input => return handler input) ptr len).settle
          s.module.allocator s.grants s.guest = (.error .memoryOutOfBounds, s.guest) := by
        unfold pluginFunction
        change ((readInput ptr len).bind _).settle _ _ _ = _
        rw [Routine.settle_bind, settle_readInput, hi]
      obtain ⟨he, ht⟩ := use_error (n := n) (routine_pluginFunction handler ptr len) hr
      exact .nothing (ht ▸ .refl _) (by simp [makes, he]) rfl
    | some input =>
      exact (outputs (handler input) rfl (settle_pluginFunction handler hi)).does
        (fun _ he => by simp [makes, he]) (fun _ he => by simp [makes, he]) rfl
  | readInput ptr len => exact (readInput_right n s ptr len).2
  | readPacked word => exact (readPacked_right n s word).2

/-- A block stays where it is until it is released. -/
theorem stored_use {b : Block} {bytes : Bytes} (hs : s.guest.Stored b bytes)
    (hu : u ≠ .dealloc b.ptr b.len) : (s.use n u).2.guest.Stored b bytes := by
  cases s.does n u with
  | nothing stays => exact hs.stays stays
  | allocate t gains => exact hs.gains gains
  | release c use_eq left =>
    rw [left]
    refine hs.release fun hc => hu ?_
    have hptr : c.ptr = b.ptr := UInt32.toNat_inj.mp (congrArg Stretch.address hc)
    have hlen : c.len = b.len := UInt32.toNat_inj.mp (congrArg Stretch.length hc)
    rw [use_eq, hptr, hlen]

theorem stored_uses {b : Block} {bytes : Bytes} (hs : s.guest.Stored b bytes) {us : List Use}
    (hu : ∀ u ∈ us, u ≠ .dealloc b.ptr b.len) : (s.uses n us).guest.Stored b bytes := by
  induction us generalizing s with
  | nil => exact hs
  | cons u us ih =>
    obtain ⟨hu, hus⟩ := List.forall_mem_cons.mp hu
    exact ih (stored_use hs hu) hus

theorem Output.writes {bytes : Bytes} (h : s.Output n u bytes) : s.PutsOut n u bytes := by
  cases h with
  | nothing empty ending left =>
    exact ⟨⟨fun _ => empty, fun _ => ending⟩, fun _ => left, fun hn => absurd empty hn⟩
  | refused full ending lacks stays =>
    exact ⟨⟨fun hz => (nomatch ending.symm.trans hz), fun hn => absurd hn full⟩,
      fun hn => absurd hn full, fun _ => .inr ⟨ending, lacks, stays⟩⟩
  | block full b ending gains stored =>
    have hd : s.Delivers n (s.use n u).2 b bytes :=
      ⟨stored.length, gains, fun us hus => stands_of_stored (stored_uses stored hus)⟩
    refine ⟨⟨fun hz => ?_, fun hn => absurd hn full⟩, fun hn => absurd hn full, fun _ => .inl ?_⟩
    · have hp : b.pack = 0 := by simpa using ending.symm.trans hz
      exact absurd hp (pack_ne_zero stored.proper.ptr)
    · exact ⟨b.pack, ending, (Block.unpack_pack b).symm ▸ hd⟩

theorem right (n : Nat) (s : Stage (Build.machine steps) H) (u : Use) : s.Right n u := by
  cases u with
  | alloc size => exact (alloc_right n s size).1
  | dealloc ptr size => exact (dealloc_right n s ptr size).1
  | writeOutput bytes => exact (outputs bytes rfl rfl).writes
  | pluginFunction handler ptr len =>
    intro input hi
    have hr := settle_pluginFunction handler hi
    refine ⟨(outputs _ rfl hr).writes, use_congr ?_⟩
    have hw : (Use.writeOutput (handler input)).routine =
        (writeOutput (handler input)).bind fun word => .done [.i64 word] := rfl
    rw [settle, settle, routine_pluginFunction, hw, Routine.settle_bind, Routine.settle_bind, hr]
  | readInput ptr len => exact (readInput_right n s ptr len).1
  | readPacked word => exact (readPacked_right n s word).1

/-- One use keeps the balance of what is live. -/
theorem use_balanced (n : Nat) (s : Stage (Build.machine steps) H) (u : Use) :
    (s.use n u).2.guest.live.length + (s.frees u).toNat =
      s.guest.live.length + (s.makes n u).toNat := by
  cases s.does n u with
  | nothing stays made freed =>
    rw [stays.live, made, freed]
  | allocate t gains made freed =>
    rw [gains.live, made, freed]
    rfl
  | release b use_eq left made freed =>
    rw [left, made, freed]
    unfold Heap.release
    split
    · rename_i hm
      have hl := List.length_erase_of_mem hm
      have hp := List.length_pos_of_mem hm
      rw [decide_eq_true hm]
      simp only [Bool.toNat_true, Bool.toNat_false]
      omega
    · rename_i hm
      rw [decide_eq_false hm]

/-- All uses together keep it. -/
theorem uses_balanced (n : Nat) (s : Stage (Build.machine steps) H) (us : List Use) :
    (s.uses n us).guest.live.length + s.releases n us =
      s.guest.live.length + s.allocations n us := by
  induction us generalizing s with
  | nil => rfl
  | cons u us ih =>
    have hu := use_balanced n s u
    have hus := ih (s.use n u).2
    simp only [uses, List.foldl_cons, releases, allocations] at hus ⊢
    omega

/-- Whatever a guest has done with the kit: what is live is what was live before, with all that was
allocated and without all that was released; and what it does next with the kit does what it is for
and nothing else. -/
theorem blocks_accounted_for (n : Nat) (s : Stage (Build.machine steps) H) (us : List Use) :
    (s.uses n us).guest.live.length + s.releases n us =
        s.guest.live.length + s.allocations n us ∧
      ∀ u, (s.uses n us).Right n u :=
  ⟨uses_balanced n s us, (s.uses n us).right n⟩

end Outputs

end Stage

/-! A guest whose blocks all lie in the upper half of its memory. -/
namespace Lofty

def allocator : Allocator where
  place := fun h n =>
    let p := max (twoTo 31) (Allocator.top h.live)
    if p + n ≤ h.size ∧ p + n ≤ UInt32.size then some p else none
  growth := fun _ _ => none
  place_free := by
    intro h n p hp
    dsimp only at hp
    split at hp
    · rename_i fits
      cases hp
      have ht := Allocator.top_pos h.live
      refine ⟨Nat.lt_of_lt_of_le ht (Nat.le_max_right _ _), fits.1, fits.2, fun u hu => .inr ?_⟩
      exact Nat.le_trans (Allocator.stop_le_top hu) (Nat.le_max_right _ _)
    · cases hp

def stage : Stage (Build.machine 0) Unit :=
  ⟨⟨⟨[], [], none, allocator, .ofSize UInt32.size, .abort, fun _ _ => .abort⟩, #[],
    .ofSize UInt32.size, .ofSettings {}⟩, ⟨.start none "" default, ()⟩, []⟩

def greeting : Octets := ⟨[104, 105], by decide⟩

def block : Block := ⟨0x80000000, 2⟩

end Lofty

open Lofty in
/-- The address of a block can have the sign bit; the block is read and released all the same. -/
theorem lofty_block_accounted_for :
    (stage.use 0 (.writeOutput greeting)).1 = .ok [.i64 block.pack] ∧
      stage.Right 0 (.writeOutput greeting) ∧
      (stage.uses 0 [.writeOutput greeting]).Right 0 (.dealloc block.ptr block.len) ∧
      stage.allocations 0 [.writeOutput greeting, .dealloc block.ptr block.len] = 1 ∧
      stage.releases 0 [.writeOutput greeting, .dealloc block.ptr block.len] = 1 :=
  ⟨rfl, (Stage.blocks_accounted_for 0 stage []).2 _,
    (Stage.blocks_accounted_for 0 stage [.writeOutput greeting]).2 _,
    by decide +kernel, by decide +kernel⟩

end PluginHost
