import PluginHost.GuestKit.Build
import PluginHost.Proofs.Record
/-!
What the heap of a build goes through. Nothing that is refused is forgotten, and in a call that
meets no obstacle each buffer that the host is given is allocated, belongs to the call and holds
what was put there.
-/
namespace PluginHost
open GuestKit

namespace Block

def stretch (b : Block) : Stretch := ⟨b.ptr.toNat, b.len.toNat⟩

structure Proper (b : Block) : Prop where
  ptr : b.ptr ≠ 0
  len : isPositive b.len = true

theorem Proper.length_pos {b : Block} (h : b.Proper) : 0 < b.len.toNat := by
  have hl := h.len
  simp only [isPositive, Bool.and_eq_true, decide_eq_true_eq] at hl
  exact hl.1

theorem Proper.isEmpty_eq {b : Block} (h : b.Proper) : b.isEmpty = false := by
  have hl : b.len ≠ 0 := by
    intro hn
    have hp := h.length_pos
    rw [hn] at hp
    exact absurd hp (by decide)
  simp [isEmpty, h.ptr, hl]

end Block

namespace GuestKit

theorem isPositive_ofNat {n : Nat} (h₀ : 0 < n) (hm : n ≤ Buffer.maxLength) :
    isPositive (UInt32.ofNat n) = true := by
  have hb : Buffer.maxLength + 1 = twoTo 31 := by decide
  unfold isPositive
  rw [Buffer.length_toNat hm]
  simp only [Bool.and_eq_true, decide_eq_true_eq]
  omega

/-- A stretch of no more octets than a buffer can have is a buffer. -/
theorem block_of_place {p n : Nat} (hp : 0 < p) (hs : p + n ≤ UInt32.size) (h₀ : 0 < n)
    (hn : n ≤ Buffer.maxLength) :
    (⟨UInt32.ofNat p, UInt32.ofNat n⟩ : Block).Proper ∧
      (⟨UInt32.ofNat p, UInt32.ofNat n⟩ : Block).stretch = ⟨p, n⟩ := by
  have hptr : (UInt32.ofNat p).toNat = p := UInt32.toNat_ofNat_of_lt' (by omega)
  refine ⟨⟨?_, isPositive_ofNat h₀ hn⟩, ?_⟩
  · intro hz
    have hz' : (UInt32.ofNat p).toNat = 0 := congrArg UInt32.toNat hz
    omega
  · simp only [Block.stretch, hptr, Buffer.length_toNat hn]

namespace Heap

theorem read_write (h : Heap) (address : Nat) (bytes : Bytes) :
    (h.write address bytes).read address bytes.length = bytes := by
  unfold read write
  apply List.ext_getElem
  · simp
  · intro i _ hi
    simp [hi]

theorem octet_write {h : Heap} {address i : Nat} {bytes : Bytes}
    (hi : i < address ∨ address + bytes.length ≤ i) :
    (h.write address bytes).octet i = h.octet i := by
  unfold write
  dsimp only
  split
  · rw [List.getElem?_toArray, List.getElem?_eq_none (by omega)]
    rfl
  · rfl

theorem read_congr {h h' : Heap} {address length : Nat}
    (he : ∀ i, address ≤ i → i < address + length → h'.octet i = h.octet i) :
    h'.read address length = h.read address length := by
  refine List.map_congr_left fun i hi => ?_
  have hl : i < length := List.mem_range.mp hi
  exact he _ (by omega) (by omega)

theorem read_write_apart {h : Heap} {t u : Stretch} (hs : t.Apart u) {bytes : Bytes}
    (hl : bytes.length = t.length) :
    (h.write t.address bytes).read u.address u.length = h.read u.address u.length := by
  refine read_congr fun i h₁ h₂ => octet_write ?_
  simp only [Stretch.Apart, Stretch.stop] at hs
  omega

/-- What is released under the length that it was allocated with is not live any more. -/
theorem release_eq {h : Heap} {t : Stretch} (ht : t ∈ h.live) :
    h.release t = { h with live := h.live.erase t } := if_pos ht

end Heap

end GuestKit

namespace Stage
variable {steps : Nat} {H : Type} {s s' s'' : Stage (Build.machine steps) H}

structure Onward (s s' : Stage (Build.machine steps) H) : Prop where
  refusals : s.guest.refusals ≤ s'.guest.refusals
  did : ∃ ds, s.Did ds s'

namespace Onward

theorem refl (s : Stage (Build.machine steps) H) : s.Onward s := ⟨Nat.le_refl _, [], Did.refl s⟩

theorem trans (h : s.Onward s') (h' : s'.Onward s'') : s.Onward s'' := by
  obtain ⟨ds, hd⟩ := h.did
  obtain ⟨ds', hd'⟩ := h'.did
  exact ⟨Nat.le_trans h.refusals h'.refusals, ds ++ ds', hd.trans hd'⟩

theorem note (s : Stage (Build.machine steps) H) (d : Deed) : s.Onward (s.note d) :=
  ⟨Nat.le_refl _, [d], Did.note s d⟩

theorem of_same (hg : s'.guest = s.guest) (hd : s'.deeds = s.deeds) : s.Onward s' :=
  ⟨Nat.le_of_eq (congrArg Heap.refusals hg).symm, [], hd⟩

theorem guest (hr : s.guest.refusals ≤ s'.guest.refusals) (hd : s'.deeds = s.deeds) :
    s.Onward s' := ⟨hr, [], hd⟩

end Onward

theorem refusals_foldr_write (memory : Nat) (written : List (Nat × Bytes)) (h : Heap) :
    (written.foldr (fun (ptr, bytes) t => (Build.machine steps).write t memory ptr bytes)
      h).refusals = h.refusals := by
  induction written with
  | nil => rfl
  | cons w ws ih => exact ih

theorem HostTick.onward (h : HostTick s s') : s.Onward s' := by
  cases h with
  | reported octets => exact ⟨Nat.le_refl _, [.reported octets], rfl⟩
  | assigned key value vars => exact ⟨Nat.le_refl _, [.assigned key value true], rfl⟩
  | shared w => exact .of_same rfl rfl
  | asked length => exact .note s _
  | refused key value e => exact .note s _
  | lookedUp key => exact .note s _
  | served ns name input output => exact .note s _
  | declined ns name input e => exact .note s _

theorem system_onward (c : SystemCall) (caller : Caller) (args : List Value)
    (s : Stage (Build.machine steps) H) : s.Onward (ImportCall.system c caller args s).2 := by
  obtain h | ⟨memory, written, h⟩ := ImportCall.system_stage c caller args s <;> rw [h]
  · exact .refl s
  · exact .guest (Nat.le_of_eq (refusals_foldr_write memory written s.guest).symm) rfl

end Stage

namespace GuestKit.Build

def after : Step Heap Code → Heap
  | .next _ _ h => h
  | .check _ _ h => h
  | .growMemory _ _ _ _ h => h
  | .growTable _ _ _ h => h
  | .call _ _ _ _ _ h => h
  | .finished _ h => h
  | .trapped _ h => h

theorem refusals_release (h : Heap) (t : Stretch) : (h.release t).refusals = h.refusals := by
  unfold Heap.release
  split <;> rfl

theorem serve_refusals (m : Build) (h : Heap) (depth length : Nat)
    (next : Option Nat → Routine (List Value)) :
    h.refusals ≤ (after (m.serve h depth length next)).refusals := by
  unfold serve
  split
  · exact Nat.le_refl _
  · exact Nat.le_succ _

theorem step_refusals (m : Build) (code : Code) (h : Heap) :
    h.refusals ≤ (after (m.step code h)).refusals := by
  cases code with
  | running depth rest =>
    cases rest with
    | done results => exact Nat.le_refl _
    | abort => exact Nat.le_refl _
    | allocate length next =>
      unfold step
      dsimp only
      split
      · exact Nat.le_refl _
      · exact serve_refusals m h depth length next
    | release address length next => exact Nat.le_of_eq (refusals_release h _).symm
    | load address length next =>
      unfold step
      dsimp only
      split <;> exact Nat.le_refl _
    | store address bytes next =>
      unfold step
      dsimp only
      split <;> exact Nat.le_refl _
    | call index args next => exact Nat.le_refl _
  | growing depth octets length allowed next =>
    have hg := serve_refusals m (if allowed then h.grown octets else h) depth length next
    cases allowed <;> exact hg
  | waiting depth next => exact Nat.le_refl _

end GuestKit.Build

namespace Stage
variable {steps : Nat} {H : Type} {s s' s'' : Stage (Build.machine steps) H}

theorem askMemory_onward (s : Stage (Build.machine steps) H) (current desired : Nat)
    (maximum : Option Nat) : s.Onward (askMemory s current desired maximum).2 := by
  unfold askMemory
  dsimp only
  split <;> exact .of_same rfl rfl

/-- Whatever a build does comes after what it did before. -/
theorem onward_sustained (s₀ : Stage (Build.machine steps) H) :
    Sustained (fun s => s₀.Onward s) fun _ s => s₀.Onward s := by
  have hg : ∀ (s : Stage (Build.machine steps) H) (code : Build.Code) (t : Heap),
      t = Build.after (Build.step s.module code s.guest) → s₀.Onward s →
        s₀.Onward { s with guest := t } := by
    intro s code t ht h
    refine h.trans (.guest ?_ rfl)
    rw [ht]
    exact Build.step_refusals s.module code s.guest
  exact {
    host := fun s s' t h => h.trans t.onward
    system := fun c caller args s h => h.trans (system_onward c caller args s)
    placed := fun s b block bytes _ h => h.trans ⟨Nat.le_refl _, [.given block], rfl⟩
    weaken := fun _ _ h => h
    enter := fun _ _ _ _ h => h
    next := fun code s cost code' t h hs =>
      (hg s code t (congrArg Build.after hs).symm h).trans (.of_same rfl rfl)
    check := fun code s elapsed code' t h hs =>
      (hg s code t (congrArg Build.after hs).symm h).trans (.of_same rfl rfl)
    growMemory := fun code s current desired maximum code' t h hs =>
      (hg s code t (congrArg Build.after hs).symm h).trans (askMemory_onward _ _ _ _)
    growTable := fun code s desired maximum code' t h hs =>
      hg s code t (congrArg Build.after hs).symm h
    call := fun code s index args caller depth code' t h hs =>
      ⟨hg s code t (congrArg Build.after hs).symm h, fun _ _ _ h' => h'⟩
    finished := fun code s results t h hs => hg s code t (congrArg Build.after hs).symm h
    trapped := fun code s cause t h hs => hg s code t (congrArg Build.after hs).symm h }

theorem execute_onward (n : Nat) (code : Build.Code) (s : Stage (Build.machine steps) H) :
    s.Onward (execute n code s).2 :=
  (execute_keeps (onward_sustained s) n code (.refl s)).2

/-- Since a heap was seen no request for memory was refused, and every function on octets that was
called returned. These calls are the first of a list, in which no result is longer than a buffer can
be. -/
structure Orderly (h : Heap) (all : List Served) (s : Stage (Build.machine steps) H) : Prop where
  granted : s.guest.refusals ≤ h.refusals
  answered : Deeds.declined s.record = []
  served : Deeds.served s.record <+: all
  short : ∀ e ∈ all, e.output.length ≤ Buffer.maxLength

theorem Orderly.of_onward {h : Heap} {all : List Served} (ho : s'.Orderly h all)
    (hw : s.Onward s') : s.Orderly h all := by
  obtain ⟨ds, hd⟩ := hw.did
  obtain ⟨hg, ha, hs, hf⟩ := ho
  rw [hd.record_eq, Deeds.declined_append, List.append_eq_nil_iff] at ha
  rw [hd.record_eq, Deeds.served_append] at hs
  exact ⟨Nat.le_trans hw.refusals hg, ha.1, (List.prefix_append _ _).trans hs, hf⟩

end Stage

end PluginHost
