import PluginHost.Proofs.Settling
/-!
What the functions of the kit come to, one after the other, and what they do to the heap: nothing,
or they allocate one stretch, or they release one.
-/
namespace PluginHost.GuestKit

def signed (n : UInt32) : Int := n.toBitVec.toInt

theorem isPositive_iff {n : UInt32} : isPositive n = true ↔ 0 < signed n := by
  have hn : n.toBitVec.toNat = n.toNat := rfl
  have hlt := n.toNat_lt
  unfold isPositive signed
  rw [BitVec.toInt_eq_toNat_cond, hn]
  simp only [Bool.and_eq_true, decide_eq_true_eq]
  split <;> simp only [twoTo, Nat.pow_eq] <;> omega

theorem isPositive_eq_false {n : UInt32} : isPositive n = false ↔ signed n ≤ 0 := by
  rw [← Bool.not_eq_true, isPositive_iff, Int.not_lt]

theorem length_of_positive {n : UInt32} (h : 0 < signed n) :
    0 < n.toNat ∧ n.toNat ≤ Buffer.maxLength := by
  have hm : Buffer.maxLength + 1 = twoTo 31 := by decide
  have hp := isPositive_iff.mpr h
  simp only [isPositive, Bool.and_eq_true, decide_eq_true_eq] at hp
  omega

theorem signed_ofNat {n : Nat} (h₀ : 0 < n) (hm : n ≤ Buffer.maxLength) :
    0 < signed (UInt32.ofNat n) := isPositive_iff.mp (isPositive_ofNat h₀ hm)

theorem guard_iff {ptr len : UInt32} :
    (decide (ptr ≠ 0) && isPositive len) = true ↔ ¬(ptr = 0 ∨ signed len ≤ 0) := by
  rw [Bool.and_eq_true, decide_eq_true_eq, isPositive_iff, not_or, Int.not_le]

namespace Heap

def input? (h : Heap) (ptr len : UInt32) : Option Bytes :=
  if ptr = 0 ∨ signed len ≤ 0 then some []
  else if ptr.toNat + len.toNat ≤ h.size then some (h.read ptr.toNat len.toNat)
  else none

structure Gains (h : Heap) (t : Stretch) (h' : Heap) : Prop where
  positive : 0 < t.address
  inside : t.stop ≤ h'.size
  small : t.stop ≤ UInt32.size
  fresh : ∀ u ∈ h.live, t.Apart u
  live : h'.live = t :: h.live
  size : h.size ≤ h'.size
  elsewhere : ∀ i, i < t.address ∨ t.stop ≤ i → h'.octet i = h.octet i

structure Stays (h h' : Heap) : Prop where
  live : h'.live = h.live
  size : h.size ≤ h'.size
  octet : h'.octet = h.octet

theorem Stays.refl (h : Heap) : h.Stays h := ⟨rfl, Nat.le_refl _, rfl⟩

theorem Gains.write {h h' : Heap} {t : Stretch} (hg : h.Gains t h') {bytes : Bytes}
    (hl : bytes.length = t.length) : h.Gains t (h'.write t.address bytes) :=
  { hg with
    elsewhere := by
      intro i hi
      have hs : t.stop = t.address + bytes.length := by rw [hl]; rfl
      rw [octet_write (hs ▸ hi)]
      exact hg.elsewhere i hi }

structure Stored (h : Heap) (b : Block) (bytes : Bytes) : Prop where
  proper : b.Proper
  length : b.len.toNat = bytes.length
  live : b.stretch ∈ h.live
  once : b.stretch ∉ h.live.erase b.stretch
  inside : b.stretch.stop ≤ h.size
  read : h.read b.ptr.toNat b.len.toNat = bytes

theorem Gains.ne {h h' : Heap} {t u : Stretch} (hg : h.Gains t h') (hu : u ∈ h.live)
    (hl : 0 < u.length) : t ≠ u := by
  intro he
  have ha := hg.fresh u hu
  subst he
  unfold Stretch.Apart Stretch.stop at ha
  omega

namespace Stored
variable {h h' : Heap} {b : Block} {bytes : Bytes}

theorem of_gains (hg : h.Gains b.stretch h') (hp : b.Proper) (hl : b.len.toNat = bytes.length)
    (hr : h'.read b.ptr.toNat bytes.length = bytes) : h'.Stored b bytes where
  proper := hp
  length := hl
  live := hg.live ▸ List.mem_cons_self
  once := by
    rw [hg.live, List.erase_cons_head]
    exact fun hm => hg.ne hm hp.length_pos rfl
  inside := hg.inside
  read := hl.symm ▸ hr

theorem stays (hs : h.Stored b bytes) (hk : h.Stays h') : h'.Stored b bytes :=
  { hs with
    live := hk.live ▸ hs.live
    once := hk.live ▸ hs.once
    inside := Nat.le_trans hs.inside hk.size
    read := (Heap.read_congr fun i _ _ => congrFun hk.octet i).trans hs.read }

/-- What is allocated later lies apart from the block. -/
theorem gains (hs : h.Stored b bytes) {t : Stretch} (hg : h.Gains t h') : h'.Stored b bytes := by
  have hne : t ≠ b.stretch := hg.ne hs.live hs.proper.length_pos
  have ha := hg.fresh b.stretch hs.live
  exact { hs with
    live := hg.live ▸ List.mem_cons_of_mem t hs.live
    once := by
      rw [hg.live, List.erase_cons_tail (by simpa using hne)]
      exact fun hm => (List.mem_cons.mp hm).elim (fun he => hne he.symm) hs.once
    inside := Nat.le_trans hs.inside hg.size
    read := by
      refine (Heap.read_congr fun i hi hi' => hg.elsewhere i ?_).trans hs.read
      simp only [Stretch.Apart, Stretch.stop, Block.stretch] at ha ⊢
      omega }

theorem release (hs : h.Stored b bytes) {t : Stretch} (hne : t ≠ b.stretch) :
    (h.release t).Stored b bytes := by
  unfold Heap.release
  split
  · exact { hs with
      live := (List.mem_erase_of_ne hne.symm).mpr hs.live
      once := by
        rw [List.erase_comm]
        exact fun hm => hs.once (List.mem_of_mem_erase hm) }
  · exact { hs with }

theorem input?_eq (hs : h.Stored b bytes) : h.input? b.ptr b.len = some bytes := by
  have hn : ¬(b.ptr = 0 ∨ signed b.len ≤ 0) :=
    guard_iff.mp (by simp [hs.proper.ptr, hs.proper.len])
  have hi : b.ptr.toNat + b.len.toNat ≤ h.size := hs.inside
  unfold input?
  rw [if_neg hn, if_pos hi, hs.read]

end Stored

end Heap

variable (a : Allocator) (grant : Nat → Bool) (h : Heap)

def Allocator.Lacks (length : Nat) : Prop := a.place (a.room grant h length) length = none

/-- A request is refused, or it is given a fresh stretch. -/
theorem Allocator.give_cases (length : Nat) :
    (∃ t, a.give (a.room grant h length) length = (none, t) ∧
      a.Lacks grant h length ∧ h.Stays t) ∨
    ∃ p t, a.give (a.room grant h length) length = (some p, t) ∧ h.Gains ⟨p, length⟩ t := by
  obtain ⟨size, hle, hroom⟩ := a.room_eq grant h length
  unfold give
  cases hp : a.place (a.room grant h length) length with
  | none =>
    refine .inl ⟨_, rfl, hp, ?_⟩
    rw [hroom]
    exact ⟨rfl, hle, rfl⟩
  | some p =>
    obtain ⟨positive, inside, small, fresh⟩ := a.place_free _ _ _ hp
    rw [hroom] at fresh inside
    refine .inr ⟨p, _, rfl, ?_⟩
    rw [hroom]
    exact ⟨positive, inside, small, fresh, rfl, hle, fun _ _ => rfl⟩

/-! Each function of the kit. -/

theorem settle_alloc_zero {size : UInt32} (hs : signed size ≤ 0) :
    (alloc size).settle a grant h = (.ok 0, h) := by
  unfold alloc
  rw [isPositive_eq_false.mpr hs]
  rfl

theorem settle_alloc {size : UInt32} (hs : 0 < signed size) :
    (∃ t, (alloc size).settle a grant h = (.ok 0, t) ∧ a.Lacks grant h size.toNat ∧ h.Stays t) ∨
    ∃ ptr t, (alloc size).settle a grant h = (.ok ptr, t) ∧ ptr ≠ 0 ∧
      h.Gains (Block.mk ptr size).stretch t := by
  have he : (alloc size).settle a grant h =
      (.ok (UInt32.ofNat ((a.give (a.room grant h size.toNat) size.toNat).1.getD 0)),
        (a.give (a.room grant h size.toNat) size.toNat).2) := by
    rw [alloc_eq (isPositive_iff.mpr hs)]
    rfl
  rw [he]
  obtain ⟨t, hn, hl, hk⟩ | ⟨p, t, hn, hg⟩ := a.give_cases grant h size.toNat
  · rw [hn]
    exact .inl ⟨t, rfl, hl, hk⟩
  · rw [hn]
    obtain ⟨hpos, hmax⟩ := length_of_positive hs
    obtain ⟨hproper, hstretch⟩ := block_of_place hg.positive hg.small hpos hmax
    rw [UInt32.ofNat_toNat] at hproper hstretch
    exact .inr ⟨_, t, rfl, hproper.ptr, hstretch ▸ hg⟩

theorem settle_dealloc_none {ptr size : UInt32} (hn : ptr = 0 ∨ signed size ≤ 0) :
    (dealloc ptr size).settle a grant h = (.ok (), h) := by
  unfold dealloc
  rw [if_neg fun hc => guard_iff.mp hc hn]
  rfl

theorem settle_dealloc {ptr size : UInt32} (hn : ¬(ptr = 0 ∨ signed size ≤ 0)) :
    (dealloc ptr size).settle a grant h = (.ok (), h.release (Block.mk ptr size).stretch) := by
  unfold dealloc
  rw [if_pos (guard_iff.mpr hn)]
  rfl

theorem settle_readInput (ptr len : UInt32) :
    (readInput ptr len).settle a grant h =
      match h.input? ptr len with
      | some input => (.ok input, h)
      | none => (.error .memoryOutOfBounds, h) := by
  unfold readInput Heap.input?
  by_cases hn : ptr = 0 ∨ signed len ≤ 0
  · rw [if_pos hn, if_neg fun hc => guard_iff.mp hc hn]
    rfl
  · rw [if_neg hn, if_pos (guard_iff.mpr hn)]
    by_cases hi : ptr.toNat + len.toNat ≤ h.size
    · rw [if_pos hi, Routine.settle_load a grant _ hi]
      rfl
    · rw [if_neg hi, Routine.settle_load_outside a grant _ hi]

theorem settle_writeOutput_nil : (writeOutput []).settle a grant h = (.ok 0, h) := rfl

/-- Octets are moved to a fresh buffer that they fill, unless there is no room for it. -/
theorem settle_writeOutput {bytes : Bytes} (h₀ : bytes ≠ [])
    (hm : bytes.length ≤ Buffer.maxLength) :
    (∃ t, (writeOutput bytes).settle a grant h = (.error .unreachable, t) ∧
      a.Lacks grant h bytes.length ∧ h.Stays t) ∨
    ∃ b : Block, ∃ t, (writeOutput bytes).settle a grant h = (.ok b.pack, t) ∧
      h.Gains b.stretch t ∧ t.Stored b bytes := by
  have hpos : 0 < bytes.length := List.length_pos_iff.mpr h₀
  have hlen : (UInt32.ofNat bytes.length).toNat = bytes.length := Buffer.length_toNat hm
  have hshort : bytes.length < twoTo 31 := by
    have hb : Buffer.maxLength + 1 = twoTo 31 := by decide
    omega
  have he : writeOutput bytes =
      (alloc (UInt32.ofNat bytes.length)).bind fun ptr =>
        if ptr = 0 then if bytes.length < twoTo 31 then .abort else .done 0
        else .store ptr.toNat bytes (.done (Block.pack ⟨ptr, UInt32.ofNat bytes.length⟩)) := by
    unfold writeOutput
    rw [if_neg (by simpa using h₀)]
    rfl
  rw [he, Routine.settle_bind]
  obtain ⟨t, hn, hl, hk⟩ | ⟨ptr, t, hn, hp, hg⟩ :=
    settle_alloc a grant h (signed_ofNat hpos hm)
  · rw [hn]
    dsimp only
    rw [if_pos rfl, if_pos hshort]
    exact .inl ⟨t, rfl, hlen ▸ hl, hk⟩
  · rw [hn]
    dsimp only
    have hi : ptr.toNat + bytes.length ≤ t.size := by
      have hs := hg.inside
      rwa [Block.stretch, Stretch.stop, hlen] at hs
    rw [if_neg hp, Routine.settle_store a grant _ hi]
    have hw := hg.write hlen.symm
    exact .inr ⟨⟨ptr, UInt32.ofNat bytes.length⟩, _, rfl, hw,
      .of_gains hw ⟨hp, isPositive_ofNat hpos hm⟩ hlen (t.read_write ptr.toNat bytes)⟩

end PluginHost.GuestKit
