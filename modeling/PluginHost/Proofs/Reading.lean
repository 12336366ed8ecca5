import PluginHost.Proofs.Success
/-!
How the host reads guest memory. The bridge adds the range up and compares the sum with the size;
host functions go through the bridge, also with a packed word; built-in functions look the range up
in the octets. All of them come to the same for every pair of 32-bit words.
-/
namespace PluginHost
variable {g : Guest} {H : Type}

def window (octets : Bytes) (ptr len : Nat) : Except Failure Bytes :=
  if ptr + len ≤ octets.length then .ok ((octets.drop ptr).take len)
  else .error (.outOfBounds ptr len octets.length)

def Caller.passed (r : Except Failure α) : Except Thrown α :=
  r.mapError fun e => .error (.failure [] e)

namespace Stage
variable {s : Stage g H}

theorem read_window (hg : g.Flat) (s : Stage g H) (memory : Nat) (ptr len : UInt32) :
    s.read memory ptr len = window (g.octets s.guest memory) ptr.toNat len.toNat := by
  rw [read_eq]
  unfold window memorySize
  rw [hg.length_octets]
  by_cases h : ptr.toNat + len.toNat ≤ g.size s.guest memory
  · simp only [h, if_true, hg.read_eq s.guest memory _ _ h]
  · simp only [h, if_false]

theorem exec_read_window (hg : g.Flat) {b : Bridge} (hb : s.store.bridge = some b)
    (run : Runner g H) (function : String) (ptr len : UInt32) :
    (Caller.read ptr len).exec run function s =
      (Caller.passed (window (g.octets s.guest b.memory) ptr.toNat len.toNat), s) := by
  rw [← read_window hg]
  unfold Caller.read
  rw [Program.exec_read, hb]
  dsimp only
  cases s.read b.memory ptr len <;> rfl

theorem exec_readPacked (run : Runner g H) (function : String) (ptr len : UInt32) :
    (Caller.readPacked (Block.pack ⟨ptr, len⟩)).exec run function s =
      (Caller.read ptr len).exec run function s := by
  unfold Caller.readPacked
  rw [Block.unpack_pack]

/-- A built-in function is given what is in the range of the exported memory. -/
theorem readFor_window (hg : g.Flat) {memory : Nat} (hm : g.memory? s.module = some memory)
    (sv : Service) (ptr len : UInt32) :
    (ImportCall.readFor sv .guest ptr len).run s =
      (window (g.octets s.guest memory) ptr.toNat len.toNat, s) := by
  rw [ImportCall.readFor_eq, ← read_window hg]
  simp only [ImportCall.memory?, hm]

/-- The ways to read guest memory agree, for every pair of 32-bit words and whatever the memory
holds: each gives the octets of the range if the sum of address and length is at most the size, and
else the same failure. Nothing on the stage changes, and the ends of the range, which are 64-bit
words, neither wrap nor pass each other. -/
theorem ways_to_read_agree (hg : g.Flat) {b : Bridge} (hb : s.store.bridge = some b)
    (hx : Opening.bridge? g s.module = .ok (some b)) (run : Runner g H) (function : String)
    (sv : Service) (ptr len : UInt32) :
    let octets := g.octets s.guest b.memory
    let seen : Except Failure Bytes :=
      if ptr.toNat + len.toNat ≤ s.memorySize b.memory then
        .ok ((octets.drop ptr.toNat).take len.toNat)
      else .error (.outOfBounds ptr.toNat len.toNat (s.memorySize b.memory))
    s.read b.memory ptr len = seen ∧
      (Caller.read ptr len).exec run function s = (Caller.passed seen, s) ∧
      (Caller.readPacked (Block.pack ⟨ptr, len⟩)).exec run function s = (Caller.passed seen, s) ∧
      (ImportCall.readFor sv .guest ptr len).run s = (seen, s) ∧
      octets.length = s.memorySize b.memory ∧
      ptr.toUInt64 ≤ ptr.toUInt64 + len.toUInt64 ∧
      (ptr.toUInt64 + len.toUInt64).toNat = ptr.toNat + len.toNat := by
  intro octets seen
  have hn : octets.length = s.memorySize b.memory := hg.length_octets s.guest b.memory
  have hseen : window octets ptr.toNat len.toNat = seen := by
    simp only [window, hn, seen]
  -- All ways look at the one window of memory.
  have hread : (Caller.read ptr len).exec run function s = (Caller.passed seen, s) := by
    rw [exec_read_window hg hb, hseen]
  have hstop := toNat_stop ptr len
  refine ⟨?_, hread, ?_, ?_, hn, ?_, hstop⟩
  · rw [read_window hg, hseen]
  · rw [exec_readPacked, hread]
  · rw [readFor_window hg (Opening.exchanges_of_bridge hx).memory?_eq, hseen]
  · rw [UInt64.le_iff_toNat_le, hstop, UInt32.toNat_toUInt64]
    exact Nat.le_add_right ..

open Wasm in
/-- Addresses with the sign bit and sums past 32 bits are out of bounds to all. -/
theorem echoing_refuses_alike :
    echoing.read 0 4294967295 2 = .error (.outOfBounds 4294967295 2 65536) ∧
      (Caller.read 4294967295 2).exec enter "f" echoing =
        (Caller.passed (.error (.outOfBounds 4294967295 2 65536)), echoing) ∧
      (Caller.readPacked (Block.pack ⟨4294967295, 2⟩)).exec enter "f" echoing =
        (Caller.passed (.error (.outOfBounds 4294967295 2 65536)), echoing) ∧
      (ImportCall.readFor .setError .guest 4294967295 2).run echoing =
        (.error (.outOfBounds 4294967295 2 65536), echoing) := by
  obtain ⟨h₁, h₂, h₃, h₄, -⟩ := ways_to_read_agree (s := echoing) engine_flat (b := ⟨0, 0, 1⟩)
    rfl rfl enter "f" .setError 4294967295 2
  exact ⟨h₁, h₂, h₃, h₄⟩

end Stage

end PluginHost
