import PluginHost.Proofs.Cleanup
/-!
Which buffers come back. A buffer that was given is settled when it is offered back exactly once for
each time it was given, and never before it was. The buffers of the body are settled by cleanup; a
buffer that is given while cleanup runs is not offered back any more, so a call settles all its
buffers exactly if none is given so late.
-/
namespace PluginHost
variable {g : Guest} {H α : Type}

namespace Deeds

/-- Every buffer that was given is offered back, once for each time, after it was given: from any
moment on, it is offered back at least as often as it is given. -/
def Settled (ds : List Deed) : Prop :=
  ∀ b ∈ given ds, (returned ds).count b = (given ds).count b ∧
    ∀ later, later <:+ ds → (given later).count b ≤ (returned later).count b

theorem given_suffix {ds later : List Deed} (h : later <:+ ds) : given later <:+ given ds :=
  h.filterMap _

theorem returned_suffix {ds later : List Deed} (h : later <:+ ds) :
    returned later <:+ returned ds :=
  h.filterMap _

theorem settled_append {ds ds' : List Deed} (hr : returned ds = []) (hg : given ds' = [])
    (hc : ∀ b ∈ given ds, (returned ds').count b = (given ds).count b) :
    Settled (ds ++ ds') := by
  have hgs : given (ds ++ ds') = given ds := by rw [given_append, hg, List.append_nil]
  have hrs : returned (ds ++ ds') = returned ds' := by rw [returned_append, hr, List.nil_append]
  intro b hb
  rw [hgs] at hb
  refine ⟨by rw [hgs, hrs, hc b hb], fun later hl => ?_⟩
  rcases List.suffix_or_suffix_of_suffix hl (List.suffix_append ds ds') with h | h
  · have hn : given later = [] := by
      have hs := given_suffix h
      rw [hg] at hs
      exact List.suffix_nil.mp hs
    rw [hn, List.count_nil]
    exact Nat.zero_le _
  · calc (given later).count b ≤ (given (ds ++ ds')).count b := (given_suffix hl).count_le b
      _ = (returned ds').count b := by rw [hgs, hc b hb]
      _ ≤ (returned later).count b := (returned_suffix h).count_le b

end Deeds

namespace Stage

/-- Cleanup offers back what the body was given as often as it was given, and the buffer that the
export returned once. -/
theorem Worked.count_tracked {s s' : Stage g H} {ds : List Deed} {adopted : Option Block}
    (h : s.Worked ds adopted s') (hs : s.tracked = []) (b : Block) :
    s'.tracked.count b = adopted.toList.count b + (Deeds.given ds).count b := by
  rw [h.tracked, hs, List.append_nil, List.count_append, List.count_reverse]

/-- Where something is given while cleanup runs, something is not settled. It would have to be the
buffer that the export returned, since only that one is offered back more often than the body was
given it; but it is offered first of all, before it could be given. -/
theorem not_settled {s s₁ s' s₂ : Stage g H} {A C : List Deed} {adopted : Option Block}
    {cleanup : Option Failure} (hw : s.Worked A adopted s₁) (hs : s.tracked = [])
    (hr : s'.Released s₁.tracked C cleanup s₂) {b : Block} (hb : b ∈ Deeds.given C) :
    ¬ Deeds.Settled (A ++ C) := by
  intro h
  obtain ⟨hc, hl⟩ := h b (by simp [hb])
  have hpos : 0 < (Deeds.given C).count b := List.count_pos_iff.mpr hb
  rw [Deeds.returned_append, hw.returned, List.nil_append, Deeds.given_append, List.count_append,
    hr.returned, hw.count_tracked hs] at hc
  -- Without this, `b` would be given once more than the body asked for and than is offered back.
  have ho : adopted = some b := by
    cases adopted with
    | none =>
      simp only [Option.toList_none, List.count_nil] at hc
      omega
    | some o =>
      by_cases ho : o = b
      · rw [ho]
      · simp only [Option.toList_some, List.count_singleton, beq_iff_eq, ho, if_false] at hc
        omega
  subst ho
  have hn : (Deeds.given A).count b = 0 := List.count_eq_zero.mpr (hw.foreign b rfl).2
  have ht : s₁.tracked = b :: (Deeds.given A).reverse := by
    rw [hw.tracked, hs, List.append_nil]
    rfl
  obtain ⟨C', rfl⟩ := hr.first b _ ht
  have hg : Deeds.given (.returned b :: C') = Deeds.given C' := rfl
  have hf : Deeds.returned C' = (Deeds.given A).reverse :=
    (List.cons.inj (hr.returned.trans ht)).2
  -- Behind the first offer, which is that of `b`, `b` is given and not offered back.
  have hle := hl C' ⟨A ++ [.returned b], by simp⟩
  rw [hf, List.count_reverse, hn, ← hg] at hle
  omega

/-- Exactly when an accepted call settles its buffers: each that the guest's allocator gave, from
the beginning of the call to its end, is offered back once, if and only if none was given while
cleanup was running. -/
theorem settled_iff_none_given_in_cleanup {s s₁ s₂ : Stage g H} {name : String}
    {t body : Task g H α} {r r' : Except Failure α} (h : s.Accepts name t body)
    (hb : body.run (s.begun name) = (r, s₁)) (ht : t.run s = (r', s₂)) :
    ∃ during cleanup, s.Did during s₁ ∧ s₁.Did cleanup s₂ ∧
      (Deeds.Settled (during ++ cleanup) ↔ Deeds.given cleanup = []) := by
  obtain ⟨A, adopted, C, c, s', hw, hr, hp⟩ := h.released hb
  obtain ⟨rfl, rfl⟩ := Prod.mk.inj (ht.symm.trans hp)
  refine ⟨A, C, hw.did, hr.did_of_leaving name, ?_, ?_⟩
  · intro hs
    rcases hg : Deeds.given C with _ | ⟨b, bs⟩
    · rfl
    · have hb : b ∈ Deeds.given C := by simp [hg]
      exact absurd hs (not_settled hw rfl hr hb)
  · intro hg
    refine Deeds.settled_append hw.returned hg fun b hb => ?_
    rw [hr.returned, hw.count_tracked rfl]
    have ha : b ∉ adopted := fun ha => (hw.foreign b ha).2 hb
    have hz : adopted.toList.count b = 0 := List.count_eq_zero.mpr (by simpa using ha)
    omega

open Wasm in
/-- In a call to the module that echoes its input all buffers are settled. -/
theorem settled_iff_none_given_in_cleanup_of_echo :
    ∃ during cleanup,
      echoing.Did during ((exchange ⟨0, 0, 1⟩ "echo" 2 [1, 2, 3]).run (echoing.begun "echo")).2 ∧
      ((exchange ⟨0, 0, 1⟩ "echo" 2 [1, 2, 3]).run (echoing.begun "echo")).2.Did cleanup
        ((call "echo" [1, 2, 3]).run echoing).2 ∧
      Deeds.given during = [⟨1024, 3⟩] ∧ Deeds.Settled (during ++ cleanup) := by
  have ha : echoing.Accepts "echo" (call "echo" [1, 2, 3])
      (exchange ⟨0, 0, 1⟩ "echo" 2 [1, 2, 3]) :=
    .octets 2 ⟨0, 0, 1⟩ [1, 2, 3] rfl rfl rfl
  obtain ⟨during, cleanup, hd, hc, hs⟩ :=
    settled_iff_none_given_in_cleanup ha (Prod.eta _).symm (Prod.eta _).symm
  have hbody : Deeds.given ((exchange ⟨0, 0, 1⟩ "echo" 2 [1, 2, 3]).run
      (echoing.begun "echo")).2.record = [⟨1024, 3⟩] := by
    decide +kernel
  have hcall : Deeds.given ((call "echo" [1, 2, 3]).run echoing).2.record = [⟨1024, 3⟩] := by
    decide +kernel
  have hn : Deeds.given cleanup = [] := by
    rw [hc.record_eq, Deeds.given_append, hbody] at hcall
    exact (List.cons.inj hcall).2
  refine ⟨during, cleanup, hd, hc, ?_, hs.mpr hn⟩
  rw [hd.record_eq] at hbody
  exact hbody

end Stage

namespace Wasm

/-- A module that calls an imported function on octets the first time its deallocator runs. Its
first variable counts the buffers that are out, its second one remembers the first time. -/
def leaky : Program where
  imports := [⟨"env", "f", .function .bytes⟩]
  exports := [
    ⟨Name.memory, .memory 0 ⟨1, none⟩⟩, ⟨Name.alloc, .function 1 Opening.allocType⟩,
    ⟨Name.dealloc, .function 2 Opening.deallocType⟩, ⟨"run", .function 3 .bytes⟩,
    ⟨"live", .function 4 ⟨[], [.i32]⟩⟩]
  imported := #[⟨[.i32, .i32], [.i64]⟩]
  functions := #[
    ⟨⟨[.i32], [.i32]⟩, [],
      [.globalGet 0, .const (.i32 1), .intBinary .w32 .add, .globalSet 0, .const (.i32 1024),
        .end_]⟩,
    ⟨⟨[.i32, .i32], []⟩, [],
      [.globalGet 0, .const (.i32 1), .intBinary .w32 .sub, .globalSet 0, .globalGet 1,
        .intEqz .w32, .if_ .empty, .const (.i32 1), .globalSet 1, .const (.i32 0), .const (.i32 0),
        .call 0, .drop, .end_, .end_]⟩,
    ⟨⟨[.i32, .i32], [.i64]⟩, [], [.const (.i64 0), .end_]⟩,
    ⟨⟨[], [.i32]⟩, [], [.globalGet 0, .end_]⟩]
  types := #[]
  memories := [⟨⟨1, none⟩, false, false, none⟩]
  tables := []
  globals := [[.const (.i32 0)], [.const (.i32 0)]]
  elems := #[]
  data := #[]
  start := none

def leaking : Stage engine Unit where
  module := leaky
  providers := #[.function (.ofBytes "f" fun _ => .done [0x78, 0x79])]
  guest :=
    { State.empty with
      memories := #[⟨#[ByteArray.empty], none⟩]
      globals := #[.i32 0, .i32 0] }
  store := { Store.ofSettings {} with bridge := some ⟨0, 1, 2⟩ }
  world := ⟨.start none "" default, ()⟩
  deeds := []

end Wasm

namespace Stage

open Wasm in
/-- A call that goes well but keeps a buffer: the result of the function that the deallocator calls
while the input is given back is never offered back itself. -/
theorem leaky_call_not_settled :
    leaking.Accepts "run" (call "run" [1]) (exchange ⟨0, 1, 2⟩ "run" 3 [1]) ∧
      ((call "run" [1]).run leaking).1.toOption = some [] ∧
      ¬ Deeds.Settled ((call "run" [1]).run leaking).2.record := by
  refine ⟨.octets 3 ⟨0, 1, 2⟩ [1] rfl rfl rfl, by decide +kernel, fun h => ?_⟩
  have hg : Deeds.given ((call "run" [1]).run leaking).2.record =
      [⟨1024, 1⟩, ⟨1024, 2⟩] := by
    decide +kernel
  have hr : Deeds.returned ((call "run" [1]).run leaking).2.record = [⟨1024, 1⟩] := by
    decide +kernel
  obtain ⟨hc, -⟩ := h ⟨1024, 2⟩ (by rw [hg]; decide)
  rw [hg, hr] at hc
  exact absurd hc (by decide)

end Stage

end PluginHost
