import PluginHost.Proofs.Success
/-!
Which outputs a call takes for buffers that it owns already. It looks at the first octet only, so an
output that goes on past the end of the buffers it starts in passes for owned and is never given
back by itself.
-/
namespace PluginHost
variable {g : Guest} {H : Type}

namespace Block

def Spans (b : Block) (address : Nat) : Prop :=
  b.ptr.toNat ≤ address ∧ address < b.ptr.toNat + b.len.toNat

def Covers (owner b : Block) : Prop := ∀ address, b.Spans address → owner.Spans address

/-- A buffer starts in some of several buffers, but goes on past the end of each of them. -/
structure JutsOut (b : Block) (owners : List Block) : Prop where
  starts : ∃ o ∈ owners, o.Spans b.ptr.toNat
  ends : ∀ o ∈ owners, o.Spans b.ptr.toNat →
    o.ptr.toNat + o.len.toNat < b.ptr.toNat + b.len.toNat

variable {b o : Block} {owners : List Block}

theorem startsIn_iff : b.startsIn o = true ↔ o.Spans b.ptr.toNat := by
  simp [startsIn, Spans]

theorem len_pos (hb : b.len ≠ 0) : 0 < b.len.toNat :=
  Nat.pos_of_ne_zero fun hn => hb (UInt32.toNat_inj.mp hn)

theorem covers_iff (hb : b.len ≠ 0) :
    o.Covers b ↔ o.Spans b.ptr.toNat ∧
      b.ptr.toNat + b.len.toNat ≤ o.ptr.toNat + o.len.toNat := by
  have hl := len_pos hb
  constructor
  · intro h
    have hfirst := h b.ptr.toNat (by simp only [Spans]; omega)
    have hlast := h (b.ptr.toNat + b.len.toNat - 1) (by simp only [Spans]; omega)
    simp only [Spans] at hlast
    exact ⟨hfirst, by omega⟩
  · rintro ⟨hfirst, hend⟩ address ha
    simp only [Spans] at hfirst ha ⊢
    omega

theorem not_jutsOut_iff (hb : b.len ≠ 0) :
    ¬ b.JutsOut owners ↔
      ((∃ o ∈ owners, o.Spans b.ptr.toNat) → ∃ o ∈ owners, o.Covers b) := by
  constructor
  · intro h hs
    refine Classical.byContradiction fun hn => h ⟨hs, fun o ho hso => ?_⟩
    have hc : ¬ o.Covers b := fun hc => hn ⟨o, ho, hc⟩
    rw [covers_iff hb] at hc
    exact Nat.lt_of_not_le (not_and.mp hc hso)
  · rintro h ⟨hs, he⟩
    obtain ⟨o, ho, hc⟩ := h hs
    obtain ⟨hso, hend⟩ := (covers_iff hb).mp hc
    exact Nat.not_lt_of_le hend (he o ho hso)

end Block

namespace CallContext
variable {c : CallContext} {b : Block}

theorem owns_iff : c.owns b = true ↔ ∃ o ∈ c.blocks, o.Spans b.ptr.toNat := by
  simp [owns, Block.startsIn_iff]

theorem owns_of_covers (hb : b.len ≠ 0) {o : Block} (ho : o ∈ c.blocks) (hc : o.Covers b) :
    c.owns b = true :=
  owns_iff.mpr ⟨o, ho, ((Block.covers_iff hb).mp hc).1⟩

/-- To own a buffer is to own a buffer around it, unless the buffer juts out. -/
theorem owns_iff_covers_iff (hb : b.len ≠ 0) :
    (c.owns b = true ↔ ∃ o ∈ c.blocks, o.Covers b) ↔ ¬ b.JutsOut c.blocks := by
  rw [Block.not_jutsOut_iff hb, ← owns_iff]
  constructor
  · exact fun h => h.mp
  · rintro h
    exact ⟨h, fun ⟨o, ho, hc⟩ => owns_of_covers hb ho hc⟩

end CallContext

namespace Stage

theorem tracked_adopt {s : Stage g H} {out : Block} (hc : s.store.call.isSome)
    (he : out.isEmpty = false) :
    (s.updateStore fun t => adopt t out).tracked =
      if s.store.owns out then s.tracked else out :: s.tracked := by
  cases ho : s.store.owns out with
  | true => simp only [updateStore, adopt, ho, if_true]
  | false =>
    have ha : (s.updateStore fun t => adopt t out) = s.updateStore fun t => t.track out := by
      simp only [updateStore, adopt, ho, Bool.false_eq_true, if_false]
    rw [ha, tracked_track hc he]
    rfl

/-- What the export returned is given back first of all, unless the call owns it already. -/
theorem Returned.released {s s₁ s₂ : Stage g H} {b : Bridge} {name : String} {function : Nat}
    {input : Bytes} {block : Block} {word : UInt64}
    (h : (s.begun name).Returned b function input block s₁ word s₂)
    (ha : s.Accepts name (call name input) (exchange b name function input))
    (hb : s.store.bridge = some b) (he : (Block.unpack word).isEmpty = false) :
    ∃ cleanup, (s₂.taken word).Did cleanup ((call name input).run s).2 ∧
      Deeds.returned cleanup =
        if s₂.store.owns (Block.unpack word) then s₂.tracked
        else Block.unpack word :: s₂.tracked := by
  obtain ⟨ds, hran, -⟩ := h.ran hb rfl
  have hx := (exchange_ok_iff _ _ b name function input _).mpr ⟨block, s₁, word, s₂, h, rfl, rfl⟩
  obtain ⟨A, adopted, C, c, s₃, -, hr, ht⟩ := ha.released hx
  refine ⟨C, ?_, ?_⟩
  · rw [ht]
    exact hr.did_of_leaving name
  · rw [hr.returned]
    exact tracked_adopt (hran.call_isSome rfl) he

/-- A call owns a buffer if the buffer starts in one that it owns, and then it leaves an output
there to the release of that one. So the call is right about all buffers but those that start in its
own ones and go on past the ends of these. -/
theorem owned_iff_covered :
    (∀ (c : CallContext) (b : Block), b.len ≠ 0 →
      (c.owns b = true ↔ ∃ o ∈ c.blocks, o.Spans b.ptr.toNat) ∧
      ((c.owns b = true ↔ ∃ o ∈ c.blocks, o.Covers b) ↔ ¬ b.JutsOut c.blocks)) ∧
    (∀ (s s₁ s₂ : Stage g H) (b : Bridge) (name : String) (function : Nat) (input : Bytes)
      (block : Block) (word : UInt64),
      s.Accepts name (call name input) (exchange b name function input) →
      s.store.bridge = some b →
      (s.begun name).Returned b function input block s₁ word s₂ →
      (Block.unpack word).isEmpty = false → ¬ (Block.unpack word).JutsOut s₂.tracked →
      ∃ cleanup, (s₂.taken word).Did cleanup ((call name input).run s).2 ∧
        ((∃ o ∈ s₂.tracked, o.Covers (Block.unpack word)) →
          Deeds.returned cleanup = s₂.tracked) ∧
        ((¬ ∃ o ∈ s₂.tracked, o.Covers (Block.unpack word)) →
          Deeds.returned cleanup = Block.unpack word :: s₂.tracked)) := by
  refine ⟨fun c b hb => ⟨CallContext.owns_iff, CallContext.owns_iff_covers_iff hb⟩, ?_⟩
  intro s s₁ s₂ b name function input block word ha hb h he hj
  obtain ⟨cleanup, hd, hr⟩ := h.released ha hb he
  have hl : (Block.unpack word).len ≠ 0 := by
    intro hl
    simp [Block.isEmpty, hl] at he
  have ho : s₂.store.owns (Block.unpack word) = true ↔
      ∃ o ∈ s₂.tracked, o.Covers (Block.unpack word) := by
    have hc := (CallContext.owns_iff_covers_iff (c := ⟨name, s₂.tracked⟩) hl).mpr hj
    rwa [CallContext.owns, ← owns_eq] at hc
  refine ⟨cleanup, hd, fun hc => ?_, fun hc => ?_⟩
  · rw [hr, if_pos (ho.mpr hc)]
  · rw [hr, if_neg (mt ho.mp hc)]

end Stage

namespace Wasm
open Stage

def echoed : Stage engine Unit :=
  (enter 2 [.i32 1024, .i32 3] (Stage.entering
    ((Buffer.placeForCall enter ⟨0, 0, 1⟩ [1, 2, 3]).run (echoing.begun "echo")).2 2
    [.i32 1024, .i32 3]) : Ending × Stage engine Unit).2

theorem echo_returned :
    (echoing.begun "echo").Returned ⟨0, 0, 1⟩ 2 [1, 2, 3] ⟨1024, 3⟩
      ((Buffer.placeForCall enter ⟨0, 0, 1⟩ [1, 2, 3]).run (echoing.begun "echo")).2
      (Block.pack ⟨1024, 3⟩) echoed where
  supplied := (placeForCall_ok_iff ..).mp (Prod.ext rfl rfl)
  returned := Prod.ext rfl rfl
  room := by decide +kernel

/-- The output is the buffer of the input, which is given back once. -/
theorem echoed_output_covered :
    (⟨"echo", [⟨1024, 3⟩]⟩ : CallContext).owns ⟨1024, 3⟩ = true ∧
    ∃ cleanup, (echoed.taken (Block.pack ⟨1024, 3⟩)).Did cleanup
        ((call "echo" [1, 2, 3]).run echoing).2 ∧
      Deeds.returned cleanup = [⟨1024, 3⟩] := by
  have ht : echoed.tracked = [⟨1024, 3⟩] := by decide +kernel
  have hw : Block.unpack (Block.pack ⟨1024, 3⟩) = ⟨1024, 3⟩ := by decide
  have hin : ∃ o ∈ [(⟨1024, 3⟩ : Block)], o.Covers ⟨1024, 3⟩ :=
    ⟨_, List.mem_singleton_self _, fun _ => id⟩
  have hj : ¬ Block.JutsOut ⟨1024, 3⟩ [⟨1024, 3⟩] :=
    (Block.not_jutsOut_iff (by decide)).mpr fun _ => hin
  obtain ⟨howned, hcall⟩ := owned_iff_covered (g := engine) (H := Unit)
  obtain ⟨cleanup, hd, hr, -⟩ := hcall echoing _ echoed ⟨0, 0, 1⟩ "echo" 2 [1, 2, 3] _ _
    (.octets 2 ⟨0, 0, 1⟩ [1, 2, 3] rfl rfl rfl) rfl echo_returned (by rw [hw]; decide)
    (by rw [hw, ht]; exact hj)
  rw [hw, ht] at hr
  exact ⟨((howned ⟨"echo", [⟨1024, 3⟩]⟩ ⟨1024, 3⟩ (by decide)).2.mpr hj).mpr hin, cleanup, hd,
    hr hin⟩

def stretch : Program := { echo with
  functions := #[
    ⟨⟨[.i32], [.i32]⟩, [], [.const (.i32 1024), .end_]⟩,
    ⟨⟨[.i32, .i32], []⟩, [], [.end_]⟩,
    ⟨⟨[.i32, .i32], [.i64]⟩, [],
      [.localGet 0, .convert .extendU, .const (.i64 32), .intBinary .w64 .shl, .localGet 1,
        .const (.i32 1), .intBinary .w32 .add, .convert .extendU, .intBinary .w64 .or, .end_]⟩] }

def stretching : Stage engine Unit := { echoing with module := stretch }

/-- An output that starts in a buffer of the call but is longer than it has no release. -/
theorem stretched_output_unreleased :
    (⟨"greet", [⟨1024, 16⟩]⟩ : CallContext).owns ⟨1030, 100⟩ = true ∧
      (¬ ∃ o ∈ [(⟨1024, 16⟩ : Block)], o.Covers ⟨1030, 100⟩) ∧
      ((call "echo" [1]).run stretching).1.toOption = some [1, 0] ∧
      Deeds.returned ((call "echo" [1]).run stretching).2.record = [⟨1024, 1⟩] := by
  refine ⟨by decide, ?_, by decide +kernel, by decide +kernel⟩
  rintro ⟨o, ho, hc⟩
  obtain rfl := List.mem_singleton.mp ho
  obtain ⟨-, he⟩ := (Block.covers_iff (by decide)).mp hc
  exact absurd he (by decide)

end Wasm

end PluginHost
