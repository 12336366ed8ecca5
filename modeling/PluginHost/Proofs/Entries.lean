import PluginHost.Proofs.Moments
/-!
Where the host itself runs functions of the guest for a call: the allocator for the input, the
export, and in cleanup the deallocator for one buffer after the other. Whatever guest code does for
the call, it does in one of these runs.
-/
namespace PluginHost
variable {g : Guest} {H α : Type}

inductive Purpose where
  | supplying
  | exporting
  | releasing
  deriving DecidableEq

namespace Stage

/-- The functions of the guest that the host itself runs for an accepted call, given its body: each
with what it is run for, its arguments and the stage in which it is entered. -/
inductive Enters (s : Stage g H) (name : String) :
    {α : Type} → Task g H α → Purpose → Nat → List Value → Stage g H → Prop
  | supplying (b : Bridge) (function : Nat) (input : Bytes) (nonempty : input ≠ [])
      (short : input.length ≤ Buffer.maxLength) :
      Enters s name (exchange b name function input) .supplying b.alloc
        [.i32 (UInt32.ofNat input.length)]
        ((s.begun name).note (.asked (UInt32.ofNat input.length)))
  | exporting (b : Bridge) (function : Nat) (input : Bytes) (block : Block) (s₁ : Stage g H)
      (bridge : s.store.bridge = some b)
      (supplied : (Buffer.placeForCall enter b input).run (s.begun name) = (.ok block, s₁)) :
      Enters s name (exchange b name function input) .exporting function
        [.i32 block.ptr, .i32 block.len] (s₁.entering function [.i32 block.ptr, .i32 block.len])
  | exportingValues (function : Nat) (args : List Value) :
      Enters s name (exchangeValues name function args) .exporting function args
        ((s.begun name).entering function args)
  /-- The buffers before this one were offered back already. -/
  | releasing {α : Type} (body : Task g H α) (r : Except Failure α) (s₁ : Stage g H) (b : Bridge)
      (before after : List Block) (block : Block) (ran : body.run (s.begun name) = (r, s₁))
      (bridge : s.store.bridge = some b) (tracked : s₁.tracked = before ++ block :: after)
      (nonempty : block.isEmpty = false) :
      Enters s name body .releasing b.dealloc [.i32 block.ptr, .i32 block.len]
        ((before.foldl (fun u c => u.released b name c)
          (s₁.leaving (surface name s₁.store.guestError r))).note (.returned block))

/-- The deallocator runs for one of the buffers, after those before it. -/
theorem releasing_iff (b : Bridge) (name : String) (blocks : List Block) (s m : Stage g H)
    (a : Activity g H) :
    Releasing b name blocks s a m ↔
      ∃ before block after, blocks = before ++ block :: after ∧ block.isEmpty = false ∧
        entered b.dealloc [.i32 block.ptr, .i32 block.len]
          ((before.foldl (fun u c => u.released b name c) s).note (.returned block)) a m := by
  induction blocks generalizing s with
  | nil => simp [Releasing]
  | cons c blocks ih =>
    constructor
    · rintro (⟨hn, hd⟩ | h)
      · exact ⟨[], c, blocks, rfl, hn, hd⟩
      · obtain ⟨before, block, after, rfl, hn, hd⟩ := (ih _).mp h
        exact ⟨c :: before, block, after, rfl, hn, hd⟩
    · rintro ⟨before, block, after, he, hn, hd⟩
      cases before with
      | nil =>
        obtain ⟨rfl, rfl⟩ := List.cons.inj he
        exact .inl ⟨hn, hd⟩
      | cons d before =>
        obtain ⟨rfl, rfl⟩ := List.cons.inj he
        exact .inr ((ih _).mpr ⟨before, block, after, rfl, hn, hd⟩)

/-- All moments of a call are moments of these runs. -/
theorem inCall_iff_enters (s m : Stage g H) (name : String) (body : Task g H α)
    (a : Activity g H) :
    s.InCall name body a m ↔
      ∃ purpose function args s₀, s.Enters name body purpose function args s₀ ∧
        entered function args s₀ a m := by
  constructor
  · intro h
    cases h with
    | supplying b function input _ _ during =>
      exact ⟨_, _, _, _, .supplying b function input during.nonempty during.short,
        during.allocating⟩
    | exporting b function input block s₁ _ _ bridge supplied during =>
      exact ⟨_, _, _, _, .exporting b function input block s₁ bridge supplied, during⟩
    | exportingValues function args _ _ during =>
      exact ⟨_, _, _, _, .exportingValues function args, during⟩
    | releasing body r s₁ b _ _ ran bridge during =>
      obtain ⟨before, block, after, ht, hn, hd⟩ := (releasing_iff ..).mp during
      exact ⟨_, _, _, _, .releasing body r s₁ b before after block ran bridge ht hn, hd⟩
  · rintro ⟨purpose, function, args, s₀, he, hd⟩
    cases he with
    | supplying b function input nonempty short =>
      exact .supplying b function input a m ⟨nonempty, short, hd⟩
    | exporting b function input block s₁ bridge supplied =>
      exact .exporting b function input block s₁ a m bridge supplied hd
    | exportingValues => exact .exportingValues _ _ a m hd
    | releasing _ r s₁ b before after block ran bridge tracked nonempty =>
      exact .releasing body r s₁ b a m ran bridge
        ((releasing_iff ..).mpr ⟨before, block, after, tracked, nonempty, hd⟩)

theorem Carried.foldl_released {P : Stage g H → Prop} {name : String} (h : Carried name P)
    {b : Bridge} (blocks : List Block) {s : Stage g H} (hb : s.store.bridge = some b) (hs : P s) :
    P (blocks.foldl (fun u c => u.released b name c) s) := by
  induction blocks generalizing s with
  | nil => exact hs
  | cons block blocks ih =>
    exact ih ((bridge_of_steady (released_steady b name block s)).trans hb)
      (h.released hb block hs)

/-- Before cleanup no buffer is offered back until the host enters guest code. -/
theorem Enters.ran {s s₀ : Stage g H} {name : String} {body : Task g H α} {purpose : Purpose}
    {function : Nat} {args : List Value} (h : s.Enters name body purpose function args s₀)
    (hp : purpose ≠ .releasing) : ∃ ds, (s.begun name).Ran ds s₀ := by
  cases h with
  | supplying b function input nonempty short =>
    obtain ⟨ds, hr, -⟩ := (HostTick.asked (s.begun name) (UInt32.ofNat input.length)).ran
    exact ⟨ds, hr⟩
  | exporting b function input block s₁ bridge supplied =>
    have ht : Ticks (s.begun name) ((Buffer.placeForCall enter b input).run (s.begun name)).2 :=
      Buffer.placeForCall_ticks (s := s.begun name) enter_ticks bridge rfl input
    rw [supplied] at ht
    obtain ⟨ds, hr, -⟩ := ht.ran
    exact ⟨_, hr.trans (entering_ran s₁ function _)⟩
  | exportingValues => exact ⟨_, entering_ran ..⟩
  | releasing => exact absurd rfl hp

/-- What the deadline is in the stage in which the host enters guest code. -/
theorem Enters.steady {s s₀ : Stage g H} {name : String} {t body : Task g H α} {purpose : Purpose}
    {function : Nat} {args : List Value} (ha : s.Accepts name t body)
    (h : s.Enters name body purpose function args s₀) :
    s₀.steady =
      { s.steady with
        deadline := if purpose = .releasing then none else s.store.armed.deadline
        calling := some name } := by
  by_cases hp : purpose = .releasing
  · cases h with
    | releasing _ r s₁ b before after block ran =>
      obtain ⟨A, adopted, hw⟩ := ha.worked
      rw [ran] at hw
      have hf := foldl_released_steady b name before
        (s₁.leaving (surface name s₁.store.guestError r))
      rw [leaving_steady, hw.steady, begun_steady] at hf
      exact hf
    | _ => cases hp
  · obtain ⟨ds, hr⟩ := h.ran hp
    rw [hr.steady, begun_steady, if_neg hp]

theorem entered_fixed {function : Nat} {args : List Value} {s m : Stage g H} {a : Activity g H}
    (h : entered function args s a m) : m.fixed = s.fixed :=
  (During.keeps (P := fun _ => True) (sustained_of_ticks fun _ _ _ _ => trivial) trivial h).1

end Stage

end PluginHost
