import PluginHost.Proofs.Entries
/-!
Which guest code the deadline of a call can stop. The deadline is set while the allocator for the
input and the export run, whatever they ask of imported functions and of the allocator. Cleanup runs
without one, so nothing but lack of fuel ends a deallocator that never returns.
-/
namespace PluginHost
variable {g : Guest} {H α : Type}

/-- What the host raises to stop guest code: a timeout, once the deadline has passed and there is
fuel left. -/
theorem Store.stop?_raised_iff (t : Store) (elapsed : Nat) (e : Failure) :
    t.stop? elapsed = some (.raised e) ↔
      t.fuel ≠ 0 ∧ elapsed ≠ 0 ∧ (∃ d, t.deadline = some d ∧ d ≤ t.clock + elapsed) ∧
        e = .timeout t.currentFunction (t.timeoutMillis.getD 0) := by
  unfold stop? isLate advance
  dsimp only
  by_cases hf : t.fuel = 0
  · simp [hf]
  · by_cases he : elapsed = 0
    · simp [hf, he]
    · cases hd : t.deadline with
      | none => simp [hf]
      | some d =>
        by_cases hl : d ≤ t.clock + elapsed
        · simp [hf, he, hl, eq_comm]
        · simp [hf, hl]

namespace Plugin

/-- When a call to a plugin with a time limit can be stopped for being late. Its moments are those
of the functions that the host runs for it. At each of them the deadline is the beginning of the
call and the limit, except in cleanup, where there is none: there the host stops guest code for
lack of fuel only. -/
theorem deadline_set_except_in_cleanup {p : Plugin g H} (hp : p.Opened) {i : Instance g H}
    (hi : p.live = some i) {millis : Nat} (ht : p.settings.timeoutMillis = some millis)
    {w : World H} {name : String} {t body : Task g H α}
    (ha : Stage.Accepts ⟨i, w, []⟩ name t body) (a : Activity g H) (m : Stage g H) :
    (Stage.InCall ⟨i, w, []⟩ name body a m ↔
      ∃ purpose function args s₀, Stage.Enters ⟨i, w, []⟩ name body purpose function args s₀ ∧
        Stage.entered function args s₀ a m) ∧
    ∀ purpose function args s₀, Stage.Enters ⟨i, w, []⟩ name body purpose function args s₀ →
      Stage.entered function args s₀ a m →
        m.store.deadline =
          (if purpose = .releasing then none else some (i.store.clock + millis)) ∧
        ∀ elapsed e, m.store.stop? elapsed = some (.raised e) ↔
          purpose ≠ .releasing ∧ e = .timeout name millis ∧ m.store.fuel ≠ 0 ∧ elapsed ≠ 0 ∧
            i.store.clock + millis ≤ m.store.clock + elapsed := by
  refine ⟨Stage.inCall_iff_enters .., fun purpose function args s₀ he hm => ?_⟩
  have hr := hp.ready i hi
  have htime : i.store.timeoutMillis = some millis := hr.timeout.trans ht
  have hs : m.steady = _ := (Stage.steady_of_fixed (Stage.entered_fixed hm)).trans (he.steady ha)
  have hd : m.store.deadline =
      if purpose = .releasing then none else some (i.store.clock + millis) := by
    have hd : m.store.deadline =
        if purpose = .releasing then none else i.store.armed.deadline :=
      congrArg Stage.Fixed.deadline hs
    rw [hd, Store.armed, htime, Option.map_some]
  have hlimit : m.store.timeoutMillis = some millis :=
    (congrArg Stage.Fixed.timeoutMillis hs).trans htime
  have hcall : m.store.call.map CallContext.function = some name :=
    congrArg Stage.Fixed.calling hs
  have hname : m.store.currentFunction = name := by
    obtain ⟨c, hc, hn⟩ := Option.map_eq_some_iff.mp hcall
    simp only [Store.currentFunction, hc, hn]
  refine ⟨hd, fun elapsed e => ?_⟩
  rw [Store.stop?_raised_iff, hd, hlimit, hname, Option.getD_some]
  by_cases hq : purpose = .releasing
  · simp [hq]
  · simp only [hq, if_false, Option.some.injEq, ne_eq, not_false_eq_true, true_and]
    constructor
    · rintro ⟨hf, hz, ⟨d, rfl, hl⟩, rfl⟩
      exact ⟨rfl, hf, hz, hl⟩
    · rintro ⟨rfl, hf, hz, hl⟩
      exact ⟨hf, hz, ⟨_, rfl, hl⟩, rfl⟩

end Plugin

namespace Script

/-- A deallocator that takes a thousand times as long as a call may. -/
def lingering : guest.Module := [[.give [.i32 8]], [.wait 5000, .give []], [.give [.i64 0]]]

theorem lingering_accepts :
    Stage.Accepts ⟨made lingering, world, []⟩ "run" (Stage.call "run" [1])
      (Stage.exchange ⟨0, 0, 1⟩ "run" 2 [1]) :=
  .octets 2 ⟨0, 0, 1⟩ [1] rfl rfl rfl

end Script

namespace Plugin
open Script

/-- While the allocator runs for the input there is a deadline. -/
theorem lingering_supplied_in_time :
    ∃ s₀, Stage.Enters ⟨made lingering, world, []⟩ "run" (Stage.exchange ⟨0, 0, 1⟩ "run" 2 [1])
        .supplying 0 [.i32 1] s₀ ∧
      Stage.entered 0 [.i32 1] s₀ (.running [.give [.i32 8]]) s₀ ∧
      s₀.store.deadline = some 5 := by
  have he : Stage.Enters ⟨made lingering, world, []⟩ "run"
      (Stage.exchange ⟨0, 0, 1⟩ "run" 2 [1]) .supplying 0 [.i32 1] _ :=
    .supplying ⟨0, 0, 1⟩ 2 [1] (by decide) (by decide)
  have hm : Stage.entered 0 [.i32 1]
      ((Stage.begun ⟨made lingering, world, []⟩ "run").note (.asked 1))
      (.running [.give [.i32 8]])
      ((Stage.begun ⟨made lingering, world, []⟩ "run").note (.asked 1)) := .inl ⟨rfl, rfl⟩
  exact ⟨_, he, hm, ((deadline_set_except_in_cleanup (opened lingering) rfl rfl
    lingering_accepts _ _).2 _ _ _ _ he hm).1⟩

/-- A deallocator that takes too long is not stopped: it runs without a deadline, and its call goes
well and leaves the plugin open. -/
theorem lingering_cleanup_has_no_deadline :
    (∃ m, Stage.InCall ⟨made lingering, world, []⟩ "run" (Stage.exchange ⟨0, 0, 1⟩ "run" 2 [1])
        (.running [.wait 5000, .give []]) m ∧
      m.store.timeoutMillis = some 5 ∧ m.store.deadline = none) ∧
    ((call "run" [1]).run (⟨lingering, hasty, some (made lingering)⟩, world)).1 = .ok [] ∧
    (((call "run" [1]).run (⟨lingering, hasty, some (made lingering)⟩, world)).2.1.live.map
      fun i => i.store.clock) = some 5000 := by
  refine ⟨⟨_, .releasing _ _ _ ⟨0, 0, 1⟩ _ _ rfl rfl (.inl ⟨rfl, .inl ⟨rfl, rfl⟩⟩), rfl, rfl⟩,
    rfl, rfl⟩

end Plugin

end PluginHost
