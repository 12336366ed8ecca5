import PluginHost.Proofs.Deadline
/-!
The life of a plugin: any operations, in any order, from its opening on. As long as it is open its
instance waits for the next call, so no call is ever refused as re-entrant. It closes at the
operations that are meant to close it and at no other, and from then on nothing changes any more.
-/
namespace PluginHost
variable {g : Guest} {H α : Type}

inductive Operation where
  | call (name : String) (input : Bytes)
  | callValues (name : String) (args : List Value)
  | setVariable (key : String) (value : Bytes)
  | clearVariables
  | valueOf (key : String)
  | memoryPages
  | close

inductive Outcome where
  | octets (r : Except Failure Bytes)
  | values (r : Except Failure (List Value))
  | done (r : Except Failure Unit)
  | value (v : Option Bytes)
  | pages (r : Except Failure Nat)

def Outcome.callFailure? : Outcome → Option Failure
  | .octets (.error e) => some e
  | .values (.error e) => some e
  | _ => none

@[simp] theorem Outcome.callFailure?_octets (r : Except Failure Bytes) (e : Failure) :
    (Outcome.octets r).callFailure? = some e ↔ r = .error e := by
  cases r <;> simp [callFailure?]

@[simp] theorem Outcome.callFailure?_values (r : Except Failure (List Value)) (e : Failure) :
    (Outcome.values r).callFailure? = some e ↔ r = .error e := by
  cases r <;> simp [callFailure?]

namespace Operation

def refusal : Operation → Outcome
  | .call .. => .octets (.error .closed)
  | .callValues .. => .values (.error .closed)
  | .setVariable .. => .done (.error .closed)
  | .clearVariables => .done (.ok ())
  | .valueOf _ => .value none
  | .memoryPages => .pages (.error .closed)
  | .close => .done (.ok ())

def cleanupFailures (i : Instance g H) (w : World H) : Operation → List Failure
  | .call name input => Deeds.failures ((Stage.call name input).run ⟨i, w, []⟩).2.record
  | .callValues name args => Deeds.failures ((Stage.callValues name args).run ⟨i, w, []⟩).2.record
  | _ => []

end Operation

namespace Plugin

def perform : Operation → PluginAction g H Outcome
  | .call name input => Outcome.octets <$> call name input
  | .callValues name args => Outcome.values <$> callValues name args
  | .setVariable key value => fun (p, w) =>
    let (r, p) := p.setVariable key value
    (.done r, (p, w))
  | .clearVariables => fun (p, w) => (.done (.ok ()), (p.clearVariables, w))
  | .valueOf key => fun (p, w) => (.value (p.valueOf? key), (p, w))
  | .memoryPages => fun (p, w) => (.pages p.memoryPages, (p, w))
  | .close => (fun _ => .done (.ok ())) <$> close

@[simp] theorem run_perform_call (name : String) (input : Bytes) (x : Plugin g H × World H) :
    (perform (.call name input)).run x =
      (.octets ((call name input).run x).1, ((call name input).run x).2) := rfl

@[simp] theorem run_perform_callValues (name : String) (args : List Value)
    (x : Plugin g H × World H) :
    (perform (.callValues name args)).run x =
      (.values ((callValues name args).run x).1, ((callValues name args).run x).2) := rfl

@[simp] theorem run_perform_setVariable (key : String) (value : Bytes) (p : Plugin g H)
    (w : World H) :
    (perform (.setVariable key value)).run (p, w) =
      (.done (p.setVariable key value).1, ((p.setVariable key value).2, w)) := rfl

@[simp] theorem run_perform_clearVariables (p : Plugin g H) (w : World H) :
    (perform .clearVariables).run (p, w) = (.done (.ok ()), (p.clearVariables, w)) := rfl

@[simp] theorem run_perform_valueOf (key : String) (p : Plugin g H) (w : World H) :
    (perform (.valueOf key)).run (p, w) = (.value (p.valueOf? key), (p, w)) := rfl

@[simp] theorem run_perform_memoryPages (p : Plugin g H) (w : World H) :
    (perform .memoryPages).run (p, w) = (.pages p.memoryPages, (p, w)) := rfl

def after (p : Plugin g H) : List (Operation × World H) → Plugin g H
  | [] => p
  | (op, w) :: ops => after ((perform op).run (p, w)).2.1 ops

theorem perform_opened {p : Plugin g H} (h : p.Opened) (op : Operation) (w : World H) :
    ((perform op).run (p, w)).2.1.Opened := by
  cases op with
  | call name input => exact .called p h name input w
  | callValues name args => exact .calledValues p h name args w
  | setVariable key value => exact .variableSet p h key value
  | clearVariables => exact .variablesCleared p h
  | valueOf key => exact h
  | memoryPages => exact h
  | close => exact .closed p h w

theorem after_opened {p : Plugin g H} (h : p.Opened) (ops : List (Operation × World H)) :
    (p.after ops).Opened := by
  induction ops generalizing p with
  | nil => exact h
  | cons x ops ih => exact ih (perform_opened h x.1 x.2)

def origin (p : Plugin g H) : g.Module × Settings := (p.module, p.settings)

theorem calling_origin (name : String) (t : Task g H α) (p : Plugin g H) (w : World H) :
    ((calling name t).run (p, w)).2.1.origin = p.origin := by
  cases hl : p.live with
  | none => rw [run_calling_closed name t hl]
  | some i =>
    obtain ⟨-, h⟩ := run_calling name t hl w (Prod.eta _).symm
    rw [h]
    rfl

theorem perform_origin (op : Operation) (p : Plugin g H) (w : World H) :
    ((perform op).run (p, w)).2.1.origin = p.origin := by
  cases op with
  | call name input => exact calling_origin name _ p w
  | callValues name args => exact calling_origin name _ p w
  | setVariable key value =>
    change (p.setVariable key value).2.origin = _
    unfold setVariable
    split
    · rfl
    · split <;> rfl
  | clearVariables => rfl
  | valueOf key => rfl
  | memoryPages => rfl
  | close =>
    obtain ⟨m, settings, live⟩ := p
    cases live <;> rfl

theorem after_origin (p : Plugin g H) (ops : List (Operation × World H)) :
    (p.after ops).origin = p.origin := by
  induction ops generalizing p with
  | nil => rfl
  | cons x ops ih => exact (ih _).trans (perform_origin x.1 p x.2)

/-- No operation changes a closed plugin, or anything that plugins share. -/
theorem perform_closed (op : Operation) {p : Plugin g H} (hp : p.live = none) (w : World H) :
    (perform op).run (p, w) = (op.refusal, (p, w)) := by
  obtain ⟨m, settings, live⟩ := p
  obtain rfl := hp
  cases op <;> rfl

theorem after_closed (ops : List (Operation × World H)) {p : Plugin g H} (hp : p.live = none) :
    p.after ops = p := by
  induction ops generalizing p with
  | nil => rfl
  | cons x ops ih =>
    have hx : ((perform x.1).run (p, x.2)).2.1 = p := by rw [perform_closed x.1 hp]
    change after ((perform x.1).run (p, x.2)).2.1 ops = p
    rw [hx, ih hp]

end Plugin

namespace Stage

/-- An accepted call spoils an instance exactly where the deallocator failed. -/
theorem Accepts.poisoned_iff {s : Stage g H} {name : String} {t body : Task g H α}
    (h : s.Accepts name t body) (hs : s.store.poisoned = false) (hd : s.deeds = []) :
    (t.run s).2.store.poisoned = true ↔ Deeds.failures (t.run s).2.record ≠ [] := by
  rcases hb : body.run (s.begun name) with ⟨r, s₁⟩
  obtain ⟨A, adopted, C, c, s₂, hw, hr, ht⟩ := h.released hb
  have hdid : s.Did (A ++ C) (t.run s).2 := by
    rw [ht]
    exact Did.trans hw.did (hr.did_of_leaving name)
  have hrec : Deeds.failures (t.run s).2.record = Deeds.failures C := by
    have hn : s.record = [] := by rw [record, hd, List.reverse_nil]
    rw [hdid.record_eq, hn, List.nil_append, Deeds.failures_append, hw.failures, List.nil_append]
  have hp : (t.run s).2.store.poisoned = c.isSome := by
    have hf : (t.run s).2.store.poisoned = (s.store.poisoned || c.isSome) := by
      rw [ht]
      exact congrArg Fixed.poisoned (hr.ended_steady hw)
    rw [hf, hs, Bool.false_or]
  rw [hp, hrec, ← hr.cleanup]
  cases Deeds.failures C <;> simp

end Stage

theorem Failure.isFatal_iff (e : Failure) :
    e.isFatal = true ↔ e.kind = .timeout ∨ e.kind = .closed := by
  unfold isFatal
  cases e.kind <;> simp

namespace Plugin

/-- A call closes a plugin because of the failure that it returns, or because buffers could not be
given back. -/
theorem calling_closed_iff {name : String} {t : Task g H α} {p : Plugin g H} {i : Instance g H}
    (hi : p.live = some i) (hs : i.store.poisoned = false)
    (ht : Stage.Calling name t) (w : World H) :
    ((calling name t).run (p, w)).2.1.live = none ↔
      (∃ e, ((calling name t).run (p, w)).1 = .error e ∧
        (e.kind = .timeout ∨ e.kind = .closed)) ∨
      Deeds.failures (t.run ⟨i, w, []⟩).2.record ≠ [] := by
  have hq : (t.run ⟨i, w, []⟩).2.store.poisoned = true ↔
      Deeds.failures (t.run ⟨i, w, []⟩).2.record ≠ [] := by
    rcases ht ⟨i, w, []⟩ with ⟨body, ha⟩ | ⟨e, he⟩
    · exact ha.poisoned_iff hs rfl
    · rw [he.run_eq]
      simp [hs, Stage.record, Deeds.failures]
  rcases hr : t.run ⟨i, w, []⟩ with ⟨r, s⟩
  obtain ⟨h₁, h₂⟩ := run_calling name t hi w hr
  rw [hr] at hq
  rw [h₁, h₂, ← hq]
  cases r with
  | ok a => cases hc : s.store.poisoned <;> simp [closes, hc]
  | error e =>
    cases hc : s.store.poisoned <;> cases hf : e.isFatal <;>
      simp [closes, hc, hf, ← Failure.isFatal_iff]

/-- What closes an open plugin: that it is closed, or that a call fails beyond repair or could not
give its buffers back. -/
theorem perform_closes_iff {p : Plugin g H} {i : Instance g H} (hi : p.live = some i)
    (hs : i.store.poisoned = false) (op : Operation) (w : World H) :
    ((perform op).run (p, w)).2.1.live = none ↔
      op = .close ∨
      (∃ e, ((perform op).run (p, w)).1.callFailure? = some e ∧
        (e.kind = .timeout ∨ e.kind = .closed)) ∨
      op.cleanupFailures i w ≠ [] := by
  cases op with
  | call name input =>
    have h := calling_closed_iff hi hs (Stage.call_calling name input) w
    simpa [Operation.cleanupFailures, call] using h
  | callValues name args =>
    have h := calling_closed_iff hi hs (Stage.callValues_calling name args) w
    simpa [Operation.cleanupFailures, callValues] using h
  | setVariable key value =>
    have hl : (p.setVariable key value).2.live ≠ none := by
      rw [setVariable, hi]
      dsimp only
      split <;> simp [hi]
    simpa [Outcome.callFailure?, Operation.cleanupFailures] using hl
  | clearVariables =>
    have hl : p.clearVariables.live ≠ none := by simp [clearVariables, hi]
    simpa [Outcome.callFailure?, Operation.cleanupFailures] using hl
  | valueOf key => simp [Outcome.callFailure?, Operation.cleanupFailures, hi]
  | memoryPages => simp [Outcome.callFailure?, Operation.cleanupFailures, hi]
  | close =>
    obtain ⟨m, settings, live⟩ := p
    obtain rfl := hi
    exact iff_of_true rfl (.inl rfl)

section Made
variable {registry : Registry H} {m : g.Module} {settings : Settings} {w w' : World H}
  {i : Instance g H} {ops : List (Operation × World H)} {p : Plugin g H}

/-- A plugin that was opened and is still open after some operations is ready, with the allocator
that was found when it was opened. -/
theorem ready_after (made : (Opening.instantiate registry m settings).run w = (.ok i, w'))
    (used : after ⟨m, settings, some i⟩ ops = p) {j : Instance g H} (hj : p.live = some j) :
    j.Ready m settings ∧ j.store.bridge = i.store.bridge := by
  subst used
  have ho : Opened (after ⟨m, settings, some i⟩ ops) := after_opened (.opened _ _ _ _ _ _ made) ops
  obtain ⟨hm, hs⟩ := Prod.mk.inj (after_origin ⟨m, settings, some i⟩ ops)
  have hr := ho.ready j hj
  rw [hm, hs] at hr
  have hi := Opening.instantiate_ready made
  exact ⟨hr, Except.ok.inj (hr.bridge.symm.trans hi.bridge)⟩

/-- After any operations, whether they go well, are refused or fail, a plugin is closed, or its
instance waits for a call: none is in progress, no deadline is set, nothing is spoilt and the
allocator is the one that was found at the opening. So a call can always begin, and is refused for
what it asks alone. -/
theorem closed_or_waits_for_call
    (made : (Opening.instantiate registry m settings).run w = (.ok i, w'))
    (used : after ⟨m, settings, some i⟩ ops = p) :
    p.isClosed = true ∨
      ∃ j, p.live = some j ∧
        j.store.phase = .idle ∧ j.store.call = none ∧ j.store.deadline = none ∧
        j.store.poisoned = false ∧ j.store.bridge = i.store.bridge ∧
        ∀ name w₁,
          (Stage.begin name : Task g H Unit).run ⟨j, w₁, []⟩ =
            (.ok (), Stage.begun ⟨j, w₁, []⟩ name) ∧
          (∀ input, (∃ body, Stage.Accepts ⟨j, w₁, []⟩ name (Stage.call name input) body) ∨
            ∃ e, Stage.Refuses ⟨j, w₁, []⟩ name (Stage.call name input) e ∧
              (e.kind = .unknownExport ∨ e.kind = .argument)) ∧
          (∀ args, (∃ body, Stage.Accepts ⟨j, w₁, []⟩ name (Stage.callValues name args) body) ∨
            ∃ e, Stage.Refuses ⟨j, w₁, []⟩ name (Stage.callValues name args) e ∧
              (e.kind = .unknownExport ∨ e.kind = .argument)) := by
  cases hj : p.live with
  | none => exact .inl (by rw [isClosed, hj]; rfl)
  | some j =>
    obtain ⟨hr, hb⟩ := ready_after made used hj
    refine .inr ⟨j, rfl, hr.idle, hr.free, hr.rested, hr.sound, hb, fun name w₁ =>
      ⟨Stage.run_begin name hr.idle, fun input => ?_, fun args => ?_⟩⟩
    · exact (Stage.call_calling name input).accepted_or_unfit hr.idle
    · exact (Stage.callValues_calling name args).accepted_or_unfit hr.idle

open Script in
/-- A failed call leaves a plugin open and waiting. -/
theorem greedy_waits_for_call :
    ∃ j, (after ⟨greedy, hasty, some (made greedy)⟩ [(.call "run" [1], world)]).live = some j ∧
      j.store.phase = .idle ∧ j.store.bridge = some ⟨0, 0, 1⟩ ∧
      (Stage.begin "run" : Task guest Unit Unit).run ⟨j, world, []⟩ =
        (.ok (), Stage.begun ⟨j, world, []⟩ "run") := by
  have hm : (Opening.instantiate Registry.empty greedy hasty).run world =
      (.ok (made greedy), _) := rfl
  have hu : after ⟨greedy, hasty, some (made greedy)⟩ [(.call "run" [1], world)] = _ := rfl
  rcases closed_or_waits_for_call hm hu with hc | ⟨j, hj, hi, -, -, -, hb, ht⟩
  · cases hc
  · exact ⟨j, hj, hi, hb, (ht "run" world).1⟩

/-- What closes a plugin, after any operations: that it is closed, a call that fails because it took
too long or because something was closed, and a call during which the deallocator failed, whatever
that call returned. From then on every operation is refused or does nothing, and nothing changes any
more. What the module and the settings say stays known. -/
theorem closes_exactly_for_cause
    (made : (Opening.instantiate registry m settings).run w = (.ok i, w'))
    (used : after ⟨m, settings, some i⟩ ops = p) :
    (∀ j, p.live = some j → ∀ op w₁,
      (((perform op).run (p, w₁)).2.1.isClosed = true ↔
        op = .close ∨
        (∃ e, ((perform op).run (p, w₁)).1.callFailure? = some e ∧
          (e.kind = .timeout ∨ e.kind = .closed)) ∨
        op.cleanupFailures j w₁ ≠ [])) ∧
    (p.isClosed = true →
      (∀ op w₁, (perform op).run (p, w₁) = (op.refusal, (p, w₁))) ∧
      ∀ later, p.after later = p) ∧
    p.info = g.info m ∧ p.settings = settings ∧
    ∀ name, p.functionExists name = ((g.info m).export? name).isSome := by
  have ho : p.origin = (m, settings) := by rw [← used, after_origin]; rfl
  obtain ⟨hm, hs⟩ := Prod.mk.inj ho
  have hinfo : p.info = g.info m := congrArg g.info hm
  refine ⟨fun j hj op w₁ => ?_, fun hc => ?_, hinfo, hs, fun name => ?_⟩
  · rw [isClosed, Option.isNone_iff_eq_none]
    exact perform_closes_iff hj (ready_after made used hj).1.sound op w₁
  · have hn := Option.isNone_iff_eq_none.mp hc
    exact ⟨fun op w₁ => perform_closed op hn w₁, fun later => after_closed later hn⟩
  · rw [functionExists, hinfo]

end Made

end Plugin

namespace Script

def stuck : guest.Module :=
  [[.give [.i32 8]], List.replicate guest.stepLimit (.wait 0), [.give [.i64 0]]]

end Script

namespace Plugin

open Script in
/-- A call whose failure closes nothing by itself closes the plugin because of the deallocator. -/
theorem stuck_cleanup_closes :
    Operation.cleanupFailures (made stuck) world (.call "run" [1]) = [.fuelExhausted] ∧
      ((perform (.call "run" [1])).run (⟨stuck, hasty, some (made stuck)⟩, world)).1 =
        .octets (.error .fuelExhausted) ∧
      ((perform (.call "run" [1])).run (⟨stuck, hasty, some (made stuck)⟩, world)).2.1.isClosed =
        true := by
  have hm : (Opening.instantiate Registry.empty stuck hasty).run world =
      (.ok (made stuck), _) := rfl
  have hf : Operation.cleanupFailures (made stuck) world (.call "run" [1]) = [.fuelExhausted] := rfl
  have hu : after (⟨stuck, hasty, some (made stuck)⟩ : Plugin guest Unit) [] = _ := rfl
  refine ⟨hf, rfl, ?_⟩
  refine ((closes_exactly_for_cause hm hu).1 _ rfl _ _).mpr (.inr (.inr ?_))
  rw [hf]
  nofun

end Plugin

end PluginHost
