import PluginHost.Proofs.Emission
/-!
An attempt to install the log, step by step. It looks, opens its file, takes the place of the log
and announces its settings; between these steps others may do anything, and somebody else in the
process may take the place first. Made alone, an attempt does what the host does to install the log.
-/
namespace PluginHost

namespace Log

structure Process where
  journal : Journal
  active : Option Settings

inductive Attempt where
  | init (s : Settings)
  | setFile (target : Target) (level : Level)
  | ensure (s : Settings)

def Attempt.settings : Attempt → Settings
  | .init s => s
  | .setFile target level => { Settings.to target with level := some level }
  | .ensure s => s

inductive Progress where
  | looking
  /-- It found other settings than its own. -/
  | warning (active : Settings)
  | checking
  | opening
  | installing (file : Option Path)
  | publishing
  /-- The answer of the installation, if there was one, and of the whole attempt. -/
  | ended (inner : Option (Except LogFailure Unit)) (answer : Except LogFailure Unit)

namespace Progress

def Holds (x : Progress) : Prop := x = .publishing ∨ ∃ answer, x = .ended (some (.ok ())) answer

def Installs : Progress → Prop
  | .looking => False
  | .warning _ => False
  | .ended none _ => False
  | _ => True

def rank : Progress → Nat
  | .looking => 5
  | .checking => 4
  | .opening => 3
  | .installing _ => 2
  | .warning _ => 1
  | .publishing => 1
  | .ended .. => 0

end Progress

theorem Journal.of_openTarget {files : Files} {target : Target} {e : LogFailure}
    (h : openTarget files target = .error e) : ∃ path cause,
      target = .file path ∧ e = .openFile path cause ∧
        files.openForWriting path = .error cause := by
  cases target with
  | file path =>
    unfold openTarget at h
    dsimp only at h
    cases ho : files.openForWriting path with
    | error cause =>
      rw [ho] at h
      exact ⟨path, cause, rfl, (Except.error.inj h).symm, ho⟩
    | ok x =>
      rw [ho] at h
      cases h
  | _ => cases h

namespace Attempt

def start : Attempt → Progress
  | .ensure _ => .looking
  | _ => .checking

def leave (a : Attempt) (r : Except LogFailure Unit) : Progress :=
  .ended (some r) (match a, r with
    | .ensure _, .error .alreadyInitialized => .ok ()
    | _, r => r)

def advance (a : Attempt) : Progress → Process → Progress × Process
  | .looking, p =>
    match p.active with
    | none => (.checking, p)
    | some s => (if s = a.settings then .ended none (.ok ()) else .warning s, p)
  | .warning s, p =>
    (.ended none (.ok ()),
      { p with journal := p.journal.emit (.settingsIgnored s.target a.settings.target) })
  | .checking, p =>
    (match p.active with
      | none => .opening
      | some _ => a.leave (.error .alreadyInitialized), p)
  | .opening, p =>
    match Journal.openTarget p.journal.files a.settings.target with
    | .error e => (a.leave (.error e), p)
    | .ok (file, files) => (.installing file, { p with journal := { p.journal with files } })
  | .installing file, p =>
    if p.journal.installed.isSome ∨ p.journal.occupied then
      (a.leave (.error .alreadyInitialized), p)
    else
      (.publishing, { p with journal := { p.journal with
        installed := some ⟨a.settings, a.settings.filter p.journal.environment, file⟩ } })
  | .publishing, p => (a.leave (.ok ()), { p with active := p.active.or (some a.settings) })
  | .ended inner answer, p => (.ended inner answer, p)

def perform (a : Attempt) (j : Journal) : Except LogFailure Unit × Journal :=
  match a with
  | .ensure s => j.ensure s
  | _ => j.init a.settings

def run (a : Attempt) : Nat → Progress × Process → Progress × Process
  | 0, x => x
  | n + 1, x => a.run n (a.advance x.1 x.2)

theorem run_checking (a : Attempt) (j : Journal) :
    a.run 4 (.checking, ⟨j, j.active?⟩) =
      (a.leave (j.init a.settings).1,
        ⟨(j.init a.settings).2, (j.init a.settings).2.active?⟩) := by
  cases hi : j.installed with
  | some i =>
    have ha : j.active? = some i.settings := by simp [Journal.active?, hi]
    simp [run, advance, leave, Journal.init, hi, ha]
  | none =>
    have ha : j.active? = none := by simp [Journal.active?, hi]
    cases ho : Journal.openTarget j.files a.settings.target with
    | error e => simp [run, advance, leave, Journal.init, hi, ha, ho]
    | ok x =>
      cases hc : j.occupied with
      | true => simp [run, advance, leave, Journal.init, hi, ho, hc, Journal.active?]
      | false => simp [run, advance, leave, Journal.init, hi, ho, hc, Journal.active?]

/-- The answer of a plugin's attempt where nothing is announced. -/
theorem ensure_of_none {j : Journal} (ha : j.active? = none) (s : Settings) :
    (ensure s).leave (j.init s).1 = .ended (some (j.init s).1) (j.ensure s).1 ∧
      (j.ensure s).2 = (j.init s).2 := by
  unfold Journal.ensure
  rw [ha]
  dsimp only
  rcases j.init s with ⟨e | ⟨⟩, j'⟩
  · cases e <;> exact ⟨rfl, rfl⟩
  · exact ⟨rfl, rfl⟩

/-- An attempt that nobody interrupts does what the host does to install the log. -/
theorem run_perform (a : Attempt) (j : Journal) :
    ∃ n inner, a.run n (a.start, ⟨j, j.active?⟩) =
      (.ended inner (a.perform j).1, ⟨(a.perform j).2, (a.perform j).2.active?⟩) := by
  cases a with
  | init s => exact ⟨4, some (j.init s).1, run_checking (.init s) j⟩
  | setFile target level => exact ⟨4, _, run_checking (.setFile target level) j⟩
  | ensure s =>
    cases ha : j.active? with
    | none =>
      have hr := run_checking (.ensure s) j
      obtain ⟨hl, hj⟩ := ensure_of_none ha s
      rw [ha, show (Attempt.ensure s).settings = s from rfl, hl, ← hj] at hr
      exact ⟨5, some (j.init s).1, hr⟩
    | some active =>
      refine ⟨2, none, ?_⟩
      by_cases hs : active = s
      · simp [run, start, advance, perform, Journal.ensure, settings, ha, hs]
      · have he : (j.emit (.settingsIgnored active.target s.target)).active? = some active := by
          rw [← ha, Journal.active?, (j.emit_place _).1]
          rfl
        simp [run, start, advance, perform, Journal.ensure, settings, ha, hs, he]

theorem leave_of_not_ensure {a : Attempt} (h : ∀ c, a ≠ .ensure c) (r : Except LogFailure Unit) :
    a.leave r = .ended (some r) r := by
  cases a with
  | ensure c => exact absurd rfl (h c)
  | _ => rfl

/-- A plugin does not pass on that there is a log. -/
theorem leave_ensure (c : Settings) (r : Except LogFailure Unit) :
    (ensure c).leave r = .ended (some r) (.ok ()) ∨
      (ensure c).leave r = .ended (some r) r ∧ ∃ e, r = .error e ∧ e ≠ .alreadyInitialized := by
  rcases r with e | ⟨⟩
  · cases e with
    | alreadyInitialized => exact .inl rfl
    | _ => exact .inr ⟨rfl, _, rfl, nofun⟩
  · exact .inl rfl

theorem leave_holds {a : Attempt} {r : Except LogFailure Unit} :
    (a.leave r).Holds ↔ r = .ok () := by
  rcases r with e | ⟨⟩ <;> simp [leave, Progress.Holds]

/-- All that a step can do. It takes the place of the log where that is free, or announces the
settings where the place was taken, or leaves alone both and whoever has the place. -/
theorem advance_cases (a : Attempt) (x : Progress) (p : Process) :
    (∃ file, x = .installing file ∧ p.journal.installed = none ∧ p.journal.occupied = false ∧
      a.advance x p = (.publishing, { p with journal := { p.journal with
        installed := some ⟨a.settings, a.settings.filter p.journal.environment, file⟩ } })) ∨
    (x = .publishing ∧ a.advance x p =
      (a.leave (.ok ()), { p with active := p.active.or (some a.settings) })) ∨
    ((a.advance x p).2.active = p.active ∧
      (a.advance x p).2.journal.installed = p.journal.installed ∧
      ((a.advance x p).1.Holds → (a.advance x p).1 = x)) := by
  cases x with
  | publishing => exact .inr (.inl ⟨rfl, rfl⟩)
  -- The one step that takes the place of the log, if that is free.
  | installing file =>
    by_cases h : p.journal.installed.isSome ∨ p.journal.occupied
    · refine .inr (.inr ?_)
      simp [advance, h, leave_holds]
    · obtain ⟨hi, ho⟩ : p.journal.installed = none ∧ p.journal.occupied = false := by
        simpa using h
      exact .inl ⟨file, rfl, hi, ho, by simp [advance, hi, ho]⟩
  | looking =>
    refine .inr (.inr ?_)
    cases ha : p.active with
    | none => simp [advance, ha, Progress.Holds]
    | some c => by_cases hc : c = a.settings <;> simp [advance, ha, hc, Progress.Holds]
  | warning c =>
    exact .inr (.inr ⟨rfl, (p.journal.emit_place _).1, by simp [advance, Progress.Holds]⟩)
  | checking =>
    refine .inr (.inr ?_)
    cases ha : p.active <;> simp [advance, ha, leave, Progress.Holds]
  | opening =>
    refine .inr (.inr ?_)
    cases ho : Journal.openTarget p.journal.files a.settings.target <;>
      simp [advance, ho, leave, Progress.Holds]
  | ended inner answer => exact .inr (.inr ⟨rfl, rfl, fun _ => rfl⟩)

/-- Each step of an attempt brings it nearer to its end. -/
theorem advance_rank (a : Attempt) {x : Progress} (hx : 0 < x.rank) (p : Process) :
    (a.advance x p).1.rank < x.rank := by
  cases x with
  | looking =>
    cases ha : p.active with
    | none => simp [advance, ha, Progress.rank]
    | some c => by_cases hc : c = a.settings <;> simp [advance, ha, hc, Progress.rank]
  | warning c => exact Nat.one_pos
  | checking => cases ha : p.active <;> simp [advance, ha, leave, Progress.rank]
  | opening =>
    cases ho : Journal.openTarget p.journal.files a.settings.target <;>
      simp [advance, ho, leave, Progress.rank]
  | installing file =>
    by_cases h : p.journal.installed.isSome ∨ p.journal.occupied <;>
      simp [advance, h, leave, Progress.rank]
  | publishing => exact Nat.one_pos
  | ended inner answer => cases hx

theorem run_ends (a : Attempt) (x : Progress) (p : Process) :
    ∃ n inner answer, (a.run n (x, p)).1 = .ended inner answer := by
  have h (k : Nat) : ∀ x p, x.rank ≤ k →
      ∃ n inner answer, (a.run n (x, p)).1 = .ended inner answer := by
    induction k with
    | zero =>
      intro x p hx
      cases x with
      | ended inner answer => exact ⟨0, inner, answer, rfl⟩
      | _ => cases hx
    | succ k ih =>
      intro x p hx
      rcases Nat.eq_zero_or_pos x.rank with h₀ | h₀
      · exact ih x p (by omega)
      · have hr := a.advance_rank h₀ p
        obtain ⟨n, inner, answer, hn⟩ := ih (a.advance x p).1 (a.advance x p).2 (by omega)
        exact ⟨n + 1, inner, answer, hn⟩
  exact h x.rank x p (Nat.le_refl _)

end Attempt

end Log

end PluginHost
