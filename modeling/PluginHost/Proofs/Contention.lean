import Mathlib.Logic.Relation
import PluginHost.Proofs.Attempts
/-!
Attempts of many threads to install the log, in any order of their steps. One at most succeeds, what
is announced are its settings, and all others are told why they failed; a plugin is only told of its
own file.
-/
namespace PluginHost

namespace Log

structure Try where
  attempt : Attempt
  progress : Progress
  /-- The settings that were announced when it began. -/
  seen : Option Settings

def Try.Won (t : Try) : Prop := ∃ answer, t.progress = .ended (some (.ok ())) answer

/-- What others in the process may do to a log: anything but install it, and somebody may take its
place while that is free. -/
def Journal.Drifts (j j' : Journal) : Prop :=
  j'.installed = j.installed ∧
    (j'.occupied = j.occupied ∨ j.installed = none ∧ j'.occupied = true)

structure Scene where
  process : Process
  tries : List Try

namespace Scene

abbrev Has (s : Scene) (i : Nat) (t : Try) : Prop := s.tries[i]? = some t

def begin (s : Scene) (a : Attempt) : Scene :=
  { s with tries := s.tries ++ [⟨a, a.start, s.process.active⟩] }

def step (s : Scene) (i : Nat) (t : Try) : Scene :=
  let (progress, process) := t.attempt.advance t.progress s.process
  ⟨process, s.tries.set i { t with progress }⟩

structure Fresh (s : Scene) : Prop where
  untried : s.tries = []
  told : s.process.active = s.process.journal.active?

theorem Fresh.not_has {s : Scene} (h : s.Fresh) {i : Nat} {t : Try} : ¬ s.Has i t := by
  rw [Has, h.untried]
  exact nofun

inductive Step : Scene → Scene → Prop
  | begun (s : Scene) (a : Attempt) : Step s (s.begin a)
  | advanced (s : Scene) (i : Nat) (t : Try) (there : s.Has i t) : Step s (s.step i t)
  | elsewhere (s : Scene) (j : Journal) (drifts : s.process.journal.Drifts j) :
    Step s { s with process := { s.process with journal := j } }

/-- What can happen at all: attempts of any number of threads, in any order of their steps. -/
abbrev Reaches : Scene → Scene → Prop := Relation.ReflTransGen Step

variable {s s₀ s' : Scene} {i j : Nat} {t u : Try}

theorem of_begin_has {a : Attempt} (h : (s.begin a).Has j u) :
    s.Has j u ∨ u = ⟨a, a.start, s.process.active⟩ := by
  change (s.tries ++ [_])[j]? = some u at h
  rcases Nat.lt_trichotomy j s.tries.length with hj | rfl | hj
  · exact .inl (by rwa [List.getElem?_append_left hj] at h)
  · exact .inr (by simpa using h.symm)
  · rw [List.getElem?_eq_none (by simp; omega)] at h
    cases h

theorem step_has (h : s.Has i t) :
    (s.step i t).Has i { t with progress := (t.attempt.advance t.progress s.process).1 } := by
  have hi : i < s.tries.length := (List.getElem?_eq_some_iff.mp h).1
  exact List.getElem?_set_self hi

theorem step_has_ne (hj : j ≠ i) : (s.step i t).Has j u ↔ s.Has j u := by
  change (s.tries.set i _)[j]? = some u ↔ _
  rw [List.getElem?_set_ne hj.symm]

theorem of_step_has (h : s.Has i t) (hu : (s.step i t).Has j u) :
    (j = i ∧ u = { t with progress := (t.attempt.advance t.progress s.process).1 }) ∨
      (j ≠ i ∧ s.Has j u) := by
  by_cases hj : j = i
  · subst hj
    exact .inl ⟨rfl, Option.some.inj (hu.symm.trans (step_has h))⟩
  · exact .inr ⟨hj, (step_has_ne hj).mp hu⟩

end Scene

namespace Try

variable {t : Try} {p p' : Process}

theorem Won.holds (h : t.Won) : t.progress.Holds := .inr h

structure Sound (t : Try) (p : Process) : Prop where
  held : t.progress.Holds → p.journal.active? = some t.attempt.settings
  unannounced : t.progress = .publishing → p.active = none
  announced : t.Won → p.active = some t.attempt.settings
  lasting : ∀ c, t.seen = some c → p.active = some c

theorem Sound.of_not_holds (hn : ¬ t.progress.Holds)
    (hl : ∀ c, t.seen = some c → p.active = some c) : t.Sound p where
  held h := absurd h hn
  unannounced h := absurd (.inl h) hn
  announced h := absurd h.holds hn
  lasting := hl

theorem Sound.of_same (h : t.Sound p) (hj : p'.journal.installed = p.journal.installed)
    (ha : p'.active = p.active) : t.Sound p' := by
  have hi : p'.journal.active? = p.journal.active? := by rw [Journal.active?, hj, Journal.active?]
  exact {
    held := fun hh => hi.trans (h.held hh)
    unannounced := fun hp => ha.trans (h.unannounced hp)
    announced := fun hw => ha.trans (h.announced hw)
    lasting := fun c hc => ha.trans (h.lasting c hc) }

end Try

namespace Scene

variable {s s₀ s' : Scene} {i j : Nat} {t u : Try}

structure Sound (s : Scene) : Prop where
  told : ∀ c, s.process.active = some c → s.process.journal.active? = some c
  each : ∀ i t, s.Has i t → t.Sound s.process
  one : ∀ i j t u, s.Has i t → s.Has j u → t.progress.Holds →
    u.progress.Holds → i = j

namespace Sound

theorem of_fresh (h : s.Fresh) : s.Sound where
  told _ hc := h.told.symm.trans hc
  each _ _ ht := absurd ht h.not_has
  one _ _ _ _ ht := absurd ht h.not_has

theorem begin (h : s.Sound) (a : Attempt) : (s.begin a).Sound := by
  have hn : ¬ a.start.Holds := by cases a <;> simp [Attempt.start, Progress.Holds]
  refine ⟨h.told, fun i t ht => ?_, fun i j t u ht hu htp hup => ?_⟩
  · rcases of_begin_has ht with ht | rfl
    · exact h.each i t ht
    · exact .of_not_holds hn fun _ hc => hc
  · rcases of_begin_has ht with ht | rfl
    · rcases of_begin_has hu with hu | rfl
      · exact h.one i j t u ht hu htp hup
      · exact absurd hup hn
    · exact absurd htp hn

theorem elsewhere (h : s.Sound) {j : Journal} (hj : j.installed = s.process.journal.installed) :
    ({ s with process := { s.process with journal := j } } : Scene).Sound where
  told c hc := by
    have hi := h.told c hc
    rwa [Journal.active?, ← hj] at hi
  each i t ht := (h.each i t ht).of_same hj rfl
  one := h.one

/-- As long as the place of the log is free, no attempt has taken it and nothing is announced. -/
theorem free (h : s.Sound) (hi : s.process.journal.installed = none) :
    s.process.active = none ∧ ∀ i t, s.Has i t → ¬ t.progress.Holds := by
  have ha : s.process.journal.active? = none := by rw [Journal.active?, hi]; rfl
  refine ⟨?_, fun i t ht hh => ?_⟩
  · cases hc : s.process.active with
    | none => rfl
    | some c => cases ha.symm.trans (h.told c hc)
  · cases ha.symm.trans ((h.each i t ht).held hh)

theorem taken (h : s.Sound) (ht : s.Has i t) {file : Option Path}
    (hi : s.process.journal.installed = none)
    (ha : t.attempt.advance t.progress s.process =
      (.publishing, { s.process with journal := { s.process.journal with
        installed := some ⟨t.attempt.settings,
          t.attempt.settings.filter s.process.journal.environment, file⟩ } })) :
    (s.step i t).Sound := by
  obtain ⟨hn, hf⟩ := h.free hi
  have hp : (s.step i t).process.active = none := by rw [step, ha]; exact hn
  have hseen (u : Try) (j : Nat) (hu : s.Has j u) (c : Settings)
      (hc : u.seen = some c) : (s.step i t).process.active = some c :=
    absurd ((h.each j u hu).lasting c hc) (by rw [hn]; exact nofun)
  refine ⟨fun c hc => (nomatch hp.symm.trans hc), fun j u hu => ?_, fun j k u v hu hv hup hvp => ?_⟩
  · rcases of_step_has ht hu with ⟨rfl, rfl⟩ | ⟨hj, hu⟩
    · rw [ha]
      exact {
        held := fun _ => by rw [step, ha]; rfl
        unannounced := fun _ => hp
        announced := fun hw => by
          obtain ⟨answer, hw⟩ := hw
          cases hw
        lasting := hseen t j ht }
    · exact .of_not_holds (hf j u hu) (hseen u j hu)
  · rcases of_step_has ht hu with ⟨rfl, rfl⟩ | ⟨-, hu⟩
    · rcases of_step_has ht hv with ⟨rfl, rfl⟩ | ⟨-, hv⟩
      · rfl
      · exact absurd hvp (hf k v hv)
    · exact absurd hup (hf j u hu)

/-- The attempt that has the place announces its settings. -/
theorem published (h : s.Sound) (ht : s.Has i t) (hx : t.progress = .publishing)
    (ha : t.attempt.advance t.progress s.process = (t.attempt.leave (.ok ()),
      { s.process with active := s.process.active.or (some t.attempt.settings) })) :
    (s.step i t).Sound := by
  have hh : t.progress.Holds := .inl hx
  have hn := (h.each i t ht).unannounced hx
  have hp : (s.step i t).process.active = some t.attempt.settings := by rw [step, ha, hn]; rfl
  have hj : (s.step i t).process.journal = s.process.journal := by rw [step, ha]
  have hseen (u : Try) (j : Nat) (hu : s.Has j u) (c : Settings)
      (hc : u.seen = some c) : (s.step i t).process.active = some c :=
    absurd ((h.each j u hu).lasting c hc) (by rw [hn]; exact nofun)
  refine ⟨fun c hc => ?_, fun j u hu => ?_, fun j k u v hu hv hup hvp => ?_⟩
  · obtain rfl := Option.some.inj (hp.symm.trans hc)
    rw [hj]
    exact (h.each i t ht).held hh
  · rcases of_step_has ht hu with ⟨rfl, rfl⟩ | ⟨hne, hu⟩
    · rw [ha]
      exact {
        held := fun _ => by rw [hj]; exact (h.each j t ht).held hh
        unannounced := fun hw => nomatch hw
        announced := fun _ => hp
        lasting := hseen t j ht }
    · exact .of_not_holds (fun hu' => hne (h.one j i u t hu ht hu' hh)) (hseen u j hu)
  · rcases of_step_has ht hu with ⟨rfl, rfl⟩ | ⟨-, hu'⟩
    · rcases of_step_has ht hv with ⟨rfl, rfl⟩ | ⟨-, hv'⟩
      · rfl
      · exact h.one j k t v ht hv' hh hvp
    · rcases of_step_has ht hv with ⟨rfl, rfl⟩ | ⟨-, hv'⟩
      · exact h.one j k u t hu' ht hup hh
      · exact h.one j k u v hu' hv' hup hvp

/-- A step that leaves the place of the log and what is announced alone. -/
theorem quiet (h : s.Sound) (ht : s.Has i t)
    (ha : (t.attempt.advance t.progress s.process).2.active = s.process.active)
    (hj : (t.attempt.advance t.progress s.process).2.journal.installed =
      s.process.journal.installed)
    (hx : (t.attempt.advance t.progress s.process).1.Holds →
      (t.attempt.advance t.progress s.process).1 = t.progress) : (s.step i t).Sound := by
  -- Whoever has the place now has had it before.
  have hback (j : Nat) (u : Try) (hu : (s.step i t).Has j u) (hup : u.progress.Holds) :
      s.Has j u := by
    rcases of_step_has ht hu with ⟨rfl, rfl⟩ | ⟨-, hu⟩
    · rw [hx hup]
      exact ht
    · exact hu
  refine ⟨fun c hc => ?_, fun j u hu => ?_, fun j k u v hu hv hup hvp =>
    h.one j k u v (hback j u hu hup) (hback k v hv hvp) hup hvp⟩
  · have hi := h.told c (ha.symm.trans hc)
    rwa [Journal.active?, ← hj] at hi
  · by_cases hup : u.progress.Holds
    · exact (h.each j u (hback j u hu hup)).of_same hj ha
    · refine .of_not_holds hup fun c hc => ha.trans ?_
      rcases of_step_has ht hu with ⟨rfl, rfl⟩ | ⟨-, hu⟩
      · exact (h.each j t ht).lasting c hc
      · exact (h.each j u hu).lasting c hc

theorem advanced (h : s.Sound) (ht : s.Has i t) : (s.step i t).Sound := by
  rcases t.attempt.advance_cases t.progress s.process with
    ⟨file, -, hi, -, ha⟩ | ⟨hx, ha⟩ | ⟨ha, hj, hx⟩
  · exact h.taken ht hi ha
  · exact h.published ht hx ha
  · exact h.quiet ht ha hj hx

theorem of_step (h : s.Sound) (hs : Step s s') : s'.Sound := by
  cases hs with
  | begun a => exact h.begin a
  | advanced i t ht => exact h.advanced ht
  | elsewhere j hj => exact h.elsewhere hj.1

theorem of_reaches (h₀ : s₀.Fresh) (h : Reaches s₀ s) : s.Sound := by
  induction h with
  | refl => exact .of_fresh h₀
  | tail _ hs ih => exact ih.of_step hs

end Sound

/-- What an attempt says of all that has happened since a scene. -/
structure Honest (s₀ s : Scene) (i : Nat) (t : Try) : Prop where
  plugin : ¬ t.progress.Installs → ∃ c, t.attempt = .ensure c
  /-- A plugin goes on to an installation only if nothing was announced when it began. -/
  unseen : t.progress.Installs → ∀ c, t.attempt = .ensure c → t.seen = none
  spared : ∀ answer, t.progress = .ended none answer → answer = .ok ()
  answered : ∀ r answer, t.progress = .ended (some r) answer → t.progress = t.attempt.leave r
  /-- The installation was refused since there is a log, or since the file of the attempt did not
  open when it was tried. -/
  refused : ∀ e answer, t.progress = .ended (some (.error e)) answer →
    e = .alreadyInitialized ∨ ∃ s₁, Reaches s₀ s₁ ∧ Reaches s₁ s ∧
      s₁.Has i { t with progress := .opening } ∧
      Journal.openTarget s₁.process.journal.files t.attempt.settings.target = .error e

namespace Honest

theorem mono (h : Honest s₀ s i t) (hs : Reaches s s') : Honest s₀ s' i t where
  plugin := h.plugin
  unseen := h.unseen
  spared := h.spared
  answered := h.answered
  refused e answer hx := by
    rcases h.refused e answer hx with he | ⟨s₁, h₀, h₁, hi, ho⟩
    · exact .inl he
    · exact .inr ⟨s₁, h₀, h₁.trans hs, hi, ho⟩

theorem of_rank (hr : 0 < t.progress.rank) (hp : ¬ t.progress.Installs → ∃ c, t.attempt = .ensure c)
    (hu : t.progress.Installs → ∀ c, t.attempt = .ensure c → t.seen = none) :
    Honest s₀ s i t where
  plugin := hp
  unseen := hu
  spared answer hx := by
    rw [hx] at hr
    cases hr
  answered r answer hx := by
    rw [hx] at hr
    cases hr
  refused e answer hx := by
    rw [hx] at hr
    cases hr

theorem of_spared {c : Settings} (ha : t.attempt = .ensure c)
    (hx : t.progress = .ended none (.ok ())) : Honest s₀ s i t where
  plugin _ := ⟨c, ha⟩
  unseen hn := by
    rw [hx] at hn
    cases hn
  spared answer ht := by
    cases hx.symm.trans ht
    rfl
  answered r answer ht := nomatch hx.symm.trans ht
  refused e answer ht := nomatch hx.symm.trans ht

theorem of_leave {r : Except LogFailure Unit} (hx : t.progress = t.attempt.leave r)
    (hu : ∀ c, t.attempt = .ensure c → t.seen = none)
    (he : ∀ e, r = .error e → e = .alreadyInitialized ∨ ∃ s₁, Reaches s₀ s₁ ∧ Reaches s₁ s ∧
      s₁.Has i { t with progress := .opening } ∧
      Journal.openTarget s₁.process.journal.files t.attempt.settings.target = .error e) :
    Honest s₀ s i t where
  plugin hn := absurd (by rw [hx]; trivial) hn
  unseen _ := hu
  spared answer ht := nomatch hx.symm.trans ht
  answered r' answer ht := by
    cases hx.symm.trans ht
    exact hx
  refused e answer ht := by
    cases hx.symm.trans ht
    exact he e rfl

theorem advanced (h₀ : Reaches s₀ s) (hs : s.Sound) (hi : s.Has i t) (h : Honest s₀ s i t) :
    Honest s₀ (s.step i t) i
      { t with progress := (t.attempt.advance t.progress s.process).1 } := by
  have hr : Reaches s (s.step i t) := .single (.advanced s i t hi)
  obtain ⟨a, x, seen⟩ := t
  cases x with
  | looking =>
    obtain ⟨c, rfl⟩ := h.plugin id
    cases ha : s.process.active with
    -- Settings that are announced stay announced, so none were when the attempt began.
    | none =>
      refine of_rank ?_ (fun _ => ⟨c, rfl⟩) fun _ _ _ => ?_
      · simp [Attempt.advance, ha, Progress.rank]
      · cases hc : seen with
        | none => rfl
        | some d => cases ha.symm.trans ((hs.each i _ hi).lasting d hc)
    | some d =>
      by_cases hd : d = c
      · exact of_spared rfl (by simp [Attempt.advance, ha, hd, Attempt.settings])
      · have hx : ((Attempt.ensure c).advance .looking s.process).1 = .warning d := by
          simp [Attempt.advance, ha, hd, Attempt.settings]
        dsimp only
        rw [hx]
        exact of_rank Nat.one_pos (fun _ => ⟨c, rfl⟩) False.elim
  | warning c =>
    obtain ⟨d, hd⟩ := h.plugin id
    exact of_spared hd rfl
  | checking =>
    have hu := h.unseen trivial
    cases ha : s.process.active with
    | none =>
      have hx : (a.advance .checking s.process).1 = .opening := by simp [Attempt.advance, ha]
      dsimp only
      rw [hx]
      exact of_rank (Nat.succ_pos _) (absurd trivial) fun _ => hu
    | some c =>
      refine of_leave (r := .error .alreadyInitialized) ?_ hu fun e he => .inl ?_
      · simp [Attempt.advance, ha]
      · exact (Except.error.inj he).symm
  | opening =>
    have hu := h.unseen trivial
    cases ho : Journal.openTarget s.process.journal.files a.settings.target with
    | error e =>
      refine of_leave (r := .error e) ?_ hu fun e' he => .inr ⟨s, h₀, hr, hi, ?_⟩
      · simp [Attempt.advance, ho]
      · rw [← Except.error.inj he]
        exact ho
    | ok y =>
      have hx : (a.advance .opening s.process).1 = .installing y.1 := by
        simp [Attempt.advance, ho]
      dsimp only
      rw [hx]
      exact of_rank (Nat.succ_pos _) (absurd trivial) fun _ => hu
  | installing file =>
    have hu := h.unseen trivial
    by_cases hp : s.process.journal.installed.isSome ∨ s.process.journal.occupied
    · refine of_leave (r := .error .alreadyInitialized) ?_ hu fun e he => .inl ?_
      · simp [Attempt.advance, hp]
      · exact (Except.error.inj he).symm
    · have hx : (a.advance (.installing file) s.process).1 = .publishing := by
        simp [Attempt.advance, hp]
      dsimp only
      rw [hx]
      exact of_rank (Nat.succ_pos _) (absurd trivial) fun _ => hu
  | publishing =>
    refine of_leave (r := .ok ()) rfl (h.unseen trivial) fun e he => ?_
    cases he
  | ended inner answer => exact h.mono hr

theorem of_step (h₀ : Reaches s₀ s) (hs : s.Sound) (h : ∀ i t, s.Has i t → Honest s₀ s i t)
    (hs' : Step s s') : ∀ i t, s'.Has i t → Honest s₀ s' i t := by
  have hr : Reaches s s' := .single hs'
  intro i u hu
  cases hs' with
  | begun a =>
    rcases of_begin_has hu with hu | rfl
    · exact (h i u hu).mono hr
    · cases a with
      | ensure c => exact of_rank (Nat.succ_pos _) (fun _ => ⟨c, rfl⟩) False.elim
      | _ => exact of_rank (Nat.succ_pos _) (absurd trivial) (fun _ _ => nofun)
  | advanced j t ht =>
    rcases of_step_has ht hu with ⟨rfl, rfl⟩ | ⟨-, hu⟩
    · exact advanced h₀ hs ht (h i t ht)
    · exact (h i u hu).mono hr
  | elsewhere j hj => exact (h i u hu).mono hr

theorem of_reaches (h₀ : s₀.Fresh) (h : Reaches s₀ s) : ∀ i t, s.Has i t → Honest s₀ s i t := by
  induction h with
  | refl => exact fun i t ht => absurd ht h₀.not_has
  | tail hr hs ih => exact of_step hr (.of_reaches h₀ hr) ih hs

theorem failed (h : Honest s₀ s i t) {e : LogFailure} {answer : Except LogFailure Unit}
    (hx : t.progress = .ended (some (.error e)) answer) :
    e = .alreadyInitialized ∨ ∃ path cause s₁, e = .openFile path cause ∧
      t.attempt.settings.target = .file path ∧ Reaches s₀ s₁ ∧ Reaches s₁ s ∧
      s₁.Has i { t with progress := .opening } ∧
      s₁.process.journal.files.openForWriting path = .error cause := by
  rcases h.refused e answer hx with he | ⟨s₁, hr, hr', hi, ho⟩
  · exact .inl he
  · obtain ⟨path, cause, ht, he, hf⟩ := Journal.of_openTarget ho
    exact .inr ⟨path, cause, s₁, he, ht, hr, hr', hi, hf⟩

end Honest

theorem reaches_run (n : Nat) (h : s.Has i t) : ∃ s', Reaches s s' ∧
    s'.process = (t.attempt.run n (t.progress, s.process)).2 ∧
    s'.Has i { t with progress := (t.attempt.run n (t.progress, s.process)).1 } := by
  induction n generalizing s t with
  | zero => exact ⟨s, .refl, rfl, h⟩
  | succ n ih =>
    obtain ⟨s', hr, hp, hi⟩ := ih (step_has h)
    exact ⟨s', .head (.advanced s i t h) hr, hp, hi⟩

/-- What an attempt comes to at last that begins where the place of the log is free, if its target
opens and nobody interrupts it. -/
theorem reaches_begin (hs : s.Sound) (hi : s.process.journal.installed = none)
    (hc : s.process.journal.occupied = false) (a : Attempt) {x : Option Path × Files}
    (ho : Journal.openTarget s.process.journal.files a.settings.target = .ok x) :
    ∃ s' i t, Reaches s s' ∧ s'.Has i t ∧ t.attempt = a ∧ t.Won ∧
      s'.process.active = some a.settings := by
  obtain ⟨ha, -⟩ := hs.free hi
  have hn : s.process = ⟨s.process.journal, s.process.journal.active?⟩ := by
    have hj : s.process.journal.active? = none := by rw [Journal.active?, hi]; rfl
    rw [hj, ← ha]
  have hr := a.run_checking s.process.journal
  have hx : s.process.journal.init a.settings = (.ok (), { s.process.journal with
      files := x.2, installed := some ⟨a.settings,
        a.settings.filter s.process.journal.environment, x.1⟩ }) := by
    simp [Journal.init, hi, ho, hc]
  rw [hx, ← hn] at hr
  have hl : (s.begin a).Has s.tries.length ⟨a, a.start, s.process.active⟩ := by simp [Has, begin]
  obtain ⟨n, hn⟩ : ∃ n, a.run n (a.start, s.process) = a.run 4 (.checking, s.process) := by
    cases a with
    | ensure c => exact ⟨5, by simp [Attempt.run, Attempt.start, Attempt.advance, ha]⟩
    | _ => exact ⟨4, rfl⟩
  obtain ⟨s', hs', hp, hi'⟩ := reaches_run n hl
  dsimp only at hp hi'
  rw [show (s.begin a).process = s.process from rfl, hn, hr] at hp hi'
  exact ⟨s', s.tries.length, _, .head (.begun s a) hs', hi', rfl, ⟨_, rfl⟩, by rw [hp]; rfl⟩

/-- Whatever happens after the beginning: who has installed the log, what is announced, and what
attempts answer. -/
structure Orderly (s₀ s : Scene) : Prop where
  /-- At most one installation succeeds. -/
  one : ∀ i j t u, s.Has i t → s.Has j u → t.Won → u.Won → i = j
  winner : ∀ i t, s.Has i t → t.Won → s.process.active = some t.attempt.settings
  /-- What happens next leaves alone what is announced, and nobody succeeds by it; or it is the end
  of an installation, and where nothing was announced its settings are. -/
  change : ∀ s', Step s s' →
    s'.process.active = s.process.active ∧ (∀ i t, s'.Has i t → t.Won → s.Has i t) ∨
    s.process.active = none ∧ ∃ i t, s.Has i t ∧ ¬ t.Won ∧
      s'.Has i { t with progress := t.attempt.leave (.ok ()) } ∧
      s'.process.active = some t.attempt.settings
  /-- An installation succeeds, or it was too late, or its file did not open. -/
  others : ∀ i t r answer, s.Has i t → t.progress = .ended (some r) answer →
    r = .ok () ∧ t.Won ∨ r = .error .alreadyInitialized ∨
      ∃ path cause, t.attempt.settings.target = .file path ∧ r = .error (.openFile path cause)
  /-- Who is no plugin is told what came of the installation. -/
  direct : ∀ i t inner answer, s.Has i t → (∀ c, t.attempt ≠ .ensure c) →
    t.progress = .ended inner answer → inner = some answer
  /-- A plugin only complains if nothing was announced when it began, and of its own file, which did
  not open when it was tried. -/
  plugins : ∀ i t c inner answer, s.Has i t → t.attempt = .ensure c →
    t.progress = .ended inner answer →
      answer = .ok () ∨ ∃ path cause s₁, answer = .error (.openFile path cause) ∧
        c.target = .file path ∧ t.seen = none ∧ Reaches s₀ s₁ ∧ Reaches s₁ s ∧
        s₁.Has i { t with progress := .opening } ∧
        s₁.process.journal.files.openForWriting path = .error cause
  /-- A file that does not open changes nothing. -/
  harmless : ∀ i t e, s.Has i t → t.progress = .opening →
    Journal.openTarget s.process.journal.files t.attempt.settings.target = .error e →
      (s.step i t).process = s.process
  /-- As long as the place of the log is free, an attempt can still succeed. -/
  retry : ∀ a x, s.process.journal.installed = none → s.process.journal.occupied = false →
    Journal.openTarget s.process.journal.files a.settings.target = .ok x →
      ∃ s' i t, Reaches s s' ∧ s'.Has i t ∧ t.attempt = a ∧ t.Won ∧
        s'.process.active = some a.settings
  /-- Nobody has to wait for anybody to come to an end. -/
  ends : ∀ i t, s.Has i t → ∃ s' inner answer, Reaches s s' ∧
    s'.Has i { t with progress := .ended inner answer }

theorem Sound.change (h : s.Sound) (hs : Step s s') :
    s'.process.active = s.process.active ∧ (∀ i t, s'.Has i t → t.Won → s.Has i t) ∨
    s.process.active = none ∧ ∃ i t, s.Has i t ∧ ¬ t.Won ∧
      s'.Has i { t with progress := t.attempt.leave (.ok ()) } ∧
      s'.process.active = some t.attempt.settings := by
  cases hs with
  | begun a =>
    refine .inl ⟨rfl, fun i u hu hw => ?_⟩
    rcases of_begin_has hu with hu | rfl
    · exact hu
    · obtain ⟨answer, hw⟩ := hw
      cases a <;> cases hw
  | elsewhere j hj => exact .inl ⟨rfl, fun _ _ hu _ => hu⟩
  | advanced i t ht =>
    rcases t.attempt.advance_cases t.progress s.process with
      ⟨file, -, hi, -, ha⟩ | ⟨hx, ha⟩ | ⟨ha, hj, hx⟩
    · refine .inl ⟨by rw [step, ha], fun j u hu hw => ?_⟩
      rcases of_step_has ht hu with ⟨rfl, rfl⟩ | ⟨-, hu⟩
      · rw [ha] at hw
        obtain ⟨answer, hw⟩ := hw
        cases hw
      · exact hu
    · have hn := (h.each i t ht).unannounced hx
      refine .inr ⟨hn, i, t, ht, fun ⟨_, hw⟩ => (nomatch hx.symm.trans hw), ?_, ?_⟩
      · have hi := step_has ht
        rwa [ha] at hi
      · rw [step, ha, hn]
        rfl
    · refine .inl ⟨ha, fun j u hu hw => ?_⟩
      rcases of_step_has ht hu with ⟨rfl, rfl⟩ | ⟨-, hu⟩
      · rw [hx hw.holds]
        exact ht
      · exact hu

theorem Honest.others (h : Honest s₀ s i t) {r answer : Except LogFailure Unit}
    (hx : t.progress = .ended (some r) answer) :
    r = .ok () ∧ t.Won ∨ r = .error .alreadyInitialized ∨
      ∃ path cause, t.attempt.settings.target = .file path ∧ r = .error (.openFile path cause) := by
  rcases r with e | ⟨⟩
  · rcases h.failed hx with rfl | ⟨path, cause, s₁, rfl, ht, -⟩
    · exact .inr (.inl rfl)
    · exact .inr (.inr ⟨path, cause, ht, rfl⟩)
  · exact .inl ⟨rfl, answer, hx⟩

theorem Honest.direct (h : Honest s₀ s i t) (hn : ∀ c, t.attempt ≠ .ensure c)
    {inner : Option (Except LogFailure Unit)} {answer : Except LogFailure Unit}
    (hx : t.progress = .ended inner answer) : inner = some answer := by
  cases inner with
  | none =>
    obtain ⟨c, hc⟩ := h.plugin (by rw [hx]; exact id)
    exact absurd hc (hn c)
  | some r =>
    have hr := (h.answered r answer hx).symm.trans hx
    rw [Attempt.leave_of_not_ensure hn] at hr
    cases hr
    rfl

theorem Honest.plugins (h : Honest s₀ s i t) {c : Settings} (ha : t.attempt = .ensure c)
    {inner : Option (Except LogFailure Unit)} {answer : Except LogFailure Unit}
    (hx : t.progress = .ended inner answer) :
    answer = .ok () ∨ ∃ path cause s₁, answer = .error (.openFile path cause) ∧
      c.target = .file path ∧ t.seen = none ∧ Reaches s₀ s₁ ∧ Reaches s₁ s ∧
      s₁.Has i { t with progress := .opening } ∧
      s₁.process.journal.files.openForWriting path = .error cause := by
  cases inner with
  | none => exact .inl (h.spared answer hx)
  | some r =>
    have hr := (h.answered r answer hx).symm.trans hx
    rw [ha] at hr
    rcases Attempt.leave_ensure c r with hl | ⟨hl, e, rfl, he⟩
    · cases hl.symm.trans hr
      exact .inl rfl
    · cases hl.symm.trans hr
      rcases h.failed hx with he' | ⟨path, cause, s₁, rfl, ht, hs⟩
      · exact absurd he' he
      · rw [ha] at ht
        exact .inr ⟨path, cause, s₁, rfl, ht, h.unseen (by rw [hx]; trivial) c ha, hs⟩

theorem orderly (h₀ : s₀.Fresh) (h : Reaches s₀ s) : Orderly s₀ s := by
  have hs := Sound.of_reaches h₀ h
  have hh := Honest.of_reaches h₀ h
  exact {
    one := fun i j t u ht hu hw hv => hs.one i j t u ht hu hw.holds hv.holds
    winner := fun i t ht hw => (hs.each i t ht).announced hw
    change := fun s' hs' => hs.change hs'
    others := fun i t r answer ht hx => (hh i t ht).others hx
    direct := fun i t inner answer ht hn hx => (hh i t ht).direct hn hx
    plugins := fun i t c inner answer ht ha hx => (hh i t ht).plugins ha hx
    harmless := fun i t e ht hx ho => by simp [step, hx, Attempt.advance, ho]
    retry := fun a x hi hc ho => reaches_begin hs hi hc a ho
    ends := fun i t ht => by
      obtain ⟨n, inner, answer, hn⟩ := t.attempt.run_ends t.progress s.process
      obtain ⟨s', hr, -, hi⟩ := reaches_run n ht
      rw [hn] at hi
      exact ⟨s', inner, answer, hr, hi⟩ }

def go (s : Scene) (schedule : List Nat) : Scene :=
  schedule.foldl (fun s i => match s.tries[i]? with
    | some t => s.step i t
    | none => s) s

theorem reaches_go (s : Scene) (schedule : List Nat) : s.Reaches (s.go schedule) := by
  induction schedule generalizing s with
  | nil => exact .refl
  | cons i schedule ih =>
    cases ht : s.tries[i]? with
    | none =>
      have hg : s.go (i :: schedule) = s.go schedule := by simp [go, ht]
      rw [hg]
      exact ih s
    | some t =>
      have hg : s.go (i :: schedule) = (s.step i t).go schedule := by simp [go, ht]
      rw [hg]
      exact .head (.advanced s i t ht) (ih _)

def silent : Scene := ⟨⟨.start none "" default, none⟩, []⟩

/-- Three threads, each of which finds no log: the first is the first to take the place, the second
is a plugin whose file does not open, and the third had opened its target before the first. -/
def race : Scene :=
  (((silent.begin (.init (.to .stderr))).begin (.ensure (.to (.file "")))).begin
    (.setFile .stdout .info)).go [0, 1, 2, 1, 2, 1, 0, 0, 2, 0]

theorem reaches_race : silent.Reaches race :=
  .head (.begun ..) (.head (.begun ..) (.head (.begun ..) (reaches_go ..)))

end Scene

end Log

end PluginHost
