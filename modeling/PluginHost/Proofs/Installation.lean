import PluginHost.Host
import PluginHost.Proofs.Contention
import PluginHost.Proofs.Introspection
/-!
Who installs the log: one attempt at most. The attempt of a plugin is made after its module was
accepted and before it has an instance, so that the log may be there though the plugin is not; all
else that the host does when it opens a plugin leaves the place of the log alone.
-/
namespace PluginHost
variable {g : Guest} {H α β : Type}

namespace Log

def Journal.place (j : Journal) : Option Installed × Bool := (j.installed, j.occupied)

theorem Journal.place_emitAll (j : Journal) (es : List Event) : (j.emitAll es).place = j.place :=
  Prod.ext (j.emitAll_place es).1 (j.emitAll_place es).2

theorem Journal.place_emit (j : Journal) (e : Event) : (j.emit e).place = j.place :=
  j.place_emitAll [e]

/-- What a plugin's attempt makes of the place of the log does not hang on the events before. -/
theorem Journal.place_ensure_emit (j : Journal) (e : Event) (s : Settings) :
    ((j.emit e).ensure s).1 = (j.ensure s).1 ∧
      ((j.emit e).ensure s).2.place = (j.ensure s).2.place := by
  cases hi : j.installed with
  | none =>
    have he : j.emit e = j := by rw [emit, hi]
    rw [he]
    exact ⟨rfl, rfl⟩
  | some i =>
    have h (j : Journal) (hj : j.installed = some i) :
        (j.ensure s).1 = .ok () ∧ (j.ensure s).2.place = j.place := by
      have ha : j.active? = some i.settings := by rw [active?, hj]; rfl
      rw [ensure, ha]
      refine ⟨rfl, ?_⟩
      dsimp only
      split
      · rfl
      · exact j.place_emit _
    obtain ⟨ha, hp⟩ := h j hi
    obtain ⟨ha', hp'⟩ := h (j.emit e) ((j.emit_place e).1.trans hi)
    exact ⟨ha'.trans ha.symm, (hp'.trans (j.place_emit e)).trans hp.symm⟩

end Log

def HostTask.Keeps (t : HostTask H α) : Prop :=
  ∀ w, (t.run w).2.journal.place = w.journal.place

namespace HostTask

theorem Keeps.bind {t : HostTask H α} {f : α → HostTask H β} (ht : t.Keeps)
    (hf : ∀ a, (f a).Keeps) : (t >>= f).Keeps := by
  intro w
  have h := ht w
  rw [run_fallible_bind]
  rcases hr : t.run w with ⟨e | a, w₁⟩ <;> rw [hr] at h
  · exact h
  · exact (hf a w₁).trans h

theorem Keeps.ofExcept (r : Except Failure α) :
    (MonadExcept.ofExcept r : HostTask H α).Keeps := by
  cases r <;> exact fun _ => rfl

theorem keeps_logAll (es : List Log.Event) :
    (modify fun w => w.logAll es : HostTask H PUnit).Keeps :=
  fun w => w.journal.place_emitAll es

end HostTask

namespace Opening

open HostTask

/-- Guest code may only tell the log something. -/
theorem begin_keeps (m : g.Module) (providers : List (Provider H)) (store : Store) :
    (begin m providers store).Keeps := by
  intro w
  rcases hs : g.start m with ⟨guest, code⟩
  obtain ⟨es, he, -⟩ := Stage.execute_quiet g.stepLimit code
    (⟨⟨m, providers.toArray, guest, store.armed⟩, w, []⟩ : Stage g H)
  have hj := congrArg Log.Journal.place he.journal
  rw [Log.Journal.place_emitAll] at hj
  simp only [begin, ExceptT.run_mk, hs]
  rcases hr : Stage.execute g.stepLimit code
    (⟨⟨m, providers.toArray, guest, store.armed⟩, w, []⟩ : Stage g H) with ⟨e | results, s⟩ <;>
    rw [hr] at hj <;> exact hj

theorem instantiate_keeps (registry : Registry H) (m : g.Module) (settings : Settings) :
    (instantiate registry m settings).Keeps := by
  have hl (e : Log.Event) : (modify fun w => w.log e : HostTask H PUnit).Keeps := keeps_logAll [e]
  have hb : (bind registry settings (g.info m)).Keeps :=
    .bind (keeps_logAll _) fun _ => .ofExcept _
  have hc (providers : List (Provider H)) : (complete m settings providers).Keeps := by
    refine .bind (begin_keeps _ _ _) fun i => .bind (.ofExcept _) fun bridge => ?_
    dsimp only
    split
    · exact .bind (hl _) fun _ => .bind (hl _) fun _ _ => rfl
    · exact .bind (hl _) fun _ _ => rfl
  unfold instantiate
  dsimp only
  split
  · exact fun _ => rfl
  · split
    · exact .bind (hl _) fun _ => .bind hb hc
    · exact .bind hb hc

end Opening

namespace Host

def Keeps (t : HostAction H α) : Prop :=
  ∀ h : Host H, (t.run h).2.world.journal.place = h.world.journal.place

theorem Keeps.bind {t : HostAction H α} {f : α → HostAction H β} (ht : Keeps t)
    (hf : ∀ a, Keeps (f a)) : Keeps (t >>= f) :=
  fun h => (hf _ _).trans (ht h)

theorem keeps_log (e : Log.Event) : Keeps (log e : HostAction H Unit) :=
  fun h => h.world.journal.place_emit e

theorem keeps_holdClock : Keeps (holdClock : HostAction H Unit) := by
  refine .bind (fun _ => rfl) fun h => ?_
  dsimp only
  split
  · exact .bind (keeps_log _) fun _ _ => rfl
  · exact fun _ => rfl

theorem keeps_letClockGo : Keeps (letClockGo : HostAction H Unit) := by
  refine .bind (fun _ => rfl) fun h => ?_
  dsimp only
  split
  · exact .bind (keeps_log _) fun _ _ => rfl
  · exact fun _ => rfl

theorem place_bind {t : HostAction H α} {f : α → HostAction H β} (hf : ∀ a, Keeps (f a))
    (h : Host H) : ((t >>= f) h).2.world.journal.place = (t h).2.world.journal.place :=
  hf _ _

/-- What comes after a plugin's attempt to install the log leaves the place of the log alone. -/
theorem place_instantiate (m : g.Module) (s : Settings) (h : Host H) :
    (instantiate m s h).2.world.journal.place = (ensureLog s h).2.world.journal.place := by
  have hi (r : Registry H) : Keeps (onWorld (Opening.instantiate r m s).run) := fun h =>
    Opening.instantiate_keeps r m s h.world
  refine place_bind (fun r => ?_) h
  dsimp only
  split
  · exact fun _ => rfl
  · split
    · refine .bind keeps_holdClock fun _ => .bind (fun _ => rfl) fun h => .bind (hi _) fun r => ?_
      split
      · exact fun _ => rfl
      · exact .bind keeps_letClockGo fun _ _ => rfl
    · refine .bind (fun _ => rfl) fun h => .bind (hi _) fun r => ?_
      split <;> exact fun _ => rfl

theorem run_ensureLog (s : Settings) (h : Host H) :
    ensureLog s h = match s.log? with
      | none => (.ok (), h)
      | some l => ((h.world.journal.ensure l).1,
          { h with world := { h.world with journal := (h.world.journal.ensure l).2 } }) := by
  unfold ensureLog
  cases s.log? <;> rfl

theorem run_open (g : Guest) (bytes : Bytes) (s : Settings) (h : Host H) :
    open_ g bytes s h = match g.load bytes with
      | .error e => (.error e, h)
      | .ok m => instantiate m s
          (log (.moduleLoaded (g.info m).imports.length (g.info m).exports.length) h).2 := by
  unfold open_ load
  cases g.load bytes <;> rfl

structure Heeds (h : Host H) (g : Guest) (bytes : Bytes) (s : Settings) : Prop where
  /-- A module that is not accepted changes nothing at all. -/
  refused : ∀ e, g.load bytes = .error e → open_ g bytes s h = (.error e, h)
  /-- Settings that ask for no log leave the log as it was. -/
  silent : s.logTarget = none → s.logLevel = none →
    (open_ g bytes s h).2.world.journal.place = h.world.journal.place
  /-- Other settings are a plugin's attempt to install the log, whatever becomes of the plugin. -/
  asked : ∀ m l, g.load bytes = .ok m → s.log? = some l →
    (open_ g bytes s h).2.world.journal.place =
      ((Log.Attempt.ensure l).perform h.world.journal).2.place
  /-- So the log may be there though the plugin is not. -/
  bereft : ∀ m l x, g.load bytes = .ok m → (g.info m).otherImports ≠ [] → s.log? = some l →
    h.world.journal.installed = none → h.world.journal.occupied = false →
    Log.Journal.openTarget h.world.journal.files l.target = .ok x →
      (open_ g bytes s h).1 = .error (.opening (.nonFunctionImports (g.info m).otherImports)) ∧
      (open_ g bytes s h).2.world.journal.active? = some l

theorem run_bind (t : HostAction H α) (f : α → HostAction H β) (h : Host H) :
    (t >>= f) h = f (t h).1 (t h).2 := rfl

theorem instantiate_other {m : g.Module} (hm : (g.info m).otherImports ≠ []) {s : Settings}
    {h : Host H} (hl : (ensureLog s h).1 = .ok ()) :
    (instantiate m s h).1 = .error (.opening (.nonFunctionImports (g.info m).otherImports)) := by
  have hi (r : Registry H) (h : Host H) : onWorld (Opening.instantiate r m s).run h =
      (.error (.opening (.nonFunctionImports (g.info m).otherImports)), h) := by
    have hr : (Opening.instantiate r m s).run h.world = _ :=
      Opening.run_instantiate_other hm h.world
    change (((Opening.instantiate r m s).run h.world).1,
      { h with world := ((Opening.instantiate r m s).run h.world).2 }) = _
    rw [hr]
  unfold instantiate
  rw [run_bind, hl]
  dsimp only
  split
  · simp only [run_bind, hi]
    rfl
  · simp only [run_bind, hi]
    rfl

theorem heeds (h : Host H) (g : Guest) (bytes : Bytes) (s : Settings) : h.Heeds g bytes s := by
  have hlog (m : g.Module) : (log (.moduleLoaded (g.info m).imports.length
      (g.info m).exports.length) h).2.world.journal.place = h.world.journal.place := keeps_log _ h
  have hasked (m : g.Module) (l : Log.Settings) (hm : g.load bytes = .ok m)
      (hl : s.log? = some l) : (open_ g bytes s h).2.world.journal.place =
        (h.world.journal.ensure l).2.place := by
    rw [run_open, hm]
    dsimp only
    rw [place_instantiate, run_ensureLog, hl]
    exact (h.world.journal.place_ensure_emit _ l).2
  refine ⟨fun e he => by rw [run_open, he], fun ht hl => ?_, hasked,
    fun m l x hm hn hl hi hc ho => ?_⟩
  · rw [run_open]
    cases hm : g.load bytes with
    | error e => rfl
    | ok m =>
      have hs : s.log? = none := by rw [Settings.log?, ht, hl]
      dsimp only
      rw [place_instantiate, run_ensureLog, hs]
      exact hlog m
  · have he : (h.world.journal.ensure l).1 = .ok () ∧
        (h.world.journal.ensure l).2.active? = some l := by
      simp [Log.Journal.ensure, Log.Journal.active?, Log.Journal.init, hi, hc, ho]
    constructor
    · rw [run_open, hm]
      refine instantiate_other hn ?_
      rw [run_ensureLog, hl]
      exact (h.world.journal.place_ensure_emit _ l).1.trans he.1
    · have hp := congrArg (fun p : Option Log.Installed × Bool => p.1.map Log.Installed.settings)
        (hasked m l hm hl)
      exact hp.trans he.2

end Host

namespace Wasm.Wanting

/-- A module that asks for a memory. It is accepted, but nobody provides memories. -/
def bytes : Bytes := [0, 97, 115, 109, 1, 0, 0, 0, 2, 8, 1, 1, 109, 1, 109, 2, 0, 1]

def module : Module where
  imports := [⟨"m", "m", .memory ⟨⟨1, none⟩, false, false, none⟩⟩]

def program : Program := .ofModule module

theorem loads : engine.load bytes = .ok program := by
  have hd : Typing.distinct (module.exports.map ModuleExport.name) = true :=
    (Typing.distinct_iff _).mpr (by simp [module])
  have hc (features : Features) (hf : features = .all ∨ features = .engine) :
      Typing.checkModule features module = .ok () := by
    unfold Typing.checkModule Typing.moduleType
    rw [hd]
    rcases hf with rfl | rfl <;> rfl
  exact (load_eq_ok_iff ..).mpr ⟨module, rfl, hc _ (.inl rfl), hc _ (.inr rfl), rfl⟩

def host : Host Unit := .start .empty ⟨.start none "" default, ()⟩

end Wasm.Wanting

/-- Of any number of attempts to install the log, made by any number of threads and in any order of
their steps, one at most succeeds, and what is announced are its settings. Made alone, an attempt is
what the host does; and a plugin makes its attempt once its module was accepted. -/
theorem log_installed_once {s₀ s : Log.Scene} (fresh : s₀.Fresh) (reaches : s₀.Reaches s) :
    s₀.Orderly s ∧
      (∀ (a : Log.Attempt) (j : Log.Journal), ∃ n inner, a.run n (a.start, ⟨j, j.active?⟩) =
        (.ended inner (a.perform j).1, ⟨(a.perform j).2, (a.perform j).2.active?⟩)) ∧
      ∀ (H : Type) (h : Host H) (g : Guest) (bytes : Bytes) (settings : Settings),
        h.Heeds g bytes settings :=
  ⟨Log.Scene.orderly fresh reaches, Log.Attempt.run_perform, fun _ => Host.heeds⟩

/-- The race is won by the first thread; the plugin is told of its file, and the third thread that
there is a log. Later nobody can win any more. A plugin without an instance can win, too. -/
theorem race_installed_once :
    Log.Scene.silent.Fresh ∧ Log.Scene.silent.Reaches Log.Scene.race ∧
      Log.Scene.race.process.active = some (.to .stderr) ∧
      (∀ i t, Log.Scene.race.Has i t → t.Won → i = 0) ∧
      (∃ s₁ : Log.Scene, s₁.Reaches Log.Scene.race ∧
        s₁.process.journal.files.openForWriting "" = .error .missing) ∧
      Wasm.engine.load Wasm.Wanting.bytes = .ok Wasm.Wanting.program ∧
      (Host.open_ Wasm.engine Wasm.Wanting.bytes { logLevel := some .info }
        Wasm.Wanting.host).1 = .error (.opening (.nonFunctionImports ["m::m"])) ∧
      (Host.open_ Wasm.engine Wasm.Wanting.bytes { logLevel := some .info }
        Wasm.Wanting.host).2.world.journal.active? =
          some { Log.Settings.to .stderr with level := some .info } := by
  have hf : Log.Scene.silent.Fresh := ⟨rfl, rfl⟩
  have hr := Log.Scene.reaches_race
  obtain ⟨ho, -, hh⟩ := log_installed_once hf hr
  have h₀ : Log.Scene.race.Has 0
      ⟨.init (.to .stderr), .ended (some (.ok ())) (.ok ()), none⟩ := rfl
  have h₁ : Log.Scene.race.Has 1 ⟨.ensure (.to (.file "")), .ended
      (some (.error (.openFile "" .missing))) (.error (.openFile "" .missing)), none⟩ := rfl
  obtain ⟨he, ha⟩ := (hh Unit Wasm.Wanting.host Wasm.engine Wasm.Wanting.bytes
    { logLevel := some .info }).bereft _ _ (none, default) Wasm.Wanting.loads nofun rfl rfl rfl rfl
  refine ⟨hf, hr, ho.winner 0 _ h₀ ⟨_, rfl⟩, fun i t ht hw => ?_, ?_, Wasm.Wanting.loads, he, ha⟩
  · exact ho.one i 0 t _ ht h₀ hw ⟨_, rfl⟩
  · rcases ho.plugins 1 _ _ _ _ h₁ rfl rfl with hn | ⟨path, cause, s₁, he, -, -, -, hs, -, hp⟩
    · cases hn
    · cases he
      exact ⟨s₁, hs, hp⟩

end PluginHost
