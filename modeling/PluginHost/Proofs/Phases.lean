import PluginHost.Proofs.Emission
import PluginHost.Proofs.Message
import PluginHost.Proofs.Opened
/-!
The phases of a call. A call is meant to walk from rest through the export back to rest, and to fail
only while its export is prepared or runs. The way that it really takes is told by the log.
-/
namespace PluginHost
variable {g : Guest} {H α : Type}

namespace CallPhase

/-- The arrows of the diagram that calls are meant to follow. -/
def leadsTo : CallPhase → CallPhase → Bool
  | .idle, .argsMarshaled => true
  | .argsMarshaled, .invoking => true
  | .invoking, .resultMarshaled => true
  | .resultMarshaled, .idle => true
  | .argsMarshaled, .failed => true
  | .invoking, .failed => true
  | .failed, .idle => true
  | _, _ => false

def follows (first last : CallPhase) : List (CallPhase × CallPhase) → Bool
  | [] => first = last
  | (before, after) :: path => before = first && first.leadsTo after && after.follows last path

def wayTo : CallPhase → List (CallPhase × CallPhase)
  | .invoking => [(.idle, .argsMarshaled), (.argsMarshaled, .invoking)]
  | .resultMarshaled =>
    [(.idle, .argsMarshaled), (.argsMarshaled, .invoking), (.invoking, .resultMarshaled)]
  | _ => []

def wayBack (p : CallPhase) : Except Failure α → List (CallPhase × CallPhase)
  | .ok _ => [(p, .idle)]
  | .error _ => [(p, .failed), (.failed, .idle)]

end CallPhase

namespace Stage
open CallPhase

theorem phase_of_ticks {s s' : Stage g H} (h : Ticks s s') : s'.store.phase = s.store.phase :=
  congrArg Fixed.phase h.fixed_eq

inductive Walked (s : Stage g H) : Except Failure α → Stage g H → Prop
  | before (e : Failure) (s' : Stage g H) (phase : s'.store.phase = .idle) (ds : List Deed)
      (did : s.Did ds s') (entries : Deeds.entries ds = []) : Walked s (.error e) s'
  | amid (e : Failure) (s' : Stage g H) (phase : s'.store.phase = .invoking) (ds : List Deed)
      (did : s.Did ds s') (entries : Deeds.entries ds ≠ []) : Walked s (.error e) s'
  | through (a : α) (s' : Stage g H) (phase : s'.store.phase = .resultMarshaled) (ds : List Deed)
      (did : s.Did ds s') (entries : Deeds.entries ds ≠ []) : Walked s (.ok a) s'

theorem Walked.trans {s s₁ s' : Stage g H} {r : Except Failure α} {ds : List Deed}
    (hd : s.Did ds s₁) (he : Deeds.entries ds = []) (h : s₁.Walked r s') : s.Walked r s' := by
  cases h with
  | before e _ phase ds' did entries =>
    exact .before e s' phase _ (hd.trans did) (by rw [Deeds.entries_append, he, entries]; rfl)
  | amid e _ phase ds' did entries =>
    exact .amid e s' phase _ (hd.trans did) (by rwa [Deeds.entries_append, he])
  | through a _ phase ds' did entries =>
    exact .through a s' phase _ (hd.trans did) (by rwa [Deeds.entries_append, he])

structure Walks (s : Stage g H) (f : Stage g H → Except Failure α × Stage g H) : Prop where
  walked : s.Walked (f s).1 (f s).2
  tells : s.Tells f (wayTo (f s).2.store.phase)

inductive Receives (s : Stage g H) (f : Stage g H → Except Failure α × Stage g H) : Prop
  | lost (e : Failure) (eq : ∀ j, f (s.on j) = (.error e, s.on j))
  | kept (a : α) (change : Store → Store) (phase : (change s.store).phase = s.store.phase)
      (eq : ∀ j, f (s.on j) = (.ok a, ((s.on j).updateStore change).enterPhase .resultMarshaled))

/-- An export that is entered takes a call to the phase in which it runs. -/
theorem entered_tells (function : Nat) (args : List Value) {s : Stage g H}
    (hs : s.store.phase = .idle) :
    s.Tells (fun s => (enter function args : Action g H Ending) (s.entering function args))
      (wayTo .invoking) := by
  have he : s.Tells (fun s => ((), s.entering function args)) (wayTo .invoking) :=
    ⟨[.phaseChanged s.store.currentFunction s.store.phase .argsMarshaled,
      .phaseChanged s.store.currentFunction .argsMarshaled .invoking],
      fun _ => rfl, by rw [hs]; rfl⟩
  have hq := he.followed (k := fun _ => enter function args)
    (enter_quiet function args (s.entering function args))
  rwa [List.append_nil] at hq

theorem exported_walks (function : Nat) (args : List Value) {s : Stage g H}
    (hs : s.store.phase = .idle) {k : Ending → Stage g H → Except Failure α × Stage g H}
    (hk : ∀ r s', Receives s' (k r)) :
    s.Walks fun s =>
      k ((enter function args : Action g H Ending) (s.entering function args)).1
        ((enter function args : Action g H Ending) (s.entering function args)).2 := by
  have ht := enter_ticks function args (s.entering function args)
  obtain ⟨ds, hr, -⟩ := ht.ran
  have hd := (entering_ran s function args).did.trans hr.did
  have hn : Deeds.entries ([.entered function args] ++ ds) ≠ [] := by
    simp [Deeds.entries, Deed.entry?]
  have hi : _ = CallPhase.invoking := phase_of_ticks ht
  have he := entered_tells function args hs
  generalize hx : (enter function args : Action g H Ending) (s.entering function args) = x
    at hd hi
  rcases hk x.1 x.2 with ⟨e, heq⟩ | ⟨a, change, hp, heq⟩
  · have h : k x.1 x.2 = (.error e, x.2) := heq x.2.world.journal
    have hq : x.2.Quiet (k x.1) := .of_same fun j => by rw [heq j, h]
    have hw := he.followed (k := k) (by rw [hx]; exact hq)
    constructor
    · rw [hx, h]
      exact .amid e x.2 hi _ hd hn
    · rwa [hx, h, hi]
  · have h : k x.1 x.2 = (.ok a, (x.2.updateStore change).enterPhase .resultMarshaled) :=
      heq x.2.world.journal
    have hq : x.2.Tells (k x.1) [(.invoking, .resultMarshaled)] := by
      refine ⟨[.phaseChanged ((x.2.updateStore change).store.currentFunction)
        (change x.2.store).phase .resultMarshaled], fun j => ?_, by rw [hp, hi]; rfl⟩
      rw [heq j, h]
      rfl
    have hw := he.followed (k := k) (by rw [hx]; exact hq)
    constructor
    · rw [hx, h]
      exact .through a _ rfl _ hd hn
    · rw [hx, h]
      exact hw

/-- A body that first does something in silence. -/
theorem Walks.following {β : Type} {s : Stage g H} {f : Stage g H → β × Stage g H}
    {k : β → Stage g H → Except Failure α × Stage g H} {ds : List Deed} (hf : s.Quiet f)
    (hd : s.Did ds (f s).2) (he : Deeds.entries ds = []) (hk : (f s).2.Walks (k (f s).1)) :
    s.Walks fun s => k (f s).1 (f s).2 where
  walked := hk.walked.trans hd he
  tells := hf.followed hk.tells

def received (b : Bridge) (name : String) (r : Ending) (s : Stage g H) :
    Except Failure Bytes × Stage g H :=
  match packed r with
  | .error h => (.error (s.store.classify name h), s)
  | .ok word =>
    match s.output b word with
    | .error e => (.error e, s)
    | .ok v => (.ok v, (s.updateStore fun t => adopt t (Block.unpack word)).enterPhase
        .resultMarshaled)

theorem phase_adopt (t : Store) (b : Block) : (adopt t b).phase = t.phase := by
  unfold adopt Store.track
  split
  · rfl
  · split <;> rfl

theorem received_receives (b : Bridge) (name : String) (r : Ending) (s : Stage g H) :
    s.Receives (received b name r) := by
  unfold received
  cases packed r with
  | error h => exact .lost (s.store.classify name h) fun _ => rfl
  | ok word =>
    cases ho : s.output b word with
    | error e =>
      refine .lost e fun j => ?_
      dsimp only
      rw [show (s.on j).output b word = .error e from ho]
    | ok v =>
      refine .kept v (fun t => adopt t (Block.unpack word)) (phase_adopt ..) fun j => ?_
      dsimp only
      rw [show (s.on j).output b word = .ok v from ho]

def receivedValues (name : String) : Ending → Stage g H → Except Failure (List Value) × Stage g H
  | .error h, s => (.error (s.store.classify name h), s)
  | .ok results, s => (.ok results, s.enterPhase .resultMarshaled)

theorem receivedValues_receives (name : String) (r : Ending) (s : Stage g H) :
    s.Receives (receivedValues name r) := by
  cases r with
  | error h => exact .lost (s.store.classify name h) fun _ => rfl
  | ok results => exact .kept results id rfl fun _ => rfl

def exported (b : Bridge) (name : String) (function : Nat) (block : Block) (s : Stage g H) :
    Except Failure Bytes × Stage g H :=
  received b name
    ((enter function [.i32 block.ptr, .i32 block.len] : Action g H Ending)
      (s.entering function [.i32 block.ptr, .i32 block.len])).1
    ((enter function [.i32 block.ptr, .i32 block.len] : Action g H Ending)
      (s.entering function [.i32 block.ptr, .i32 block.len])).2

theorem exchange_walks {s : Stage g H} (hs : s.store.phase = .idle) {b : Bridge}
    (hb : s.store.bridge = some b) (hc : s.store.call.isSome) (name : String) (function : Nat)
    (input : Bytes) : s.Walks (exchange b name function input).run := by
  have hrun : (exchange b name function input).run = fun s : Stage g H =>
      goOn (exported b name function) ((Buffer.placeForCall enter b input).run s).1
        ((Buffer.placeForCall enter b input).run s).2 := funext fun s => by
    rw [run_exchange]
    rcases (Buffer.placeForCall enter b input).run s with ⟨e | block, s₁⟩ <;> rfl
  have ht : Ticks s ((Buffer.placeForCall enter b input).run s).2 :=
    Buffer.placeForCall_ticks enter_ticks hb hc input
  obtain ⟨ds, hd, hn⟩ := ht.ran
  have hi := (phase_of_ticks ht).trans hs
  rw [hrun]
  refine .following (Buffer.placeForCall_quiet enter_quiet b input s) hd.did hn ?_
  cases hr : ((Buffer.placeForCall enter b input).run s).1 with
  | error e => exact ⟨.before e _ hi [] (.refl _) rfl, by
      change Tells _ _ (wayTo ((Buffer.placeForCall enter b input).run s).2.store.phase)
      rw [hi]
      exact Quiet.of_same fun _ => rfl⟩
  | ok block => exact exported_walks function _ hi (received_receives b name)

theorem exchangeValues_walks {s : Stage g H} (hs : s.store.phase = .idle) (name : String)
    (function : Nat) (args : List Value) : s.Walks (exchangeValues name function args).run := by
  have hrun : (exchangeValues name function args).run = fun s : Stage g H =>
      receivedValues name ((enter function args : Action g H Ending) (s.entering function args)).1
        ((enter function args : Action g H Ending) (s.entering function args)).2 :=
    funext fun s => by
      rw [run_exchangeValues]
      rcases (enter function args : Action g H Ending) (s.entering function args) with
        ⟨h | results, s₁⟩ <;> rfl
  rw [hrun]
  exact exported_walks function args hs (receivedValues_receives name)

/-- The body of an accepted call walks through the phases. -/
theorem Accepts.walks {s : Stage g H} {name : String} {t body : Task g H α}
    (h : s.Accepts name t body) : (s.begun name).Walks body.run := by
  cases h with
  | octets function b input idle found bridge =>
    exact exchange_walks (s := s.begun name) idle bridge rfl name function input
  | values function signature args idle found typed =>
    exact exchangeValues_walks (s := s.begun name) idle name function args

theorem release_phase (b : Bridge) (block : Block) (s : Stage g H) :
    ((Buffer.release enter b block).run s).2.store.phase = s.store.phase := by
  cases he : block.isEmpty with
  | true =>
    unfold Buffer.release
    rw [he]
    rfl
  | false =>
    have hp := phase_of_ticks
      (enter_ticks b.dealloc [.i32 block.ptr, .i32 block.len] (s.note (.returned block)))
    rw [Buffer.run_release enter b he]
    rcases hx : (enter b.dealloc [.i32 block.ptr, .i32 block.len] : Action g H Ending)
      (s.note (.returned block)) with ⟨e | results, s'⟩ <;> rw [hx] at hp <;> exact hp

def releaseRest (b : Bridge) (name : String) (block : Block) (blocks : List Block) :
    Except Failure Unit → Stage g H → Option Failure × Stage g H
  | .ok _, s => releaseAll b name blocks s
  | .error e, s => (some e, (releaseAll b name blocks (s.log (.releaseFailed name block e))).2)

/-- Giving buffers back leaves the phase and tells of no change. -/
theorem releaseAll_quiet (b : Bridge) (name : String) (blocks : List Block) (s : Stage g H) :
    s.Quiet (releaseAll b name blocks) ∧
      (releaseAll b name blocks s).2.store.phase = s.store.phase := by
  induction blocks generalizing s with
  | nil => exact ⟨.of_same fun _ => rfl, rfl⟩
  | cons block blocks ih =>
    have hrun : releaseAll b name (block :: blocks) = fun s : Stage g H =>
        releaseRest b name block blocks ((Buffer.release enter b block).run s).1
          ((Buffer.release enter b block).run s).2 :=
      funext fun s => by
        rw [releaseAll_cons]
        rcases (Buffer.release enter b block).run s with ⟨e | u, s'⟩ <;> rfl
    have hafter (r : Except Failure Unit) (s : Stage g H) :
        s.Quiet (releaseRest b name block blocks r) ∧
          (releaseRest b name block blocks r s).2.store.phase = s.store.phase := by
      cases r with
      | ok u => exact ih s
      | error e =>
        obtain ⟨hq, hp⟩ := ih (s.log (.releaseFailed name block e))
        exact ⟨hq.logged.map fun _ => some e, hp⟩
    rw [hrun]
    exact ⟨(Buffer.release_quiet enter_quiet b block s).followed (hafter _ _).1,
      (hafter _ _).2.trans (release_phase b block s)⟩

theorem releasing_quiet (b : Option Bridge) (name : String) (blocks : List Block) (s : Stage g H) :
    s.Quiet (releasing b name blocks) ∧
      (releasing b name blocks s).2.store.phase = s.store.phase := by
  cases b with
  | none => exact ⟨.of_same fun _ => rfl, rfl⟩
  | some b => exact releaseAll_quiet b name blocks s

theorem ended_tells (name : String) (r : Except Failure α) (cleanup : Option Failure)
    (s : Stage g H) :
    s.Tells (fun s => (answer r cleanup, s.ended name r cleanup)) [(s.store.phase, .idle)] := by
  let idle : Log.Event := .phaseChanged
    (s.updateStore fun t => { t with call := none }).store.currentFunction s.store.phase .idle
  cases cleanup with
  | none => exact ⟨[idle], fun _ => rfl, rfl⟩
  | some c =>
    cases r with
    | ok a => exact ⟨[idle, .cleanupFailed name c], fun _ => rfl, rfl⟩
    | error e => exact ⟨[idle, .cleanupFailedAfterError name e c], fun _ => rfl, rfl⟩

def unload (b : Option Bridge) (name : String) (s : Stage g H) : Option Failure × Stage g H :=
  releasing b name s.tracked s.emptied

theorem unload_quiet (b : Option Bridge) (name : String) (s : Stage g H) :
    s.Quiet (unload b name) ∧ (unload b name s).2.store.phase = s.store.phase := by
  obtain ⟨hq, hp⟩ := releasing_quiet b name s.tracked s.emptied
  exact ⟨.congr (fun _ => rfl) (hq.after (u := emptied) fun _ => rfl), hp⟩

theorem unloaded_tells (b : Option Bridge) (name : String) (r : Except Failure α) (s : Stage g H) :
    s.Tells (fun s => (answer r (unload b name s).1,
      (unload b name s).2.ended name r (unload b name s).1)) [(s.store.phase, .idle)] := by
  obtain ⟨hq, hp⟩ := unload_quiet b name s
  have he := ended_tells name r (unload b name s).1 (unload b name s).2
  rw [hp] at he
  exact hq.followed (k := fun c s => (answer r c, s.ended name r c)) he

/-- The end of a call leads back to rest, through failure if the call failed before. -/
theorem finish_tells (b : Option Bridge) (name : String) (r : Except Failure α) (s : Stage g H) :
    s.Tells (finish b name r) (wayBack s.store.phase r) := by
  have hrun : finish b name r = fun s : Stage g H =>
      (answer r (unload b name (s.resting r)).1, (unload b name (s.resting r)).2.ended name r
        (unload b name (s.resting r)).1) := funext fun s => run_finish b name r s
  have hend := unloaded_tells b name r (s.resting r)
  rw [hrun]
  cases r with
  | ok a => exact hend.after (u := fun s => s.resting (.ok a)) fun _ => rfl
  | error e =>
    have hf : s.Tells (fun s => ((), s.resting (.error e : Except Failure α)))
        [(s.store.phase, .failed)] :=
      ⟨[.phaseChanged s.store.currentFunction s.store.phase .failed], fun _ => rfl, rfl⟩
    exact hf.followed (k := fun _ s => (answer (.error e : Except Failure α) (unload b name s).1,
      (unload b name s).2.ended name (.error e : Except Failure α) (unload b name s).1)) hend

def conclude (b : Option Bridge) (name : String) (r : Except Failure α) (s : Stage g H) :
    Except Failure α × Stage g H :=
  finish b name (surface name s.store.guestError r) s.silenced

theorem conclude_tells (b : Option Bridge) (name : String) (r : Except Failure α) (s : Stage g H) :
    s.Tells (conclude b name r) (wayBack s.store.phase (surface name s.store.guestError r)) :=
  .congr (fun _ => rfl) (.after (u := silenced) (fun _ => rfl)
    (finish_tells b name (surface name s.store.guestError r) s.silenced))

/-- Whether a call is accepted has nothing to do with the log. -/
theorem Accepts.on {s : Stage g H} {name : String} {t body : Task g H α}
    (h : s.Accepts name t body) (j : Log.Journal) : (s.on j).Accepts name t body := by
  cases h with
  | octets function b input idle found bridge => exact .octets function b input idle found bridge
  | values function signature args idle found typed =>
    exact .values function signature args idle found typed

/-- The way of an accepted call through the phases: to where its body ends, and back to rest. -/
theorem Accepts.tells {s : Stage g H} {name : String} {t body : Task g H α}
    (h : s.Accepts name t body) :
    let done := body.run (s.begun name)
    s.Tells t.run (wayTo done.2.store.phase ++
      wayBack done.2.store.phase (surface name done.2.store.guestError done.1)) := by
  have hrun (j : Log.Journal) : t.run (s.on j) =
      conclude s.store.bridge name (body.run ((s.on j).begun name)).1
        (body.run ((s.on j).begun name)).2 := by
    rw [(h.on j).run_eq, run_during]
    rfl
  have hb : s.Quiet fun s => ((), s.begun name) := ⟨[.callStarted name], fun _ => rfl, rfl⟩
  exact .congr hrun (hb.followed
    (k := fun _ s' => conclude s.store.bridge name (body.run s').1 (body.run s').2)
    (h.walks.tells.followed (conclude_tells _ name _ _)))

inductive Exit where
  /-- The export was not entered, as its input could not be put in place. -/
  | unsupplied
  /-- The export did not return, or its result could not be taken over. -/
  | failed
  /-- The guest's own message stands in for the result. -/
  | overruled
  | returned
  deriving DecidableEq, Inhabited

def Exit.path : Exit → List (CallPhase × CallPhase)
  | .unsupplied => [(.idle, .failed), (.failed, .idle)]
  | .failed =>
    [(.idle, .argsMarshaled), (.argsMarshaled, .invoking), (.invoking, .failed), (.failed, .idle)]
  | .overruled =>
    [(.idle, .argsMarshaled), (.argsMarshaled, .invoking), (.invoking, .resultMarshaled),
      (.resultMarshaled, .failed), (.failed, .idle)]
  | .returned =>
    [(.idle, .argsMarshaled), (.argsMarshaled, .invoking), (.invoking, .resultMarshaled),
      (.resultMarshaled, .idle)]

def exit (deeds : List Deed) (r : Except Failure α) (message : Option String) : Exit :=
  match r, message with
  | .error _, _ => if Deeds.entries deeds = [] then .unsupplied else .failed
  | .ok _, some _ => .overruled
  | .ok _, none => .returned

/-- Two of the four exits follow the diagram. -/
theorem Exit.follows_iff (x : Exit) :
    CallPhase.idle.follows .idle x.path = true ↔ x = .failed ∨ x = .returned := by
  cases x <;> simp [Exit.path, follows, leadsTo]

theorem Walked.path_eq {s s₁ : Stage g H} {r : Except Failure α} (h : s.Walked r s₁)
    {ds : List Deed} (hd : s.Did ds s₁) (name : String) (message : Option String) :
    wayTo s₁.store.phase ++ wayBack s₁.store.phase (surface name message r) =
      (exit ds r message).path := by
  cases h with
  | before e _ phase ds' did entries =>
    obtain rfl := hd.unique did
    rw [phase]
    cases message with
    | none => simp [exit, entries, Exit.path, surface, wayTo, wayBack]
    | some m => cases e <;> simp [exit, entries, Exit.path, surface, wayTo, wayBack]
  | amid e _ phase ds' did entries =>
    obtain rfl := hd.unique did
    rw [phase]
    cases message with
    | none => simp [exit, entries, Exit.path, surface, wayTo, wayBack]
    | some m => cases e <;> simp [exit, entries, Exit.path, surface, wayTo, wayBack]
  | through a _ phase ds' did entries =>
    rw [phase]
    cases message <;> rfl

/-- The two exits that follow the diagram, by what is known of a body. -/
theorem Walked.follows_iff {s s₁ : Stage g H} {r : Except Failure α} (h : s.Walked r s₁)
    {ds : List Deed} (hd : s.Did ds s₁) (message : Option String) :
    CallPhase.idle.follows .idle (exit ds r message).path = true ↔
      Deeds.entries ds ≠ [] ∧ ((∃ v, r = .ok v) → message = none) := by
  rw [Exit.follows_iff]
  cases h with
  | before e _ phase ds' did entries =>
    obtain rfl := hd.unique did
    cases message <;> simp [exit, entries]
  | amid e _ phase ds' did entries =>
    obtain rfl := hd.unique did
    cases message <;> simp [exit, entries]
  | through a _ phase ds' did entries =>
    obtain rfl := hd.unique did
    cases message <;> simp [exit, entries]

/-- The way of an accepted call is that of its exit, whoever listens. -/
theorem Accepts.exits {s : Stage g H} {name : String} {t body : Task g H α}
    (h : s.Accepts name t body) {ds : List Deed}
    (hd : (s.begun name).Did ds (body.run (s.begun name)).2) :
    s.Tells t.run (exit ds (body.run (s.begun name)).1
      (body.run (s.begun name)).2.store.guestError).path := by
  have ht := h.tells
  dsimp only at ht
  rwa [h.walks.walked.path_eq hd name] at ht

/-- A call only answers well after its result was taken over and no message was left. -/
theorem Accepts.returned_of_ok {s : Stage g H} {name : String} {t body : Task g H α}
    (h : s.Accepts name t body) {v : α} (hv : (t.run s).1 = .ok v) (ds : List Deed) :
    exit ds (body.run (s.begun name)).1 (body.run (s.begun name)).2.store.guestError =
      .returned := by
  rw [h.run_eq, run_during] at hv
  rcases hb : body.run (s.begun name) with ⟨r, s₁⟩
  simp only [hb, run_finish] at hv
  cases r with
  | error e => cases hm : s₁.store.guestError <;> rw [hm] at hv <;> cases e <;> cases hv
  | ok a =>
    cases hm : s₁.store.guestError with
    | none => rfl
    | some m =>
      rw [hm] at hv
      cases hv

/-- Which phases an accepted call goes through. There are four ways, and the log is told of each
change; a call that answers well takes the way through its result. A call follows the diagram
exactly if its export was entered and no message of the guest stands against its result: a failure
to put the input in place leads from rest to failure, and a message leads there from the result. -/
theorem phases_follow_diagram_iff {s : Stage g H} (fresh : s.deeds = []) {name : String}
    {t body : Task g H α} (accepts : s.Accepts name t body) :
    let done := body.run (s.begun name)
    let way := exit done.2.record done.1 done.2.store.guestError
    s.Emits t.run (s.heard t.run) ∧ Log.transitions (s.heard t.run) = way.path ∧
      (∀ v, (t.run s).1 = .ok v → way = .returned) ∧
      (CallPhase.idle.follows .idle (Log.transitions (s.heard t.run)) = true ↔
        Deeds.entries done.2.record ≠ [] ∧
          ((∃ v, done.1 = .ok v) → done.2.store.guestError = none)) := by
  intro done way
  have hd : (s.begun name).Did done.2.record done.2 := by
    have hb : (s.begun name).deeds = [] := fresh
    simp [Did, record, hb]
  obtain ⟨he, hp⟩ := (accepts.exits hd).heard
  refine ⟨he, hp, fun v hv => accepts.returned_of_ok hv _, ?_⟩
  rw [hp]
  exact Walked.follows_iff accepts.walks.walked hd _

open Wasm in
theorem echo_follows_diagram :
    echoing.Accepts "echo" (call "echo" [1]) (exchange ⟨0, 0, 1⟩ "echo" 2 [1]) ∧
      Log.transitions (echoing.heard (call "echo" [1]).run) = Exit.returned.path ∧
      CallPhase.idle.follows .idle (Log.transitions (echoing.heard (call "echo" [1]).run)) =
        true := by
  have ha : echoing.Accepts "echo" (call "echo" [1]) (exchange ⟨0, 0, 1⟩ "echo" 2 [1]) :=
    .octets 2 ⟨0, 0, 1⟩ [1] rfl rfl rfl
  obtain ⟨-, hp, hr, hf⟩ := phases_follow_diagram_iff (s := echoing) rfl ha
  have hc : ((call "echo" [1]).run echoing).1.toOption = some [1] := by decide +kernel
  have hv : ((call "echo" [1]).run echoing).1 = .ok [1] := by
    cases h : ((call "echo" [1]).run echoing).1 with
    | error e =>
      rw [h] at hc
      cases hc
    | ok v =>
      rw [h] at hc
      exact congrArg _ (Option.some.inj hc)
  have hw := hr [1] hv
  exact ⟨ha, by rw [hp, hw], hf.mpr ⟨by decide +kernel, fun _ => by decide +kernel⟩⟩

end Stage

namespace Wasm

def barren : Program :=
  { echo with functions := echo.functions.set 0 ⟨⟨[.i32], [.i32]⟩, [], [.const (.i32 0), .end_]⟩ }

def wayOf (p : Program) (name : String) (input : Bytes) : Option (List (CallPhase × CallPhase)) :=
  match (Opening.instantiate Registry.empty p {} : HostTask Unit (Instance engine Unit)).run
    echoing.world with
  | (.ok i, w) => some (Log.transitions ((⟨i, w, []⟩ : Stage engine Unit).heard
      (Stage.call name input).run))
  | (.error _, _) => none

theorem tells_of_wayOf {p : Program} {b : Bridge} {name : String} {function : Nat} {input : Bytes}
    {path : List (CallPhase × CallPhase)} (hb : Opening.bridge? engine p = .ok (some b))
    (hf : engine.function? p name = some (function, .bytes)) (hw : wayOf p name input = some path) :
    ∃ (i : Instance engine Unit) (w : World Unit),
      (Opening.instantiate Registry.empty p {} : HostTask Unit (Instance engine Unit)).run
          echoing.world = (.ok i, w) ∧
        (⟨i, w, []⟩ : Stage engine Unit).Accepts name (Stage.call name input)
          (Stage.exchange b name function input) ∧
        (⟨i, w, []⟩ : Stage engine Unit).Tells (Stage.call name input).run path := by
  unfold wayOf at hw
  rcases ho : (Opening.instantiate Registry.empty p {} :
    HostTask Unit (Instance engine Unit)).run echoing.world with ⟨e | i, w⟩ <;> rw [ho] at hw
  · cases hw
  have hr := Opening.instantiate_ready ho
  have hi : i.store.bridge = some b := Except.ok.inj (hr.bridge.symm.trans hb)
  have ha : (⟨i, w, []⟩ : Stage engine Unit).Accepts name (Stage.call name input)
      (Stage.exchange b name function input) :=
    .octets function b input hr.idle (hr.module ▸ hf) hi
  have ht := ha.tells
  obtain ⟨he, hp⟩ := ht.heard
  exact ⟨i, w, rfl, ha, _, he, Option.some.inj hw⟩

/-- Where the allocator has nothing to give, a call is accepted and leads from rest to failure. -/
theorem barren_leaves_diagram :
    ∃ (i : Instance engine Unit) (w : World Unit),
      (Opening.instantiate Registry.empty barren {} : HostTask Unit (Instance engine Unit)).run
          echoing.world = (.ok i, w) ∧
        (⟨i, w, []⟩ : Stage engine Unit).Accepts "echo" (Stage.call "echo" [1])
          (Stage.exchange ⟨0, 0, 1⟩ "echo" 2 [1]) ∧
        (⟨i, w, []⟩ : Stage engine Unit).Tells (Stage.call "echo" [1]).run
          [(.idle, .failed), (.failed, .idle)] ∧
        CallPhase.idle.follows .idle [(.idle, .failed), (.failed, .idle)] = false := by
  obtain ⟨i, w, ho, ha, ht⟩ := tells_of_wayOf (p := barren) (b := ⟨0, 0, 1⟩)
    rfl rfl (by decide +kernel : wayOf barren "echo" [1] = some Stage.Exit.unsupplied.path)
  exact ⟨i, w, ho, ha, ht, rfl⟩

/-- Where the guest leaves a message and returns, a call leads from its result to failure. -/
theorem reporter_leaves_diagram :
    ∃ (i : Instance engine Unit) (w : World Unit),
      (Opening.instantiate Registry.empty (reporter 0) {} :
          HostTask Unit (Instance engine Unit)).run echoing.world = (.ok i, w) ∧
        (⟨i, w, []⟩ : Stage engine Unit).Accepts "run" (Stage.call "run" [1])
          (Stage.exchange ⟨0, 1, 2⟩ "run" 3 [1]) ∧
        (⟨i, w, []⟩ : Stage engine Unit).Tells (Stage.call "run" [1]).run
          [(.idle, .argsMarshaled), (.argsMarshaled, .invoking), (.invoking, .resultMarshaled),
            (.resultMarshaled, .failed), (.failed, .idle)] ∧
        CallPhase.idle.follows .idle Stage.Exit.overruled.path = false := by
  obtain ⟨i, w, ho, ha, ht⟩ := tells_of_wayOf (p := reporter 0) (b := ⟨0, 1, 2⟩)
    rfl rfl (by decide +kernel : wayOf (reporter 0) "run" [1] = some Stage.Exit.overruled.path)
  exact ⟨i, w, ho, ha, ht, rfl⟩

end Wasm

end PluginHost
