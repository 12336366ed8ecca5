import PluginHost.Proofs.Record
import PluginHost.Wasm.Engine
/-!
The parts of a call. A call that is accepted is its body between a beginning and an end; each part
is an equation on stages, for the theorems about whole calls to be put together from.
-/
namespace PluginHost
variable {g : Guest} {H α : Type}

namespace Stage

def begun (s : Stage g H) (name : String) : Stage g H :=
  (s.updateStore fun t =>
    { t.refuelled.armed with
      call := some ⟨name, []⟩
      guestError := none
      limit := t.limit.reset }).log (.callStarted name)

theorem run_begin (name : String) {s : Stage g H} (h : s.store.phase = .idle) :
    (begin name : Task g H Unit).run s = (.ok (), s.begun name) := by
  have hp : ¬ s.store.phase ≠ .idle := fun hn => hn h
  unfold begin
  simp only [Task.run_bind, Task.run_get, hp, if_false, Task.run_modify]
  rfl

/-- The calls that are accepted in a stage, each with the body that runs during the call. -/
inductive Accepts (s : Stage g H) (name : String) :
    {α : Type} → Task g H α → Task g H α → Prop
  | octets (function : Nat) (b : Bridge) (input : Bytes) (idle : s.store.phase = .idle)
      (found : g.function? s.module name = some (function, .bytes))
      (bridge : s.store.bridge = some b) :
      Accepts s name (call name input) (exchange b name function input)
  | values (function : Nat) (signature : Signature) (args : List Value)
      (idle : s.store.phase = .idle)
      (found : g.function? s.module name = some (function, signature))
      (typed : args.map Value.kind = signature.params) :
      Accepts s name (callValues name args) (exchangeValues name function args)

/-- The calls that are refused in a stage, and why: for what they ask, or because another call is in
progress. -/
inductive Refuses (s : Stage g H) (name : String) : {α : Type} → Task g H α → Failure → Prop
  | unknown (input : Bytes) (missing : g.function? s.module name = none) :
      Refuses s name (call name input) (.unknownExport name)
  | notBytes (function : Nat) (signature : Signature) (input : Bytes)
      (found : g.function? s.module name = some (function, signature))
      (other : signature ≠ .bytes) :
      Refuses s name (call name input) (.argument (.notBytes name signature))
  | noAllocator (function : Nat) (input : Bytes)
      (found : g.function? s.module name = some (function, .bytes))
      (bridge : s.store.bridge = none) :
      Refuses s name (call name input) (.argument (.noAllocator name))
  | busy (function : Nat) (b : Bridge) (input : Bytes)
      (found : g.function? s.module name = some (function, .bytes))
      (bridge : s.store.bridge = some b) (busy : s.store.phase ≠ .idle) :
      Refuses s name (call name input) (.reentrancy name)
  | unknownValues (args : List Value) (missing : g.function? s.module name = none) :
      Refuses s name (callValues name args) (.unknownExport name)
  | argumentTypes (function : Nat) (signature : Signature) (args : List Value)
      (found : g.function? s.module name = some (function, signature))
      (other : args.map Value.kind ≠ signature.params) :
      Refuses s name (callValues name args)
        (.argument (.argumentTypes name signature (args.map Value.kind)))
  | busyValues (function : Nat) (signature : Signature) (args : List Value)
      (found : g.function? s.module name = some (function, signature))
      (typed : args.map Value.kind = signature.params) (busy : s.store.phase ≠ .idle) :
      Refuses s name (callValues name args) (.reentrancy name)

theorem run_begin_busy (name : String) {s : Stage g H} (h : s.store.phase ≠ .idle) :
    (begin name : Task g H Unit).run s = (.error (.reentrancy name), s) := by
  unfold begin
  simp only [Task.run_bind, Task.run_get, h, ne_eq, not_false_eq_true, if_true, Task.run_throw]

theorem run_lookup (name : String) (s : Stage g H) :
    (lookup name : Task g H _).run s =
      match g.function? s.module name with
      | some f => (.ok f, s)
      | none => (.error (.unknownExport name), s) := by
  unfold lookup
  rw [Task.run_bind_ok (Task.run_get s)]
  cases g.function? s.module name <;> rfl

/-- An accepted call is its body between its beginning and its end. -/
theorem Accepts.run_eq {s : Stage g H} {name : String} {t body : Task g H α}
    (h : s.Accepts name t body) :
    t.run s = (during s.store.bridge name body).run (s.begun name) := by
  cases h with
  | octets function b input idle found bridge =>
    have hl : (lookup name : Task g H _).run s = (.ok (function, .bytes), s) := by
      rw [run_lookup, found]
    have hs : ¬ Signature.bytes ≠ Signature.bytes := fun hn => hn rfl
    unfold call
    simp only [Task.run_bind, hl, hs, if_false, Task.run_get, bridge, run_begin name idle]
  | values function signature args idle found typed =>
    have hl : (lookup name : Task g H _).run s = (.ok (function, signature), s) := by
      rw [run_lookup, found]
    have ht : ¬ args.map Value.kind ≠ signature.params := fun hn => hn typed
    unfold callValues
    simp only [Task.run_bind, hl, ht, if_false, run_begin name idle, Task.run_get]
    rfl

/-- When a call is refused nothing happens. -/
theorem Refuses.run_eq {s : Stage g H} {name : String} {t : Task g H α} {e : Failure}
    (h : s.Refuses name t e) : t.run s = (.error e, s) := by
  have hl := run_lookup name s
  cases h with
  | unknown input missing =>
    rw [missing] at hl
    exact Task.run_bind_error hl _
  | notBytes function signature input found other =>
    rw [found] at hl
    unfold call
    simp only [Task.run_bind, hl, other, ne_eq, not_false_eq_true, if_true, Task.run_throw]
  | noAllocator function input found bridge =>
    rw [found] at hl
    unfold call
    simp only [Task.run_bind, hl, ne_eq, not_true_eq_false, if_false, Task.run_get, bridge,
      Task.run_throw]
  | busy function b input found bridge busy =>
    rw [found] at hl
    unfold call
    simp only [Task.run_bind, hl, ne_eq, not_true_eq_false, if_false, Task.run_get, bridge,
      run_begin_busy name busy]
  | unknownValues args missing =>
    rw [missing] at hl
    exact Task.run_bind_error hl _
  | argumentTypes function signature args found other =>
    rw [found] at hl
    unfold callValues
    simp only [Task.run_bind, hl, other, ne_eq, not_false_eq_true, if_true, Task.run_throw]
  | busyValues function signature args found typed busy =>
    rw [found] at hl
    have ht : ¬ args.map Value.kind ≠ signature.params := fun hn => hn typed
    unfold callValues
    simp only [Task.run_bind, hl, ht, if_false, run_begin_busy name busy]

/-- Only in the midst of another call is a call refused as re-entrant; every other refusal is for
what the call asks. -/
theorem Refuses.kind {s : Stage g H} {name : String} {t : Task g H α} {e : Failure}
    (h : s.Refuses name t e) :
    e.kind = .unknownExport ∨ e.kind = .argument ∨
      e.kind = .reentrancy ∧ s.store.phase ≠ .idle := by
  cases h with
  | unknown | unknownValues => exact .inl rfl
  | notBytes | noAllocator | argumentTypes => exact .inr (.inl rfl)
  | busy _ _ _ _ _ busy => exact .inr (.inr ⟨rfl, busy⟩)
  | busyValues _ _ _ _ _ busy => exact .inr (.inr ⟨rfl, busy⟩)

theorem Refuses.kind_of_idle {s : Stage g H} {name : String} {t : Task g H α} {e : Failure}
    (h : s.Refuses name t e) (hs : s.store.phase = .idle) :
    e.kind = .unknownExport ∨ e.kind = .argument := by
  rcases h.kind with hu | ha | ⟨-, hn⟩
  · exact .inl hu
  · exact .inr ha
  · exact absurd hs hn

def Calling (name : String) (t : Task g H α) : Prop :=
  ∀ s : Stage g H, (∃ body, s.Accepts name t body) ∨ ∃ e, s.Refuses name t e

theorem call_calling (name : String) (input : Bytes) :
    Calling name (call name input : Task g H Bytes) := by
  intro s
  rcases hf : g.function? s.module name with _ | ⟨function, signature⟩
  · exact .inr ⟨_, .unknown input hf⟩
  · by_cases hs : signature = .bytes
    · subst hs
      cases hb : s.store.bridge with
      | none => exact .inr ⟨_, .noAllocator function input hf hb⟩
      | some b =>
        by_cases hp : s.store.phase = .idle
        · exact .inl ⟨_, .octets function b input hp hf hb⟩
        · exact .inr ⟨_, .busy function b input hf hb hp⟩
    · exact .inr ⟨_, .notBytes function signature input hf hs⟩

theorem callValues_calling (name : String) (args : List Value) :
    Calling name (callValues name args : Task g H (List Value)) := by
  intro s
  rcases hf : g.function? s.module name with _ | ⟨function, signature⟩
  · exact .inr ⟨_, .unknownValues args hf⟩
  · by_cases ht : args.map Value.kind = signature.params
    · by_cases hp : s.store.phase = .idle
      · exact .inl ⟨_, .values function signature args hp hf ht⟩
      · exact .inr ⟨_, .busyValues function signature args hf ht hp⟩
    · exact .inr ⟨_, .argumentTypes function signature args hf ht⟩

/-- Between calls, a call is accepted or refused for what it asks alone. -/
theorem Calling.accepted_or_unfit {s : Stage g H} {name : String} {t : Task g H α}
    (h : Calling name t) (hs : s.store.phase = .idle) :
    (∃ body, s.Accepts name t body) ∨
      ∃ e, s.Refuses name t e ∧ (e.kind = .unknownExport ∨ e.kind = .argument) := by
  rcases h s with ha | ⟨e, he⟩
  · exact .inl ha
  · exact .inr ⟨e, he, he.kind_of_idle hs⟩

def entering (s : Stage g H) (function : Nat) (args : List Value) : Stage g H :=
  ((s.enterPhase .argsMarshaled).enterPhase .invoking).note (.entered function args)

def output (s : Stage g H) (b : Bridge) (word : UInt64) : Except Failure Bytes :=
  s.read b.memory (Block.unpack word).ptr (Block.unpack word).len

theorem run_exchange (b : Bridge) (name : String) (function : Nat) (input : Bytes)
    (s : Stage g H) :
    (exchange b name function input).run s =
      match (Buffer.placeForCall enter b input).run s with
      | (.error e, s₁) => (.error e, s₁)
      | (.ok block, s₁) =>
        let args := [.i32 block.ptr, .i32 block.len]
        let (r, s₂) := (enter function args : Action g H Ending) (s₁.entering function args)
        match packed r with
        | .error h => (.error (s₂.store.classify name h), s₂)
        | .ok word =>
          match s₂.output b word with
          | .error e => (.error e, s₂)
          | .ok v =>
            (.ok v, (s₂.updateStore fun t => adopt t (Block.unpack word)).enterPhase
              .resultMarshaled) := by
  unfold exchange
  rw [Task.run_bind]
  rcases (Buffer.placeForCall enter b input).run s with ⟨e | block, s₁⟩
  · rfl
  simp only [Task.run_bind, Task.run_modify, Task.run_lift, entering]
  rcases (enter function [.i32 block.ptr, .i32 block.len] : Action g H Ending)
    (((s₁.enterPhase .argsMarshaled).enterPhase .invoking).note
      (.entered function [.i32 block.ptr, .i32 block.len])) with ⟨r, s₂⟩
  dsimp only
  cases packed r with
  | error h => simp only [Task.run_bind, Task.run_get, Task.run_throw]
  | ok word =>
    simp only [Task.run_bind, Task.run_get, Task.run_ofExcept, output]
    cases s₂.read b.memory (Block.unpack word).ptr (Block.unpack word).len <;> rfl

theorem run_exchangeValues (name : String) (function : Nat) (args : List Value) (s : Stage g H) :
    (exchangeValues name function args).run s =
      let (r, s₁) := (enter function args : Action g H Ending) (s.entering function args)
      match r with
      | .error h => (.error (s₁.store.classify name h), s₁)
      | .ok results => (.ok results, s₁.enterPhase .resultMarshaled) := by
  unfold exchangeValues
  simp only [Task.run_bind, Task.run_modify, Task.run_lift, entering]
  rcases (enter function args : Action g H Ending)
    (((s.enterPhase .argsMarshaled).enterPhase .invoking).note (.entered function args)) with
    ⟨h | results, s₁⟩
  · simp only [Task.run_bind, Task.run_get, Task.run_throw]
  · rfl

def silenced (s : Stage g H) : Stage g H := s.updateStore fun t => { t with guestError := none }

def resting (s : Stage g H) (r : Except Failure α) : Stage g H :=
  let s := match r with
    | .error _ => s.enterPhase .failed
    | .ok _ => s
  s.updateStore fun t => t.refuelled.disarmed

def emptied (s : Stage g H) : Stage g H :=
  s.updateStore fun t => { t with call := t.call.map fun c => { c with blocks := [] } }

def releasing (b : Option Bridge) (name : String) (blocks : List Block) :
    Action g H (Option Failure) :=
  match b with
  | some b => releaseAll b name blocks
  | none => pure none

/-- The answer of a call: its own failure comes before a failure to give buffers back. -/
def answer (r : Except Failure α) (cleanup : Option Failure) : Except Failure α :=
  match r, cleanup with
  | .error e, _ => .error e
  | .ok _, some e => .error e
  | .ok a, none => .ok a

def ended (s : Stage g H) (name : String) (r : Except Failure α) (cleanup : Option Failure) :
    Stage g H :=
  let s := (s.updateStore fun t => { t with call := none }).enterPhase .idle
  match cleanup with
  | none => s
  | some c =>
    (s.updateStore fun t => { t with poisoned := true }).log
      (match r with
      | .ok _ => .cleanupFailed name c
      | .error e => .cleanupFailedAfterError name e c)

theorem run_takeBlocks (s : Stage g H) :
    (takeBlocks : Action g H _) s = (s.tracked, s.emptied) := rfl

theorem run_finish (b : Option Bridge) (name : String) (r : Except Failure α) (s : Stage g H) :
    finish b name r s =
      let s₁ := s.resting r
      let (cleanup, s₂) := (releasing b name s₁.tracked : Action g H _) s₁.emptied
      (answer r cleanup, s₂.ended name r cleanup) := by
  unfold finish releasing
  cases b with
  | none => cases r <;> rfl
  | some b =>
    cases r with
    | error e =>
      simp only [if_true, Action.run_bind, Action.run_modify, run_takeBlocks, resting]
      rcases (releaseAll b name _ : Action g H _) (emptied _) with ⟨cleanup, s₂⟩
      cases cleanup <;> rfl
    | ok a =>
      simp only [Bool.false_eq_true, if_false, Action.run_bind, Action.run_modify, run_takeBlocks,
        resting]
      rcases (releaseAll b name _ : Action g H _) (emptied _) with ⟨cleanup, s₂⟩
      cases cleanup <;> rfl

theorem run_during (b : Option Bridge) (name : String) (body : Task g H α) (s : Stage g H) :
    (during b name body).run s =
      let (r, s₁) := body.run s
      finish b name (surface name s₁.store.guestError r) s₁.silenced := by
  change finish b name (surface name (body.run s).2.store.guestError (body.run s).1)
    (body.run s).2.silenced = _
  rcases body.run s with ⟨r, s₁⟩
  rfl

end Stage

namespace Wasm

/-- A module whose export `echo` returns the buffer that it is given; its allocator always answers
with the same address. -/
def echo : Program where
  imports := []
  exports := [
    ⟨Name.memory, .memory 0 ⟨1, none⟩⟩, ⟨Name.alloc, .function 0 Opening.allocType⟩,
    ⟨Name.dealloc, .function 1 Opening.deallocType⟩, ⟨"echo", .function 2 .bytes⟩]
  imported := #[]
  functions := #[
    ⟨⟨[.i32], [.i32]⟩, [], [.const (.i32 1024), .end_]⟩,
    ⟨⟨[.i32, .i32], []⟩, [], [.end_]⟩,
    ⟨⟨[.i32, .i32], [.i64]⟩, [],
      [.localGet 0, .convert .extendU, .const (.i64 32), .intBinary .w64 .shl,
        .localGet 1, .convert .extendU, .intBinary .w64 .or, .end_]⟩]
  types := #[]
  memories := [⟨⟨1, none⟩, false, false, none⟩]
  tables := []
  globals := []
  elems := #[]
  data := #[]
  start := none

def echoing : Stage engine Unit where
  module := echo
  providers := #[]
  guest := { State.empty with memories := #[⟨#[ByteArray.empty], none⟩] }
  store := { Store.ofSettings {} with bridge := some ⟨0, 0, 1⟩ }
  world := ⟨.start none "" default, ()⟩
  deeds := []

end Wasm

end PluginHost
