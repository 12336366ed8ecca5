import PluginHost.Proofs.Calls
/-!
What a stretch of work tells the log. Nobody who works on a stage looks at the log: whatever it
holds, the same is done and the same events are added. So the events of a stretch can be spoken of
also where nobody listens. Guest code and imported functions never change the phase of a call, so
none of their events is a change of phase.
-/
namespace PluginHost
variable {g : Guest} {H α β : Type}

namespace Log

namespace Journal

theorem emitAll_append (j : Journal) (es es' : List Event) :
    j.emitAll (es ++ es') = (j.emitAll es).emitAll es' := List.foldl_append

theorem emit_place (j : Journal) (e : Event) :
    (j.emit e).installed = j.installed ∧ (j.emit e).occupied = j.occupied := by
  unfold emit
  cases hi : j.installed with
  | none => exact ⟨hi, rfl⟩
  | some i =>
    dsimp only
    split
    · exact ⟨hi, rfl⟩
    · exact ⟨rfl, rfl⟩

theorem emitAll_place (j : Journal) (es : List Event) :
    (j.emitAll es).installed = j.installed ∧ (j.emitAll es).occupied = j.occupied := by
  induction es generalizing j with
  | nil => exact ⟨rfl, rfl⟩
  | cons e es ih =>
    obtain ⟨hi, ho⟩ := ih (j.emit e)
    obtain ⟨hi', ho'⟩ := j.emit_place e
    exact ⟨hi.trans hi', ho.trans ho'⟩

def listening : Journal :=
  { start none "" default with installed := some ⟨.to .stderr, Filter.atLeast .trace, none⟩ }

theorem passes_trace (e : Event) : (Filter.atLeast .trace).passes e = true := by
  have ha : (Directive.general (.from_ .trace)).applies e = true := rfl
  have hl : Level.trace ≤ e.level := Nat.zero_le _
  have hd : (Filter.atLeast .trace).for? e = some (.general (.from_ .trace)) := by
    simp [Filter.for?, Filter.atLeast, ha]
  simp [Filter.passes, hd, Directive.general, Threshold.passes, hl]

theorem emitAll_listening (es : List Event) : (listening.emitAll es).events.toList = es := by
  have h (before : Array Event) :
      ({ listening with events := before }.emitAll es).events.toList = before.toList ++ es := by
    -- Events are emitted one by one, each behind those that are there already.
    induction es generalizing before with
    | nil => exact (List.append_nil _).symm
    | cons e es ih =>
      have he : { listening with events := before }.emit e =
          { listening with events := before.push e } := by
        simp [emit, listening, passes_trace]
      change ({ listening with events := before }.emit e |>.emitAll es).events.toList = _
      rw [he, ih, Array.toList_push, List.append_assoc]
      rfl
  exact h #[]

end Journal

def Event.transition? : Event → Option (CallPhase × CallPhase)
  | .phaseChanged _ before after => some (before, after)
  | _ => none

def transitions (es : List Event) : List (CallPhase × CallPhase) :=
  es.filterMap Event.transition?

@[simp] theorem transitions_append (es es' : List Event) :
    transitions (es ++ es') = transitions es ++ transitions es' := List.filterMap_append

end Log

namespace Stage

def on (s : Stage g H) (j : Log.Journal) : Stage g H :=
  { s with world := { s.world with journal := j } }

theorem on_self (s : Stage g H) : s.on s.world.journal = s := rfl

theorem note_on (s : Stage g H) (d : Deed) (j : Log.Journal) :
    (s.on j).note d = (s.note d).on j := rfl

/-- What a step adds to the log, whatever the log; nothing else that it does depends on the log. -/
def Emits (s : Stage g H) (f : Stage g H → α × Stage g H) (es : List Log.Event) : Prop :=
  ∀ j, f (s.on j) = ((f s).1, (f s).2.on (j.emitAll es))

def Tells (s : Stage g H) (f : Stage g H → α × Stage g H) (path : List (CallPhase × CallPhase)) :
    Prop := ∃ es, s.Emits f es ∧ Log.transitions es = path

abbrev Quiet (s : Stage g H) (f : Stage g H → α × Stage g H) : Prop := s.Tells f []

variable {s : Stage g H} {f : Stage g H → α × Stage g H}

theorem Emits.journal {es : List Log.Event} (h : s.Emits f es) :
    (f s).2.world.journal = s.world.journal.emitAll es := by
  have hj := h s.world.journal
  rw [on_self] at hj
  exact congrArg (fun x : α × Stage g H => x.2.world.journal) hj

def heard (s : Stage g H) (f : Stage g H → α × Stage g H) : List Log.Event :=
  (f (s.on .listening)).2.world.journal.events.toList

theorem Emits.heard_eq {es : List Log.Event} (h : s.Emits f es) : s.heard f = es := by
  unfold heard
  rw [h, on, Log.Journal.emitAll_listening]

theorem Tells.heard {path : List (CallPhase × CallPhase)} (h : s.Tells f path) :
    s.Emits f (s.heard f) ∧ Log.transitions (s.heard f) = path := by
  obtain ⟨es, he, ht⟩ := h
  rw [he.heard_eq]
  exact ⟨he, ht⟩

theorem Quiet.of_same (h : ∀ j, f (s.on j) = ((f s).1, (f s).2.on j)) : s.Quiet f :=
  ⟨[], h, rfl⟩

theorem Tells.congr {f' : Stage g H → α × Stage g H} {path : List (CallPhase × CallPhase)}
    (h : ∀ j, f (s.on j) = f' (s.on j)) (hf : s.Tells f' path) : s.Tells f path := by
  obtain ⟨es, he, ht⟩ := hf
  have hs : f s = f' s := h s.world.journal
  exact ⟨es, fun j => by rw [h j, he j, hs], ht⟩

theorem Tells.map {path : List (CallPhase × CallPhase)} (c : α → β) (hf : s.Tells f path) :
    s.Tells (fun s => (c (f s).1, (f s).2)) path := by
  obtain ⟨es, he, ht⟩ := hf
  exact ⟨es, fun j => by dsimp only; rw [he j], ht⟩

theorem Tells.logged {e : Log.Event} {path : List (CallPhase × CallPhase)}
    (hf : (s.log e).Tells f path) :
    s.Tells (fun s => f (s.log e)) (Log.transitions [e] ++ path) := by
  obtain ⟨es, he, rfl⟩ := hf
  refine ⟨e :: es, fun j => he (j.emit e), ?_⟩
  rw [← Log.transitions_append]
  rfl

theorem Tells.after {u : Stage g H → Stage g H} {path : List (CallPhase × CallPhase)}
    (hu : ∀ j, u (s.on j) = (u s).on j) (hf : (u s).Tells f path) :
    s.Tells (fun s => f (u s)) path := by
  obtain ⟨es, he, ht⟩ := hf
  refine ⟨es, fun j => ?_, ht⟩
  dsimp only
  rw [hu j, he j]

/-- One step after another. -/
theorem Tells.followed {k : α → Stage g H → β × Stage g H}
    {path path' : List (CallPhase × CallPhase)} (hf : s.Tells f path)
    (hk : (f s).2.Tells (k (f s).1) path') :
    s.Tells (fun s => k (f s).1 (f s).2) (path ++ path') := by
  obtain ⟨es, he, rfl⟩ := hf
  obtain ⟨es', he', rfl⟩ := hk
  refine ⟨es ++ es', fun j => ?_, by simp⟩
  dsimp only
  rw [he j, he' (j.emitAll es), Log.Journal.emitAll_append]

end Stage

open Stage

def Runner.Quiet (run : Runner g H) : Prop :=
  ∀ function args (s : Stage g H), s.Quiet (run function args)

namespace Task

theorem quiet_bind {t : Task g H α} {f : α → Task g H β} {s : Stage g H}
    (ht : s.Quiet t.run) (hf : ∀ a s', t.run s = (.ok a, s') → s'.Quiet (f a).run) :
    s.Quiet (t >>= f).run := by
  obtain ⟨es, he, hq⟩ := ht
  rcases h : t.run s with ⟨e | a, s'⟩
  · refine ⟨es, fun j => ?_, hq⟩
    rw [run_bind, run_bind, he j, h]
  · obtain ⟨es', he', hq'⟩ := hf a s' h
    refine ⟨es ++ es', fun j => ?_, by simp [hq, hq']⟩
    rw [run_bind, run_bind, he j, h]
    dsimp only
    rw [he' (j.emitAll es), Log.Journal.emitAll_append]

theorem quiet_get {f : Stage g H → Task g H β} {s : Stage g H} (hl : ∀ j, f (s.on j) = f s)
    (hf : s.Quiet (f s).run) : s.Quiet (get >>= f).run := by
  obtain ⟨es, he, hq⟩ := hf
  refine ⟨es, fun j => ?_, hq⟩
  rw [run_bind_ok (run_get _), run_bind_ok (run_get _), hl j, he j]

theorem quiet_ofExcept (r : Except Failure α) (s : Stage g H) :
    s.Quiet (MonadExcept.ofExcept r : Task g H α).run :=
  .of_same fun j => by rw [run_ofExcept, run_ofExcept]

end Task

variable {run : Runner g H}

namespace Buffer

theorem placeForCall_quiet (hq : run.Quiet) (b : Bridge) (bytes : Bytes) (s : Stage g H) :
    s.Quiet (placeForCall run b bytes).run := by
  by_cases h₀ : bytes = []
  · exact .of_same fun j => by rw [h₀, run_placeForCall_nil, run_placeForCall_nil]
  · rcases Nat.lt_or_ge maxLength bytes.length with hl | hl
    · exact .of_same fun j => by
        rw [run_placeForCall_long run b hl, run_placeForCall_long run b hl]
    · obtain ⟨es, he, ht⟩ := hq b.alloc [.i32 (UInt32.ofNat bytes.length)]
        (s.note (.asked (UInt32.ofNat bytes.length)))
      refine ⟨es, fun j => ?_, ht⟩
      rw [run_placeForCall run b h₀ hl, run_placeForCall run b h₀ hl, note_on, he j]
      rcases run b.alloc [.i32 (UInt32.ofNat bytes.length)]
        (s.note (.asked (UInt32.ofNat bytes.length))) with ⟨r, s'⟩
      dsimp only
      have ha : accepted (s'.on (j.emitAll es)) b bytes.length r =
          accepted s' b bytes.length r := rfl
      rw [ha]
      cases accepted s' b bytes.length r <;> rfl

theorem release_quiet (hq : run.Quiet) (b : Bridge) (block : Block) (s : Stage g H) :
    s.Quiet (release run b block).run := by
  cases he : block.isEmpty with
  | true =>
    unfold release
    simp only [he, if_true]
    exact .of_same fun _ => rfl
  | false =>
    obtain ⟨es, hs, ht⟩ := hq b.dealloc [.i32 block.ptr, .i32 block.len] (s.note (.returned block))
    refine ⟨es, fun j => ?_, ht⟩
    rw [run_release run b he, run_release run b he, note_on, hs j]
    rcases run b.dealloc [.i32 block.ptr, .i32 block.len] (s.note (.returned block)) with
      ⟨e | results, s'⟩ <;> rfl

end Buffer

theorem Program.exec_quiet (hq : run.Quiet) (function : String) (p : Program H α) (s : Stage g H) :
    s.Quiet (p.exec run function) := by
  induction p generalizing s with
  | done a => exact .of_same fun _ => rfl
  | fail e => exact .of_same fun _ => rfl
  | panic m => exact .of_same fun _ => rfl
  | remember change next ih =>
    exact ih _ { s with world := { s.world with memory := change s.world.memory } }
  | exportName next ih => exact .congr (fun _ => rfl) (ih s.store.currentFunction s)
  | memorySize next ih =>
    let size : Nat := (s.store.bridge.map fun b : Bridge => s.memorySize b.memory).getD 0
    exact .congr (fun _ => rfl) (ih size s)
  | read ptr len next ih =>
    cases hb : s.store.bridge with
    | none =>
      refine .congr (fun j => ?_) (ih (.error (noBridge function)) s)
      rw [exec_read, show (s.on j).store.bridge = none from hb]
    | some b =>
      refine .congr (fun j => ?_) (ih (s.read b.memory ptr len) s)
      rw [exec_read, show (s.on j).store.bridge = some b from hb]
      rfl
  | write bytes next ih =>
    cases hb : s.store.bridge with
    | none =>
      refine .congr (fun j => ?_) (ih (.error (noBridge function)) s)
      rw [exec_write, show (s.on j).store.bridge = none from hb]
    | some b =>
      refine .congr (fun j => ?_)
        ((Buffer.placeForCall_quiet hq b bytes s).followed
          (k := fun r s => (next r).exec run function s) (ih _ _))
      rw [exec_write, show (s.on j).store.bridge = some b from hb]
      rfl
  | callBack target next ih =>
    exact (ih (.reentrancy target) (s.log (.reentryRejected function target s.store.phase))).logged

namespace ImportCall

theorem guarded_quiet (hq : run.Quiet) (function : String) (p : Program H α) (s : Stage g H) :
    s.Quiet (guarded run function p).run := by
  obtain ⟨es, he, ht⟩ := p.exec_quiet hq function s
  rcases hr : p.exec run function s with ⟨(e | payload) | a, s'⟩
  · refine ⟨es, fun j => ?_, ht⟩
    rw [run_guarded, run_guarded, he j, hr]
  · refine ⟨es ++ [.functionPanicked function payload.message], fun j => ?_, by simp [ht]; rfl⟩
    rw [run_guarded, run_guarded, he j, hr, Log.Journal.emitAll_append]
    rfl
  · refine ⟨es, fun j => ?_, ht⟩
    rw [run_guarded, run_guarded, he j, hr]

theorem serve_quiet (hq : run.Quiet) (f : HostFunction H) (body : Bytes → Program H Bytes)
    (input : Bytes) (s : Stage g H) : s.Quiet (serve run f body input).run := by
  obtain ⟨es, he, ht⟩ := guarded_quiet hq f.name (body input) s
  refine ⟨es, fun j => ?_, ht⟩
  rw [run_serve, run_serve, he j]
  rcases (guarded run f.name (body input)).run s with ⟨e | output, s'⟩ <;> rfl

theorem function_quiet (hq : run.Quiet) (f : HostFunction H) (args : List Value)
    (s : Stage g H) : s.Quiet (function run f args).run := by
  cases hc : s.store.call with
  | none =>
    exact .of_same fun j => by
      rw [run_function_outside run f args hc, run_function_outside run f args (s := s.on j) hc]
  | some c =>
    have hsome (j : Log.Journal) : (s.on j).store.call.isSome := by
      rw [show (s.on j).store.call = some c from hc]
      rfl
    cases hf : f.callable with
    | raw body =>
      exact .congr (fun j => run_function_raw run f args (hsome j) hf)
        (guarded_quiet hq f.name (body args) (invoked f s)).logged
    | bytes body =>
      by_cases h : ∃ b ptr len, s.store.bridge = some b ∧ args = [.i32 ptr, .i32 len]
      · obtain ⟨b, ptr, len, hb, rfl⟩ := h
        have hr : (invoked f s).Quiet (do
            let input ← MonadExcept.ofExcept (s.read b.memory ptr len)
            let output ← serve run f body input
            let block ← Buffer.placeForCall run b output
            return [Value.i64 block.pack] : Task g H _).run :=
          Task.quiet_bind (Task.quiet_ofExcept _ _) fun input s₁ _ =>
            Task.quiet_bind (serve_quiet hq f body input s₁) fun output s₂ _ =>
              Task.quiet_bind (Buffer.placeForCall_quiet hq b output s₂) fun _ _ _ =>
                .of_same fun _ => rfl
        exact .congr (fun j => run_function_bytes run f (hsome j) hf (s := s.on j) hb ptr len)
          hr.logged
      · refine ⟨[.functionInvoked f.qualifiedName s.store.currentFunction], fun j => ?_, rfl⟩
        rw [run_function_unfit run f args (s := s.on j) (hsome j) hf h,
          run_function_unfit run f args (s := s) (hsome s.world.journal) hf h]
        rfl

theorem readFor_quiet (sv : Service) (caller : Caller) (ptr len : UInt32) (s : Stage g H) :
    s.Quiet (readFor sv caller ptr len).run := by
  refine Task.quiet_get (fun _ => rfl) ?_
  cases memory? caller s with
  | none => exact .of_same fun _ => rfl
  | some memory =>
    dsimp only
    cases s.slice? memory ptr.toUInt64 (ptr.toUInt64 + len.toUInt64) <;>
      exact .of_same fun _ => rfl

theorem readKey_quiet (sv : Service) (caller : Caller) (ptr len : UInt32) (s : Stage g H) :
    s.Quiet (readKey sv caller ptr len).run := by
  refine Task.quiet_bind (readFor_quiet sv caller ptr len s) fun bytes s' _ => ?_
  cases Text.Utf8.decode bytes <;> exact .of_same fun _ => rfl

theorem service_quiet (hq : run.Quiet) (sv : Service) (caller : Caller) (args : List Value)
    (s : Stage g H) : s.Quiet (service run sv caller args).run := by
  unfold service
  split
  · -- A message.
    rename_i ptr len
    refine Task.quiet_get (fun _ => rfl) ?_
    cases s.store.call with
    | none => exact .of_same fun _ => rfl
    | some c =>
      refine Task.quiet_bind (readFor_quiet _ caller ptr len s) fun bytes s' _ => ?_
      exact ⟨[.guestError s'.store.currentFunction (Text.Utf8.decodeLossy bytes)],
        fun _ => rfl, rfl⟩
  · -- The value of a variable.
    rename_i ptr len
    refine Task.quiet_get (fun _ => rfl) ?_
    cases s.store.call with
    | none => exact .of_same fun _ => rfl
    | some c =>
      refine Task.quiet_bind (readKey_quiet _ caller ptr len s) fun key s' _ => ?_
      refine Task.quiet_get (fun _ => rfl) ?_
      dsimp only
      refine Task.quiet_bind (.of_same fun _ => rfl) fun _ s₁ _ => ?_
      cases s'.store.vars.get? key with
      | none => exact .of_same fun _ => rfl
      | some value =>
        cases s'.store.bridge with
        | none => exact .of_same fun _ => rfl
        | some b =>
          exact Task.quiet_bind (Buffer.placeForCall_quiet hq b value s₁) fun _ _ _ =>
            .of_same fun _ => rfl
  · -- A variable is set.
    rename_i keyPtr keyLen ptr len
    refine Task.quiet_bind (readKey_quiet _ caller keyPtr keyLen s) fun key s₁ _ => ?_
    refine Task.quiet_bind (readFor_quiet _ caller ptr len s₁) fun value s₂ _ => ?_
    refine Task.quiet_get (fun _ => rfl) ?_
    refine Task.quiet_bind (.of_same fun _ => rfl) fun _ s₃ _ => ?_
    refine Task.quiet_bind (Task.quiet_ofExcept _ s₃) fun vars s₄ _ => ?_
    exact ⟨[.variableSet key value.length vars.bytes], fun _ => rfl, rfl⟩
  · -- A line of the log.
    rename_i level ptr len
    refine Task.quiet_bind (readFor_quiet _ caller ptr len s) fun bytes s' _ => ?_
    exact ⟨[.guestMessage level s'.store.currentFunction (Text.Utf8.decodeLossy bytes)],
      fun _ => rfl, rfl⟩
  · exact .of_same fun _ => rfl

theorem system_quiet (c : SystemCall) (caller : Caller) (args : List Value) (s : Stage g H) :
    s.Quiet (system c caller args) := by
  refine .of_same fun j => ?_
  rw [run_system, run_system]
  have hm : memory? caller (s.on j) = memory? caller s := rfl
  rw [hm]
  cases memory? caller s <;> rfl

theorem raising_quiet {t : Task g H (List Value)} {s : Stage g H} (ht : s.Quiet t.run)
    (signature : Signature) (caller : Caller) : s.Quiet (raising signature caller t) := by
  obtain ⟨es, he, hq⟩ := ht
  refine ⟨es, fun j => ?_, hq⟩
  rw [run_raising, run_raising, he j]
  rcases t.run s with ⟨e | results, s'⟩ <;> rfl

theorem provider_quiet (hq : run.Quiet) (p : Provider H) (caller : Caller) (args : List Value)
    (s : Stage g H) : s.Quiet (provider run p caller args) := by
  cases p with
  | function f => exact raising_quiet (function_quiet hq f args s) f.signature caller
  | service sv => exact raising_quiet (service_quiet hq sv caller args s) sv.signature caller
  | unresolved ns name signature => exact .of_same fun _ => rfl
  | system c => exact system_quiet c caller args s
  | noSystem name signature => exact .of_same fun _ => rfl

end ImportCall

namespace Stage

theorem askMemory_quiet (s : Stage g H) (current desired : Nat) (maximum : Option Nat) :
    s.Quiet fun s => askMemory s current desired maximum := by
  let limit := (s.store.limit.askMemory desired maximum).2
  cases ha : (s.store.limit.askMemory desired maximum).1 with
  | true =>
    refine .of_same fun j => ?_
    unfold askMemory
    dsimp only
    rw [show (s.on j).store = s.store from rfl, ha]
    rfl
  | false =>
    refine ⟨[.growthRefused current desired limit.maxMemoryBytes], fun j => ?_, rfl⟩
    unfold askMemory
    dsimp only
    rw [show (s.on j).store = s.store from rfl, ha]
    rfl

def goOn {ε γ : Type} (k : β → Stage g H → Except ε γ × Stage g H) :
    Except ε β → Stage g H → Except ε γ × Stage g H
  | .ok b, s => k b s
  | .error e, s => (.error e, s)

theorem goOn_quiet {ε γ : Type} {k : β → Stage g H → Except ε γ × Stage g H}
    (hk : ∀ b (s : Stage g H), s.Quiet (k b)) (r : Except ε β) (s : Stage g H) :
    s.Quiet (goOn k r) := by
  cases r with
  | ok b => exact hk b s
  | error e => exact .of_same fun _ => rfl

/-- Guest code that calls an imported function. -/
theorem execute_import {n index depth : Nat} {code code' : g.Code} {s : Stage g H} {p : Provider H}
    {args : List Value} {caller : Caller} {t : g.State}
    (hstep : g.step s.module code s.guest = .call index args caller depth code' t)
    (hp : s.providers[index]? = some p) :
    execute (n + 1) code s =
      goOn (fun results => execute n (g.resume results code'))
        (ImportCall.provider (runner s.module n depth) p caller args { s with guest := t }).1
        (ImportCall.provider (runner s.module n depth) p caller args { s with guest := t }).2 := by
  rw [execute_succ, hstep]
  dsimp only
  rw [hp]
  dsimp only
  split <;> rename_i hr <;> rw [hr] <;> rfl

/-- Guest code tells of no change of phase. -/
theorem execute_quiet (n : Nat) (code : g.Code) (s : Stage g H) : s.Quiet (execute n code) := by
  induction n generalizing code s with
  | zero => exact .of_same fun _ => rfl
  | succ n ih =>
    -- The guest does not see the log, so it takes the same step before any.
    have hs (j : Log.Journal) : g.step (s.on j).module code (s.on j).guest =
        g.step s.module code s.guest := rfl
    cases hstep : g.step s.module code s.guest with
    | next cost code t =>
      let u (s : Stage g H) : Stage g H := { s with guest := t }.updateStore fun v => v.spend cost
      refine .congr (fun j => ?_) (.after (u := u) (fun _ => rfl) (ih code (u s)))
      rw [execute_succ, hs j, hstep]
    | check elapsed code t =>
      let u (s : Stage g H) : Stage g H :=
        { s with guest := t }.updateStore fun v => v.advance elapsed
      cases hk : s.store.stop? elapsed with
      | some h =>
        refine .of_same fun j => ?_
        rw [execute_succ, execute_succ, hs j, hstep]
        dsimp only
        rw [show (s.on j).store.stop? elapsed = some h from hk, hk]
        rfl
      | none =>
        refine .congr (fun j => ?_) (.after (u := u) (fun _ => rfl) (ih code (u s)))
        rw [execute_succ, hs j, hstep]
        dsimp only
        rw [show (s.on j).store.stop? elapsed = none from hk]
    | growMemory current desired maximum code t =>
      let u (s : Stage g H) : Stage g H := { s with guest := t }
      refine .congr (fun j => ?_) (.after (u := u) (fun _ => rfl)
        ((askMemory_quiet (u s) current desired maximum).followed
          (k := fun allowed => execute n (g.answer allowed code)) (ih _ _)))
      rw [execute_succ, hs j, hstep]
    | growTable desired maximum code t =>
      let u (s : Stage g H) : Stage g H := { s with guest := t }
      refine .congr (fun j => ?_) (.after (u := u) (fun _ => rfl)
        (ih (g.answer (GrowthLimit.askTable desired maximum) code) (u s)))
      rw [execute_succ, hs j, hstep]
    | call index args caller depth code t =>
      let u (s : Stage g H) : Stage g H := { s with guest := t }
      cases hi : s.providers[index]? with
      | none =>
        refine .of_same fun j => ?_
        rw [execute_succ, execute_succ, hs j, hstep]
        dsimp only
        rw [show (s.on j).providers[index]? = none from hi, hi]
        rfl
      | some p =>
        have hp : (u s).Quiet (ImportCall.provider (runner s.module n depth) p caller args) :=
          ImportCall.provider_quiet (fun _ _ _ => ih _ _) p caller args (u s)
        refine .congr (fun j => execute_import ((hs j).trans hstep) hi)
          (.after (u := u) (fun _ => rfl) (hp.followed (goOn_quiet (fun _ s' => ih _ s') _ _)))
    | finished results t =>
      refine .of_same fun j => ?_
      rw [execute_succ, execute_succ, hs j, hstep]
      rfl
    | trapped cause t =>
      refine .of_same fun j => ?_
      rw [execute_succ, execute_succ, hs j, hstep]
      rfl

theorem enter_quiet : Runner.Quiet (enter : Runner g H) := fun function args s =>
  .congr (fun _ => rfl) (execute_quiet g.stepLimit (g.enter s.module 0 function args) s)

end Stage

end PluginHost
