import PluginHost.Proofs.Cleanup
/-!
What time it is. A stage can be put off: it is later, and the deadline is as far away as it was.
Guest code that cannot ask the system for the time does not notice. Whatever runs in such a stage
comes to the same and is over as much later.
-/
namespace PluginHost
variable {g : Guest} {H α β : Type} {d : Nat}

namespace Store

def later (t : Store) (d : Nat) : Store :=
  { t with clock := t.clock + d, deadline := t.deadline.map (· + d) }

theorem later_zero (t : Store) : t.later 0 = t := by
  have hd : t.deadline.map (· + 0) = t.deadline := Option.map_id'
  unfold later
  rw [hd]
  rfl

theorem armed_later (t : Store) : (t.later d).armed = t.armed.later d := by
  unfold armed later
  cases t.timeoutMillis with
  | none => rfl
  | some millis => simp only [Option.map_some, Nat.add_right_comm]

def beginning (t : Store) (name : String) : Store :=
  { t.refuelled.armed with
    call := some ⟨name, []⟩
    guestError := none
    limit := t.limit.reset }

theorem beginning_later (t : Store) (name : String) :
    (t.later d).beginning name = (t.beginning name).later d := by
  have ha : (t.later d).refuelled.armed = t.refuelled.armed.later d := armed_later t.refuelled
  unfold beginning
  rw [ha]
  rfl

theorem advance_later (t : Store) (millis : Nat) :
    (t.later d).advance millis = (t.advance millis).later d := by
  unfold advance later
  rw [Nat.add_right_comm]

theorem track_later (t : Store) (b : Block) : (t.later d).track b = (t.track b).later d := by
  unfold track
  split <;> rfl

theorem isLate_later (t : Store) : (t.later d).isLate = t.isLate := by
  unfold isLate later
  cases t.deadline with
  | none => rfl
  | some deadline => simp

theorem stop?_later (t : Store) (elapsed : Nat) : (t.later d).stop? elapsed = t.stop? elapsed := by
  unfold stop?
  rw [advance_later, isLate_later]
  rfl

end Store

/-- The system call that shows the time is the only one that depends on it. -/
theorem SystemCall.run_timeless {c : SystemCall} (hc : c ≠ .clockTimeGet) (o : SystemOptions)
    (clock clock' : Nat) (args : List Nat) : c.run o clock args = c.run o clock' args := by
  unfold run
  split <;> first | rfl | exact absurd rfl hc

namespace Stage

def later (s : Stage g H) (d : Nat) : Stage g H := s.updateStore fun t => t.later d

theorem later_zero (s : Stage g H) : s.later 0 = s := by
  have h : s.later 0 = s.updateStore fun _ => s.store := by
    rw [← Store.later_zero s.store]
    rfl
  exact h

theorem bridge_later (s : Stage g H) : (s.later d).store.bridge = s.store.bridge := rfl

theorem note_later (s : Stage g H) (x : Deed) : (s.later d).note x = (s.note x).later d := rfl

theorem log_later (s : Stage g H) (e : Log.Event) : (s.later d).log e = (s.log e).later d := rfl

theorem entering_later (s : Stage g H) (function : Nat) (args : List Value) :
    (s.later d).entering function args = (s.entering function args).later d := rfl

theorem placed_later (s : Stage g H) (b : Bridge) (block : Block) (bytes : Bytes) :
    (s.later d).placed b block bytes = (s.placed b block bytes).later d := by
  change ((s.note (.given block)).write b.memory block.ptr bytes).updateStore
    (fun _ => (s.store.later d).track block) = _
  rw [Store.track_later]
  rfl

theorem advanced_later (s : Stage g H) (millis : Nat) :
    ((s.later d).updateStore fun t => t.advance millis) =
      (s.updateStore fun t => t.advance millis).later d := by
  change s.updateStore (fun _ => (s.store.later d).advance millis) = _
  rw [Store.advance_later]
  rfl

def Timeless (s : Stage g H) : Prop := ∀ p ∈ s.providers, p ≠ .system .clockTimeGet

theorem timeless_of_steady {s s' : Stage g H} (h : s'.steady = s.steady) (hs : s.Timeless) :
    s'.Timeless := by
  have hp : s'.providers = s.providers := congrArg Fixed.providers h
  unfold Timeless
  rwa [hp]

theorem Ticks.timeless {s s' : Stage g H} (h : Ticks s s') (hs : s.Timeless) : s'.Timeless :=
  timeless_of_steady (steady_of_fixed h.fixed_eq) hs

def Postpones (s : Stage g H) (d : Nat) (f : Stage g H → α × Stage g H) : Prop :=
  f (s.later d) = ((f s).1, (f s).2.later d)

end Stage

open Stage

def Runner.Postponing (run : Runner g H) (d : Nat) : Prop :=
  ∀ function args (s : Stage g H), s.Timeless → s.Postpones d (run function args)

namespace Task

theorem postpones_bind {t : Task g H α} {f : α → Task g H β} {s : Stage g H}
    (ht : s.Postpones d t.run)
    (hf : ∀ a s', t.run s = (.ok a, s') → s'.Postpones d (f a).run) :
    s.Postpones d (t >>= f).run := by
  unfold Postpones at ht ⊢
  rw [run_bind, run_bind, ht]
  rcases h : t.run s with ⟨e | a, s'⟩
  · rfl
  · exact hf a s' h

theorem postpones_get {f : Stage g H → Task g H β} {s : Stage g H} (hl : f (s.later d) = f s)
    (hf : s.Postpones d (f s).run) : s.Postpones d (get >>= f).run := by
  unfold Postpones at hf ⊢
  rw [run_bind_ok (run_get _), run_bind_ok (run_get _), hl, hf]

theorem postpones_ofExcept (r : Except Failure α) (s : Stage g H) :
    s.Postpones d (MonadExcept.ofExcept r : Task g H α).run := by
  unfold Postpones
  rw [run_ofExcept, run_ofExcept]

end Task

variable {run : Runner g H}

namespace Buffer

theorem placeForCall_postpones (hp : run.Postponing d) {s : Stage g H} (hs : s.Timeless)
    (b : Bridge) (bytes : Bytes) : s.Postpones d (placeForCall run b bytes).run := by
  unfold Postpones
  by_cases h₀ : bytes = []
  · rw [h₀, run_placeForCall_nil, run_placeForCall_nil]
  · rcases Nat.lt_or_ge maxLength bytes.length with hl | hl
    · rw [run_placeForCall_long run b hl, run_placeForCall_long run b hl]
    · rw [run_placeForCall run b h₀ hl, run_placeForCall run b h₀ hl]
      have hr := hp b.alloc [.i32 (UInt32.ofNat bytes.length)]
        (s.note (.asked (UInt32.ofNat bytes.length))) hs
      rw [note_later, hr]
      rcases run b.alloc [.i32 (UInt32.ofNat bytes.length)]
        (s.note (.asked (UInt32.ofNat bytes.length))) with ⟨r, s'⟩
      dsimp only
      have ha : accepted (s'.later d) b bytes.length r = accepted s' b bytes.length r := rfl
      rw [ha]
      cases accepted s' b bytes.length r with
      | error e => rfl
      | ok block => simp only [placed_later]

theorem release_postpones (hp : run.Postponing d) {s : Stage g H} (hs : s.Timeless)
    (b : Bridge) (block : Block) : s.Postpones d (release run b block).run := by
  unfold Postpones
  cases he : block.isEmpty with
  | true =>
    unfold release
    simp only [he, if_true, Task.run_pure]
  | false =>
    rw [run_release run b he, run_release run b he]
    have hr := hp b.dealloc [.i32 block.ptr, .i32 block.len] (s.note (.returned block)) hs
    rw [note_later, hr]
    rcases run b.dealloc [.i32 block.ptr, .i32 block.len] (s.note (.returned block)) with
      ⟨e | results, s'⟩ <;> rfl

end Buffer

theorem Program.exec_postpones (hrun : run.Ticking) (hp : run.Postponing d) (function : String)
    (p : Program H α) {s : Stage g H} (hs : s.Timeless) (hc : s.store.call.isSome) :
    s.Postpones d (p.exec run function) := by
  induction p generalizing s with
  | done a => rfl
  | fail e => rfl
  | panic m => rfl
  | remember change next ih =>
    let s' : Stage g H := { s with world := { s.world with memory := change s.world.memory } }
    have hs' : s'.Timeless := hs
    exact ih _ hs' hc
  | exportName next ih => exact ih _ hs hc
  | memorySize next ih => exact ih _ hs hc
  | read ptr len next ih =>
    unfold Postpones
    rw [exec_read, exec_read, bridge_later]
    cases s.store.bridge with
    | none => exact ih _ hs hc
    | some b => exact ih _ hs hc
  | write bytes next ih =>
    unfold Postpones
    rw [exec_write, exec_write, bridge_later]
    cases hb : s.store.bridge with
    | none => exact ih _ hs hc
    | some b =>
      have ht : Ticks s ((Buffer.placeForCall run b bytes).run s).2 :=
        Buffer.placeForCall_ticks hrun hb hc bytes
      have hw := Buffer.placeForCall_postpones hp hs b bytes
      dsimp only
      rw [hw]
      exact ih _ (ht.timeless hs) (ht.call_isSome hc)
  | callBack target next ih =>
    have hs' : (s.log (.reentryRejected function target s.store.phase)).Timeless := hs
    exact ih _ hs' hc

namespace ImportCall

theorem guarded_postpones (hrun : run.Ticking) (hp : run.Postponing d) (function : String)
    (p : Program H α) {s : Stage g H} (hs : s.Timeless) (hc : s.store.call.isSome) :
    s.Postpones d (guarded run function p).run := by
  have he := p.exec_postpones hrun hp function hs hc
  unfold Postpones at he ⊢
  rw [run_guarded, run_guarded, he]
  rcases p.exec run function s with ⟨(e | payload) | a, s'⟩ <;> rfl

theorem serve_postpones (hrun : run.Ticking) (hp : run.Postponing d) (f : HostFunction H)
    (body : Bytes → Program H Bytes) (input : Bytes) {s : Stage g H} (hs : s.Timeless)
    (hc : s.store.call.isSome) : s.Postpones d (serve run f body input).run := by
  have hg := guarded_postpones hrun hp f.name (body input) hs hc
  unfold Postpones at hg ⊢
  rw [run_serve, run_serve, hg]
  rcases (guarded run f.name (body input)).run s with ⟨e | output, s'⟩ <;> rfl

theorem function_postpones (hrun : run.Ticking) (hp : run.Postponing d) (f : HostFunction H)
    (args : List Value) {s : Stage g H} (hs : s.Timeless) :
    s.Postpones d (function run f args).run := by
  cases hc : s.store.call with
  | none =>
    unfold Postpones
    rw [run_function_outside run f args hc, run_function_outside run f args (s := s.later d) hc]
  | some c =>
    have hsome : s.store.call.isSome := by simp [hc]
    have hs' : (invoked f s).Timeless := hs
    cases hf : f.callable with
    | raw body =>
      have hg := guarded_postpones hrun hp f.name (body args) hs' hsome
      unfold Postpones
      rw [run_function_raw run f args hsome hf,
        run_function_raw run f args (s := s.later d) hsome hf]
      exact hg
    | bytes body =>
      by_cases h : ∃ b ptr len, s.store.bridge = some b ∧ args = [.i32 ptr, .i32 len]
      · obtain ⟨b, ptr, len, hb, rfl⟩ := h
        unfold Postpones
        rw [run_function_bytes run f hsome hf hb,
          run_function_bytes run f (s := s.later d) hsome hf hb]
        refine Task.postpones_bind (s := invoked f s)
          (Task.postpones_ofExcept (s.read b.memory ptr len) _) fun input s₁ h₁ => ?_
        obtain rfl : invoked f s = s₁ := by simpa using congrArg Prod.snd h₁
        have ht : Ticks (invoked f s) ((serve run f body input).run (invoked f s)).2 :=
          serve_keeps (hrun.kept _) f body input .refl hsome
        refine Task.postpones_bind (serve_postpones hrun hp f body input hs' hsome)
          fun output s₂ h₂ => ?_
        rw [h₂] at ht
        exact Task.postpones_bind
          (Buffer.placeForCall_postpones hp (ht.timeless hs') b output) fun _ _ _ => rfl
      · unfold Postpones
        rw [run_function_unfit run f args hsome hf h,
          run_function_unfit run f args (s := s.later d) hsome hf h]
        rfl

theorem readFor_postpones (sv : Service) (caller : Caller) (ptr len : UInt32) (s : Stage g H) :
    s.Postpones d (readFor sv caller ptr len).run := by
  refine Task.postpones_get rfl ?_
  cases memory? caller s with
  | none => rfl
  | some memory =>
    dsimp only
    cases s.slice? memory ptr.toUInt64 (ptr.toUInt64 + len.toUInt64) <;> rfl

theorem readKey_postpones (sv : Service) (caller : Caller) (ptr len : UInt32) (s : Stage g H) :
    s.Postpones d (readKey sv caller ptr len).run := by
  refine Task.postpones_bind (readFor_postpones sv caller ptr len s) fun bytes s' _ => ?_
  cases Text.Utf8.decode bytes <;> rfl

theorem service_postpones (hp : run.Postponing d) (sv : Service) (caller : Caller)
    (args : List Value) {s : Stage g H} (hs : s.Timeless) :
    s.Postpones d (service run sv caller args).run := by
  unfold service
  split
  · -- A message.
    rename_i ptr len
    refine Task.postpones_get rfl ?_
    cases s.store.call with
    | none => rfl
    | some c =>
      exact Task.postpones_bind (readFor_postpones _ caller ptr len s) fun bytes s' _ => rfl
  · -- The value of a variable.
    rename_i ptr len
    refine Task.postpones_get rfl ?_
    cases s.store.call with
    | none => rfl
    | some c =>
      refine Task.postpones_bind (readKey_postpones _ caller ptr len s) fun key s' hk => ?_
      obtain rfl : s = s' := by
        simpa [hk] using (readKey_stage .getVariable caller ptr len s).symm
      refine Task.postpones_get rfl ?_
      dsimp only
      refine Task.postpones_bind rfl fun _ s₁ hn => ?_
      obtain rfl : s.note (.lookedUp key (s.store.vars.get? key)) = s₁ := congrArg Prod.snd hn
      cases s.store.vars.get? key with
      | none => rfl
      | some value =>
        cases s.store.bridge with
        | none => rfl
        | some b =>
          have hn : (s.note (.lookedUp key (some value))).Timeless := hs
          exact Task.postpones_bind (Buffer.placeForCall_postpones hp hn b value) fun _ _ _ => rfl
  · -- A variable is set.
    rename_i keyPtr keyLen ptr len
    refine Task.postpones_bind (readKey_postpones _ caller keyPtr keyLen s) fun key s₁ _ => ?_
    refine Task.postpones_bind (readFor_postpones _ caller ptr len s₁) fun value s₂ _ => ?_
    refine Task.postpones_get rfl ?_
    refine Task.postpones_bind rfl fun _ s₃ _ => ?_
    exact Task.postpones_bind (Task.postpones_ofExcept _ s₃) fun vars s₄ _ => rfl
  · -- A line of the log.
    rename_i level ptr len
    exact Task.postpones_bind (readFor_postpones _ caller ptr len s) fun bytes s' _ => rfl
  · rfl

theorem system_postpones {c : SystemCall} (hc : c ≠ .clockTimeGet) (caller : Caller)
    (args : List Value) (s : Stage g H) : s.Postpones d (system c caller args) := by
  unfold Postpones
  rw [run_system, run_system]
  have hm : memory? caller (s.later d) = memory? caller s := rfl
  rw [hm]
  cases memory? caller s with
  | none => rfl
  | some memory =>
    have hv : c.run (s.later d).store.system ((s.later d).store.clock * 1000000) =
        c.run s.store.system (s.store.clock * 1000000) :=
      funext fun args => SystemCall.run_timeless hc s.store.system _ _ args
    dsimp only
    rw [hv]
    rfl

theorem raising_postpones {t : Task g H (List Value)} {s : Stage g H} (ht : s.Postpones d t.run)
    (signature : Signature) (caller : Caller) : s.Postpones d (raising signature caller t) := by
  unfold Postpones at ht ⊢
  rw [run_raising, run_raising, ht]
  rcases t.run s with ⟨e | results, s'⟩ <;> rfl

theorem provider_postpones (hrun : run.Ticking) (hp : run.Postponing d) {p : Provider H}
    {s : Stage g H} (hs : s.Timeless) (hm : p ∈ s.providers) (caller : Caller)
    (args : List Value) : s.Postpones d (provider run p caller args) := by
  cases p with
  | function f => exact raising_postpones (function_postpones hrun hp f args hs) f.signature caller
  | service sv =>
    exact raising_postpones (service_postpones hp sv caller args hs) sv.signature caller
  | unresolved ns name signature => rfl
  | system c => exact system_postpones (fun hc => hs _ hm (congrArg _ hc)) caller args s
  | noSystem name signature => rfl

end ImportCall

namespace Stage

theorem askMemory_later (s : Stage g H) (current desired : Nat) (maximum : Option Nat) :
    askMemory (s.later d) current desired maximum =
      ((askMemory s current desired maximum).1,
        (askMemory s current desired maximum).2.later d) := by
  unfold askMemory
  dsimp only
  have hl : (s.later d).store.limit = s.store.limit := rfl
  rw [hl]
  split <;> rfl

theorem withGuest_later (s : Stage g H) (t : g.State) :
    (⟨⟨(s.later d).module, (s.later d).providers, t, (s.later d).store⟩, (s.later d).world,
        (s.later d).deeds⟩ : Stage g H) =
      (⟨⟨s.module, s.providers, t, s.store⟩, s.world, s.deeds⟩ : Stage g H).later d := rfl

/-- Guest code does not notice when it runs. -/
theorem execute_postpones (n : Nat) (code : g.Code) {s : Stage g H} (hs : s.Timeless) :
    s.Postpones d (execute n code) := by
  induction n generalizing code s with
  | zero => rfl
  | succ n ih =>
    -- Guest code sees the time through imported functions alone.
    have hstep : g.step (s.later d).module code (s.later d).guest = g.step s.module code s.guest :=
      rfl
    unfold Postpones
    rw [execute_succ, execute_succ, hstep]
    cases g.step s.module code s.guest with
    | next cost code t =>
      let s' := ({ s with guest := t } : Stage g H).updateStore fun u => u.spend cost
      exact ih code (s := s') hs
    | check elapsed code t =>
      let s' := ({ s with guest := t } : Stage g H).updateStore fun u => u.advance elapsed
      have hk : (s.later d).store.stop? elapsed = s.store.stop? elapsed :=
        Store.stop?_later s.store elapsed
      dsimp only
      rw [withGuest_later, advanced_later, hk]
      cases s.store.stop? elapsed with
      | some h => rfl
      | none => exact ih code (s := s') hs
    | growMemory current desired maximum code t =>
      let s' : Stage g H := { s with guest := t }
      have ht : (askMemory s' current desired maximum).2.Timeless :=
        (askMemory_ticks s' current desired maximum).timeless hs
      dsimp only
      rw [withGuest_later, askMemory_later]
      exact ih _ ht
    | growTable desired maximum code t =>
      let s' : Stage g H := { s with guest := t }
      exact ih _ (s := s') hs
    | call index args caller depth code t =>
      have hp : (s.later d).providers = s.providers := rfl
      dsimp only
      rw [withGuest_later, hp]
      cases hi : s.providers[index]? with
      | none => rfl
      | some p =>
        let s' : Stage g H := { s with guest := t }
        let nested : Runner g H := runner s.module n depth
        have hrun : nested.Ticking := runner_ticks s.module n depth
        have hpost : nested.Postponing d := fun _ _ _ h => ih _ h
        have ht : Ticks s' (ImportCall.provider nested p caller args s').2 :=
          ImportCall.provider_ticks hrun p caller args s'
        have hq : s'.Postpones d (ImportCall.provider nested p caller args) :=
          ImportCall.provider_postpones (s := s') hrun hpost hs (Array.mem_of_getElem? hi)
            caller args
        have hm : (s.later d).module = s.module := rfl
        unfold Postpones at hq
        rcases hr : ImportCall.provider nested p caller args s' with ⟨r, s₁⟩
        rw [hr] at hq ht
        dsimp only
        rw [hm, hq, hr]
        cases r with
        | error e => rfl
        | ok results => exact ih _ (ht.timeless hs)
    | finished results t => rfl
    | trapped cause t => rfl

theorem enter_postpones : Runner.Postponing (enter : Runner g H) d :=
  fun _ _ _ hs => execute_postpones _ _ hs

theorem adopted_later (s : Stage g H) (b : Block) :
    ((s.later d).updateStore fun t => adopt t b) = (s.updateStore fun t => adopt t b).later d := by
  have ha : adopt (s.store.later d) b = (adopt s.store b).later d := by
    have ho : (s.store.later d).owns b = s.store.owns b := rfl
    unfold adopt
    rw [ho, Store.track_later]
    split <;> rfl
  change s.updateStore (fun _ => adopt (s.store.later d) b) = _
  rw [ha]
  rfl

theorem exchange_postpones {s : Stage g H} (hs : s.Timeless) {b : Bridge}
    (hb : s.store.bridge = some b) (hc : s.store.call.isSome) (name : String) (function : Nat)
    (input : Bytes) : s.Postpones d (exchange b name function input).run := by
  have hp := Buffer.placeForCall_postpones (d := d) enter_postpones hs b input
  have ht : Ticks s ((Buffer.placeForCall enter b input).run s).2 :=
    Buffer.placeForCall_ticks enter_ticks hb hc input
  unfold Postpones
  rw [run_exchange, run_exchange, hp]
  rcases hr : (Buffer.placeForCall enter b input).run s with ⟨e | block, s₁⟩
  · rfl
  rw [hr] at ht
  have hs₁ : (s₁.entering function [.i32 block.ptr, .i32 block.len]).Timeless := ht.timeless hs
  have he := enter_postpones (d := d) function [.i32 block.ptr, .i32 block.len] _ hs₁
  dsimp only
  rw [entering_later, he]
  rcases (enter function [.i32 block.ptr, .i32 block.len] : Action g H Ending)
    (s₁.entering function [.i32 block.ptr, .i32 block.len]) with ⟨r, s₂⟩
  dsimp only
  cases packed r with
  | error h => rfl
  | ok word =>
    have ho : (s₂.later d).output b word = s₂.output b word := rfl
    dsimp only
    rw [ho, adopted_later]
    cases s₂.output b word <;> rfl

theorem exchangeValues_postpones {s : Stage g H} (hs : s.Timeless) (name : String)
    (function : Nat) (args : List Value) :
    s.Postpones d (exchangeValues name function args).run := by
  have he := enter_postpones (d := d) function args (s.entering function args) hs
  unfold Postpones
  rw [run_exchangeValues, run_exchangeValues, entering_later, he]
  rcases (enter function args : Action g H Ending) (s.entering function args) with
    ⟨h | results, s₁⟩ <;> rfl

theorem releaseAll_postpones {s : Stage g H} (hs : s.Timeless) (b : Bridge) (name : String)
    (blocks : List Block) : s.Postpones d (releaseAll b name blocks) := by
  induction blocks generalizing s with
  | nil => rfl
  | cons block blocks ih =>
    have hp := Buffer.release_postpones (d := d) enter_postpones hs b block
    have hr := release_steady b block s
    unfold Postpones
    rw [releaseAll_cons, releaseAll_cons, hp]
    rcases h : (Buffer.release enter b block).run s with ⟨e | u, s'⟩ <;> rw [h] at hr
    · have hl : (s'.log (.releaseFailed name block e)).Timeless := timeless_of_steady hr hs
      dsimp only
      rw [log_later, ih hl]
    · exact ih (timeless_of_steady hr hs)

theorem releasing_postpones {s : Stage g H} (hs : s.Timeless) (b : Option Bridge) (name : String)
    (blocks : List Block) : s.Postpones d (releasing b name blocks) := by
  cases b with
  | none => rfl
  | some b => exact releaseAll_postpones hs b name blocks

theorem resting_later (s : Stage g H) (r : Except Failure α) :
    (s.later d).resting r = (s.resting r).later d := by
  cases r <;> rfl

theorem ended_later (s : Stage g H) (name : String) (r : Except Failure α)
    (cleanup : Option Failure) :
    (s.later d).ended name r cleanup = (s.ended name r cleanup).later d := by
  cases cleanup <;> rfl

theorem finish_postpones {s : Stage g H} (hs : s.Timeless) (b : Option Bridge) (name : String)
    (r : Except Failure α) : s.Postpones d (finish b name r) := by
  have he : (s.resting r).emptied.Timeless := by cases r <;> exact hs
  have hp := releasing_postpones (d := d) he b name (s.resting r).tracked
  have hn : ((s.resting r).later d).emptied = (s.resting r).emptied.later d := rfl
  have ht : ((s.resting r).later d).tracked = (s.resting r).tracked := rfl
  unfold Postpones
  rw [run_finish, run_finish, resting_later]
  dsimp only
  rw [ht, hn, hp]
  rcases releasing b name (s.resting r).tracked (s.resting r).emptied with ⟨cleanup, s₂⟩
  dsimp only
  rw [ended_later]

theorem begun_later (s : Stage g H) (name : String) :
    (s.later d).begun name = (s.begun name).later d := by
  change (s.updateStore fun t => (t.later d).beginning name).log (.callStarted name) = _
  simp only [updateStore, Store.beginning_later]
  rfl

/-- Whether an accepted call begins now or later, it comes to the same. -/
theorem Accepts.during_postpones {s : Stage g H} {name : String} {t body : Task g H α}
    (h : s.Accepts name t body) (hs : s.Timeless) :
    (s.begun name).Postpones d (during s.store.bridge name body).run := by
  have hbegun : (s.begun name).Timeless := hs
  have hb : (s.begun name).Postpones d body.run := by
    cases h with
    | octets function b input idle found bridge =>
      exact exchange_postpones (s := s.begun name) hbegun bridge rfl name function input
    | values function signature args idle found typed =>
      exact exchangeValues_postpones hbegun name function args
  obtain ⟨A, adopted, hw⟩ := h.worked
  have hend : (body.run (s.begun name)).2.Timeless := timeless_of_steady hw.steady hbegun
  unfold Postpones at hb ⊢
  rw [run_during, run_during, hb]
  rcases hr : body.run (s.begun name) with ⟨r, s₁⟩
  rw [hr] at hend
  exact finish_postpones (s := s₁.silenced) hend _ name _

end Stage

end PluginHost
