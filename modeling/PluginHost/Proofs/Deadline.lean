import PluginHost.Proofs.Success
/-!
What becomes of a deadline that passes while guest code runs for a call with octets. The export can
be at work, or the allocator for the input, or the allocator for octets that an imported function
hands to the guest, and these one inside another. The timeout comes out of the call unless an
allocator was at work after growth had been refused: then it is taken for lack of memory.
-/
namespace PluginHost
variable {g : Guest} {H α : Type}

namespace Stage

def timeout (s : Stage g H) : Failure :=
  .timeout s.store.currentFunction (s.store.timeoutMillis.getD 0)

end Stage

open Stage

namespace ImportCall

/-- An imported function has worked out the octets that it hands to guest code in a fresh buffer:
the result of a function on octets, or the value of a variable. -/
inductive Answers (run : Runner g H) (s : Stage g H) (b : Bridge) (caller : Caller) :
    Provider H → List Value → Bytes → Stage g H → Prop
  | result (f : HostFunction H) (body : Bytes → Program H Bytes) (ptr len : UInt32)
      (input output : Bytes) (s₁ : Stage g H) (calling : s.store.call.isSome)
      (octets : f.callable = .bytes body) (bridge : s.store.bridge = some b)
      (read : s.read b.memory ptr len = .ok input)
      (done : (serve run f body input).run (invoked f s) = (.ok output, s₁)) :
      Answers run s b caller (.function f) [.i32 ptr, .i32 len] output s₁
  | variable (ptr len : UInt32) (key : String) (value : Bytes) (calling : s.store.call.isSome)
      (bridge : s.store.bridge = some b)
      (named : (readKey .getVariable caller ptr len).run s = (.ok key, s))
      (found : s.store.vars.get? key = some value) :
      Answers run s b caller (.service .getVariable) [.i32 ptr, .i32 len] value
        (s.note (.lookedUp key (some value)))

theorem Answers.bridge_eq {run : Runner g H} {s s₁ : Stage g H} {b : Bridge} {caller : Caller}
    {p : Provider H} {args : List Value} {output : Bytes}
    (h : Answers run s b caller p args output s₁) : s.store.bridge = some b := by
  cases h with
  | result => assumption
  | «variable» => assumption

/-- Where the octets cannot be handed over, guest code ends with that failure. -/
theorem Answers.provider_eq {run : Runner g H} {s s₁ s₂ : Stage g H} {b : Bridge}
    {caller : Caller} {p : Provider H} {args : List Value} {output : Bytes} {e : Failure}
    (h : Answers run s b caller p args output s₁)
    (he : (Buffer.placeForCall run b output).run s₁ = (.error e, s₂)) :
    provider run p caller args s = (.error (.raised e), s₂) := by
  cases h with
  | result f body ptr len input _ _ calling octets bridge read done =>
    have hf : (function run f [.i32 ptr, .i32 len]).run s = (.error e, s₂) := by
      rw [run_function_bytes run f calling octets bridge]
      simp only [Task.run_bind, Task.run_ofExcept, read, done, he]
    change raising f.signature caller (function run f [.i32 ptr, .i32 len]) s = _
    rw [run_raising, hf]
  | «variable» ptr len key _ calling bridge named found =>
    have hn : s.store.call.isNone = false := by rw [← Option.not_isSome, calling]; rfl
    have hs : (service run .getVariable caller [.i32 ptr, .i32 len]).run s = (.error e, s₂) := by
      unfold service
      simp only [Task.run_bind, Task.run_get, hn, Bool.false_eq_true, if_false, named,
        Task.run_modify, found, bridge, he]
    change raising _ caller (service run .getVariable caller [.i32 ptr, .i32 len]) s = _
    rw [run_raising, hs]

end ImportCall

namespace Stage

/-- Guest code that starts here is stopped for being late in the given stage, while so many runs of
the allocator are open that guest code itself led to. The runs of the allocator that a host function
asks for on its own are left out: they answer to that function, which may go on. -/
inductive Raises : (depth n : Nat) → g.Code → Stage g H → Stage g H → Prop
  | late {n elapsed : Nat} {code code' : g.Code} {s : Stage g H} {t : g.State}
      (step : g.step s.module code s.guest = .check elapsed code' t)
      (late : s.store.stop? elapsed = some (.raised s.timeout)) :
      Raises 0 (n + 1) code s ({ s with guest := t }.updateStore fun u => u.advance elapsed)
  | next {d n cost : Nat} {code code' : g.Code} {s m : Stage g H} {t : g.State}
      (step : g.step s.module code s.guest = .next cost code' t)
      (rest : Raises d n code' ({ s with guest := t }.updateStore fun u => u.spend cost) m) :
      Raises d (n + 1) code s m
  | check {d n elapsed : Nat} {code code' : g.Code} {s m : Stage g H} {t : g.State}
      (step : g.step s.module code s.guest = .check elapsed code' t)
      (early : s.store.stop? elapsed = none)
      (rest : Raises d n code' ({ s with guest := t }.updateStore fun u => u.advance elapsed) m) :
      Raises d (n + 1) code s m
  | growMemory {d n current desired : Nat} {maximum : Option Nat} {code code' : g.Code}
      {s m : Stage g H} {t : g.State}
      (step : g.step s.module code s.guest = .growMemory current desired maximum code' t)
      (rest : Raises d n
        (g.answer (askMemory { s with guest := t } current desired maximum).1 code')
        (askMemory { s with guest := t } current desired maximum).2 m) :
      Raises d (n + 1) code s m
  | growTable {d n desired : Nat} {maximum : Option Nat} {code code' : g.Code} {s m : Stage g H}
      {t : g.State} (step : g.step s.module code s.guest = .growTable desired maximum code' t)
      (rest : Raises d n (g.answer (GrowthLimit.askTable desired maximum) code')
        { s with guest := t } m) :
      Raises d (n + 1) code s m
  | called {d n index depth : Nat} {args results : List Value} {caller : Caller}
      {code code' : g.Code} {s s' m : Stage g H} {t : g.State} {p : Provider H}
      (step : g.step s.module code s.guest = .call index args caller depth code' t)
      (bound : s.providers[index]? = some p)
      (returned : ImportCall.provider (runner s.module n depth) p caller args
        { s with guest := t } = (.ok results, s'))
      (rest : Raises d n (g.resume results code') s' m) :
      Raises d (n + 1) code s m
  /-- The allocator runs for octets that an imported function hands over. -/
  | allocating {d n index depth : Nat} {args : List Value} {caller : Caller}
      {code code' : g.Code} {s s' m : Stage g H} {t : g.State} {p : Provider H} {b : Bridge}
      {output : Bytes}
      (step : g.step s.module code s.guest = .call index args caller depth code' t)
      (bound : s.providers[index]? = some p)
      (answers : ImportCall.Answers (runner s.module n depth) { s with guest := t } b caller p
        args output s')
      (nonempty : output ≠ []) (short : output.length ≤ Buffer.maxLength)
      (rest : Raises d n
        (g.enter s.module depth b.alloc [.i32 (UInt32.ofNat output.length)])
        (s'.note (.asked (UInt32.ofNat output.length))) m) :
      Raises (d + 1) (n + 1) code s m

/-- How a timeout comes out of so many open runs of the allocator: as itself, or as lack of memory
where growth had been refused. -/
def Surfaces (depth : Nat) (m : Stage g H) (e : Failure) : Prop :=
  (e = m.timeout ∧ (depth = 0 ∨ m.store.limit.denied = false)) ∨
    ((∃ requested, e = .outOfMemory requested) ∧ 0 < depth ∧ m.store.limit.denied = true)

def misread (m : Stage g H) (length : Nat) (e : Failure) : Failure :=
  if m.store.limit.denied then .outOfMemory length else e

theorem Surfaces.misread {depth : Nat} {m : Stage g H} {e : Failure} (h : Surfaces depth m e)
    (length : Nat) : Surfaces (depth + 1) m (m.misread length e) := by
  unfold Stage.misread
  cases hd : m.store.limit.denied with
  | true => exact .inr ⟨⟨length, by simp⟩, by omega, hd⟩
  | false =>
    rcases h with ⟨he, -⟩ | ⟨-, -, hn⟩
    · exact .inl ⟨by simpa using he, .inr hd⟩
    · rw [hd] at hn
      cases hn

theorem placeForCall_stopped {run : Runner g H} {b : Bridge} {bytes : Bytes} (h₀ : bytes ≠ [])
    (hm : bytes.length ≤ Buffer.maxLength) {s m : Stage g H} {e : Failure}
    (hr : run b.alloc [.i32 (UInt32.ofNat bytes.length)]
      (s.note (.asked (UInt32.ofNat bytes.length))) = (.error (.raised e), m)) :
    (Buffer.placeForCall run b bytes).run s = (.error (m.misread bytes.length e), m) := by
  rw [Buffer.run_placeForCall run b h₀ hm, hr]
  rfl

/-- What becomes of guest code that is stopped for being late. -/
theorem Raises.execute_eq {depth n : Nat} {code : g.Code} {s m : Stage g H}
    (h : Raises depth n code s m) :
    ∃ e, execute n code s = (.error (.raised e), m) ∧ Surfaces depth m e := by
  -- Each open run of the allocator on the way back reads the failure once more.
  induction h with
  | late step late =>
    rename_i n elapsed code code' s t
    refine ⟨s.timeout, ?_, .inl ⟨rfl, .inl rfl⟩⟩
    rw [execute_succ, step]
    simp only [late]
  | next step rest ih =>
    obtain ⟨e, he, hs⟩ := ih
    refine ⟨e, ?_, hs⟩
    rw [execute_succ, step]
    exact he
  | check step early rest ih =>
    obtain ⟨e, he, hs⟩ := ih
    refine ⟨e, ?_, hs⟩
    rw [execute_succ, step]
    simp only [early, he]
  | growMemory step rest ih =>
    obtain ⟨e, he, hs⟩ := ih
    refine ⟨e, ?_, hs⟩
    rw [execute_succ, step]
    exact he
  | growTable step rest ih =>
    obtain ⟨e, he, hs⟩ := ih
    refine ⟨e, ?_, hs⟩
    rw [execute_succ, step]
    exact he
  | called step bound returned rest ih =>
    obtain ⟨e, he, hs⟩ := ih
    refine ⟨e, ?_, hs⟩
    rw [execute_succ, step]
    simp only [bound, returned, he]
  | allocating step bound answers nonempty short rest ih =>
    rename_i d n index depth args caller code code' s s' m t p b output
    obtain ⟨e, he, hs⟩ := ih
    refine ⟨m.misread output.length e, ?_, hs.misread output.length⟩
    have hp := answers.provider_eq (placeForCall_stopped nonempty short he)
    rw [execute_succ, step]
    simp only [bound, hp]

/-- The body of a call with octets that starts here is stopped for being late in the given stage,
while so many runs of the allocator are open. -/
inductive Interrupted (s : Stage g H) (b : Bridge) (function : Nat) (input : Bytes) :
    Nat → Stage g H → Prop
  | supplying {d : Nat} {m : Stage g H} (nonempty : input ≠ [])
      (short : input.length ≤ Buffer.maxLength)
      (raises : Raises d g.stepLimit
        (g.enter s.module 0 b.alloc [.i32 (UInt32.ofNat input.length)])
        (s.note (.asked (UInt32.ofNat input.length))) m) :
      Interrupted s b function input (d + 1) m
  | exporting {d : Nat} {block : Block} {s₁ m : Stage g H}
      (supplied : s.Supplied b input block s₁)
      (raises : Raises d g.stepLimit
        (g.enter s₁.module 0 function [.i32 block.ptr, .i32 block.len])
        (s₁.entering function [.i32 block.ptr, .i32 block.len]) m) :
      Interrupted s b function input d m

theorem Interrupted.exchange_eq {s m : Stage g H} {b : Bridge} {function depth : Nat}
    {input : Bytes} (h : s.Interrupted b function input depth m) (name : String) :
    ∃ e, (exchange b name function input).run s = (.error e, m) ∧ Surfaces depth m e := by
  rw [run_exchange]
  cases h with
  | supplying nonempty short raises =>
    obtain ⟨e, he, hs⟩ := raises.execute_eq
    refine ⟨m.misread input.length e, ?_, hs.misread input.length⟩
    have hp : (Buffer.placeForCall enter b input).run s =
        (.error (m.misread input.length e), m) := placeForCall_stopped nonempty short he
    rw [hp]
  | exporting supplied raises =>
    rename_i block s₁
    obtain ⟨e, he, hs⟩ := raises.execute_eq
    have hr : (enter function [.i32 block.ptr, .i32 block.len] : Action g H Ending)
        (s₁.entering function [.i32 block.ptr, .i32 block.len]) = (.error (.raised e), m) := he
    refine ⟨e, ?_, hs⟩
    rw [(placeForCall_ok_iff ..).mpr supplied]
    simp only [hr, packed, Store.classify]

/-- A message of the guest stands in neither for a timeout nor for lack of memory. -/
theorem Surfaces.surface_eq {depth : Nat} {m : Stage g H} {e : Failure} (h : Surfaces depth m e)
    (name : String) (message : Option String) :
    surface name message (.error e : Except Failure α) = .error e := by
  rcases h with ⟨rfl, -⟩ | ⟨⟨requested, rfl⟩, -⟩ <;> cases message <;> rfl

theorem Interrupted.timeout_eq {s m : Stage g H} {b : Bridge} {name : String}
    {function depth millis : Nat} {input : Bytes}
    (h : (s.begun name).Interrupted b function input depth m) (hb : s.store.bridge = some b)
    (ht : s.store.timeoutMillis = some millis) : m.timeout = .timeout name millis := by
  have hb' : (s.begun name).store.bridge = some b := hb
  obtain ⟨e, he, -⟩ := h.exchange_eq name
  obtain ⟨ds, adopted, hw⟩ := exchange_worked b name function input hb' rfl
  rw [he] at hw
  have hc : m.store.call.map CallContext.function = some name := congrArg Fixed.calling hw.steady
  have hm : m.store.timeoutMillis = some millis := (congrArg Fixed.timeoutMillis hw.steady).trans ht
  obtain ⟨c, hc, hn⟩ := Option.map_eq_some_iff.mp hc
  simp only [timeout, Store.currentFunction, hc, hn, hm, Option.getD_some]

end Stage

namespace Plugin

/-- What becomes of a call with octets to an open plugin whose deadline passes before cleanup,
whatever growth was refused and whatever messages were left before. It ends with the timeout and
closes the plugin, except where an allocator was stopped after growth had been refused: that call
ends with lack of memory. -/
theorem late_call_times_out_iff {p : Plugin g H} (hp : p.Opened) {i : Instance g H}
    (hi : p.live = some i) {millis : Nat} (ht : p.settings.timeoutMillis = some millis)
    {b : Bridge} (hb : Opening.Exchanges g p.module b) {name : String} {function : Nat}
    (hf : g.function? p.module name = some (function, .bytes)) {input : Bytes} {w : World H}
    {depth : Nat} {m : Stage g H}
    (h : (Stage.begun ⟨i, w, []⟩ name).Interrupted b function input depth m) :
    (((call name input).run (p, w)).1 = .error (.timeout name millis) ∧
        ((call name input).run (p, w)).2.1.isClosed = true) ↔
      depth = 0 ∨ m.store.limit.denied = false := by
  have hr := hp.ready i hi
  have hbridge : i.store.bridge = some b := Except.ok.inj (hr.bridge.symm.trans hb.bridge_eq)
  have hfound : g.function? i.module name = some (function, .bytes) := by rw [hr.module, hf]
  have htime : m.timeout = .timeout name millis := h.timeout_eq hbridge (hr.timeout.trans ht)
  have ha : Stage.Accepts (⟨i, w, []⟩ : Stage g H) name (Stage.call name input)
      (Stage.exchange b name function input) :=
    .octets function b input hr.idle hfound hbridge
  obtain ⟨e, he, hs⟩ := h.exchange_eq name
  obtain ⟨A, adopted, C, c, s₂, -, -, hrun⟩ := ha.released he
  rw [hs.surface_eq] at hrun
  obtain ⟨h₁, h₂⟩ := run_calling name (Stage.call name input) hi w hrun
  change ((calling name (Stage.call name input)).run (p, w)).1 = _ ∧
    ((calling name (Stage.call name input)).run (p, w)).2.1.isClosed = true ↔ _
  rw [h₁, h₂]
  rcases hs with ⟨rfl, hd⟩ | ⟨⟨requested, rfl⟩, hd, hn⟩
  · have hf : (Stage.timeout m).isFatal = true := rfl
    have hcl : closes (Stage.answer (.error (Stage.timeout m) : Except Failure Bytes) c)
        (s₂.ended name (.error (Stage.timeout m) : Except Failure Bytes) c) = true := by
      simp [closes, Stage.answer, hf]
    rw [hcl]
    simp only [Stage.answer, htime, isClosed, hd, iff_true, true_and]
    rfl
  · have hne : ¬ (depth = 0 ∨ m.store.limit.denied = false) := by
      rw [hn]
      simp
      omega
    simp only [Stage.answer, hne, iff_false]
    rintro ⟨ho, -⟩
    cases ho

end Plugin

/-! A guest that follows scripts, with as much time and memory as they say. -/
namespace Script

inductive Act where
  | grow (desired : Nat)
  | wait (millis : Nat)
  | give (results : List Value)

/-- The guest whose modules are scripts: one for the allocator, one for the deallocator and one for
the export `run`. -/
def guest : Guest where
  Module := List (List Act)
  State := Unit
  Code := List Act
  load := fun _ => .error (.invalidBinary "scripts have no binary form")
  imports := fun _ => []
  exports := fun _ =>
    [⟨Name.memory, .memory 0 ⟨1, none⟩⟩, ⟨Name.alloc, .function 0 Opening.allocType⟩,
      ⟨Name.dealloc, .function 1 Opening.deallocType⟩, ⟨"run", .function 2 .bytes⟩]
  start := fun _ => ((), [])
  enter := fun m _ function _ => m.getD function []
  step := fun _ code s =>
    match code with
    | [] => .finished [] s
    | .grow desired :: rest => .growMemory 0 desired none rest s
    | .wait millis :: rest => .check millis rest s
    | .give results :: _ => .finished results s
  resume := fun _ code => code
  answer := fun _ code => code
  sizes := fun _ => [pageSize]
  read := fun _ _ _ length => List.replicate length 0
  write := fun s _ _ _ => s
  stepLimit := 100

def hasty : Settings := { timeoutMillis := some 5 }

def made (m : guest.Module) : Instance guest Unit where
  module := m
  providers := #[]
  guest := ()
  store := { Store.ofSettings hasty with bridge := some ⟨0, 0, 1⟩ }

def world : World Unit := ⟨.start none "" default, ()⟩

theorem opened (m : guest.Module) :
    Plugin.Opened (⟨m, hasty, some (made m)⟩ : Plugin guest Unit) :=
  .opened Registry.empty m hasty world _ (made m) rfl

def slow : guest.Module := [[.wait 10, .give [.i32 8]], [], [.give [.i64 0]]]

def greedy : guest.Module := [[.grow (twoTo 40), .wait 10, .give [.i32 8]], [], [.give [.i64 0]]]

end Script

namespace Plugin

open Script in
theorem slow_call_times_out :
    ((call "run" [1]).run (⟨slow, hasty, some (made slow)⟩, world)).1 =
        .error (.timeout "run" 5) ∧
      ((call "run" [1]).run (⟨slow, hasty, some (made slow)⟩, world)).2.1.isClosed = true := by
  have hm : Opening.Exchanges guest slow ⟨0, 0, 1⟩ := ⟨⟨_, rfl⟩, rfl, rfl⟩
  have hi : (Stage.begun ⟨made slow, world, []⟩ "run").Interrupted ⟨0, 0, 1⟩ 2 [1] 1 _ :=
    .supplying (by decide) (by decide) (.late rfl rfl)
  exact (late_call_times_out_iff (opened slow) rfl rfl hm rfl hi).mpr (.inr rfl)

open Script in
/-- An allocator that was refused memory and then takes too long makes the call fail for lack of
memory, and leaves the plugin open. -/
theorem greedy_call_stays_open :
    (∃ m, (Stage.begun ⟨made greedy, world, []⟩ "run").Interrupted ⟨0, 0, 1⟩ 2 [1] 1 m) ∧
      ((call "run" [1]).run (⟨greedy, hasty, some (made greedy)⟩, world)).1 =
        .error (.outOfMemory 1) ∧
      ((call "run" [1]).run (⟨greedy, hasty, some (made greedy)⟩, world)).2.1.isClosed = false := by
  refine ⟨⟨_, .supplying (by decide) (by decide) (.growMemory rfl (.late rfl rfl))⟩, rfl, rfl⟩

end Plugin

end PluginHost
