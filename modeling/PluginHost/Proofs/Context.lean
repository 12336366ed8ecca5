import PluginHost.Proofs.Aftermath
import PluginHost.Proofs.Nesting
/-!
The context of a call: it is there from the beginning of an accepted call to the end of its cleanup,
and at no other time. Host functions run, messages are left and buffers are handed out only while it
is there; guest code that asks for any of it when a module is opened makes opening fail.
-/
namespace PluginHost
variable {g : Guest} {H α : Type}

def Deed.IsAssigned (d : Deed) : Prop := ∃ key value accepted, d = .assigned key value accepted

def Service.refusal (sv : Service) (args : List Value) : Failure :=
  match args with
  | [.i32 _, .i32 _] => ImportCall.outsideCall sv.name
  | _ => .hostFunction sv.name "called with other arguments"

def Provider.refusal (p : Provider H) (args : List Value) : Option Failure :=
  match p with
  | .function f => some (ImportCall.outsideCall f.name)
  | .service .setError => some (Service.setError.refusal args)
  | .service .getVariable => some (Service.getVariable.refusal args)
  | _ => none

namespace Stage

structure Bare (s : Stage g H) : Prop where
  free : s.store.call = none
  assigned : ∀ d ∈ s.deeds, d.IsAssigned

theorem Bare.not_calling {s : Stage g H} (h : s.Bare) : ¬ s.store.call.isSome := by
  rw [h.free]
  exact Bool.false_ne_true

theorem Bare.of_same {s s' : Stage g H} (h : s.Bare) (hc : s'.store.call = s.store.call)
    (hd : s'.deeds = s.deeds) : s'.Bare where
  free := hc.trans h.free
  assigned := by
    rw [hd]
    exact h.assigned

end Stage

namespace ImportCall
variable (run : Runner g H) {s : Stage g H}

theorem service_refused (hs : s.store.call = none) {sv : Service}
    (hv : sv = .setError ∨ sv = .getVariable) (caller : Caller) (args : List Value) :
    (service run sv caller args).run s = (.error (sv.refusal args), s) := by
  by_cases ha : ∃ ptr len, args = [.i32 ptr, .i32 len]
  · obtain ⟨ptr, len, rfl⟩ := ha
    rcases hv with rfl | rfl <;>
    · unfold service
      rw [Task.run_bind_ok (Task.run_get s), hs]
      rfl
  · have hr : sv.refusal args = .hostFunction sv.name "called with other arguments" := by
      unfold Service.refusal
      split
      · exact absurd ⟨_, _, rfl⟩ ha
      · rfl
    rw [hr]
    rcases hv with rfl | rfl <;>
    · unfold service
      split
      all_goals first
        | exact absurd ⟨_, _, rfl⟩ ha
        | rfl
        | contradiction

/-- Outside of a call the request fails, and nothing changes. -/
theorem provider_refused (hs : s.store.call = none) {p : Provider H} {args : List Value}
    {e : Failure} (he : p.refusal args = some e) (caller : Caller) :
    provider run p caller args s = (.error (.raised e), s) := by
  cases p with
  | function f =>
    cases he
    change raising _ _ _ s = _
    rw [run_raising, run_function_outside run f args hs]
  | service sv =>
    change raising _ _ _ s = _
    have hv : sv = .setError ∨ sv = .getVariable := by
      cases sv with
      | setError => exact .inl rfl
      | getVariable => exact .inr rfl
      | _ => cases he
    have hr : sv.refusal args = e := by
      rcases hv with rfl | rfl <;> exact Option.some.inj he
    rw [run_raising, service_refused run hs hv, hr]
  | _ => cases he

theorem service_bare (hs : s.Bare) (sv : Service) (caller : Caller) (args : List Value) :
    ((service run sv caller args).run s).2.Bare := by
  by_cases hv : sv = .setError ∨ sv = .getVariable
  · rw [service_refused run hs.free hv]
    exact hs
  · unfold service
    split
    · exact absurd (.inl rfl) hv
    · exact absurd (.inr rfl) hv
    · rename_i keyPtr keyLen ptr len
      refine Task.keeps_bind_look (readKey_stage _ caller keyPtr keyLen s) hs fun key _ => ?_
      refine Task.keeps_bind_look (readFor_stage _ caller ptr len s) hs fun value _ => ?_
      rw [Task.run_bind_ok (Task.run_get s), Task.run_bind_ok (Task.run_modify _ s)]
      have hn (accepted : Bool) : (s.note (.assigned key value accepted)).Bare := by
        refine ⟨hs.free, fun d hd => ?_⟩
        rcases List.mem_cons.mp hd with rfl | hd
        · exact ⟨key, value, accepted, rfl⟩
        · exact hs.assigned d hd
      cases s.store.vars.set key value with
      | error e => exact hn false
      | ok vars => exact (hn true).of_same rfl rfl
    · rename_i level ptr len
      refine Task.keeps_bind_look (readFor_stage _ caller ptr len s) hs fun bytes _ => ?_
      exact hs.of_same rfl rfl
    · exact hs

theorem provider_bare (hs : s.Bare) (p : Provider H) (caller : Caller) (args : List Value) :
    (provider run p caller args s).2.Bare := by
  cases p with
  | function f =>
    rw [provider_refused run hs.free rfl]
    exact hs
  | service sv => exact raising_keeps (service_bare run hs sv caller args) sv.signature caller
  | unresolved ns name signature => exact hs
  | system c =>
    change (system c caller args s).2.Bare
    rw [run_system]
    cases memory? caller s with
    | none => exact hs
    | some memory => exact hs.of_same rfl rfl
  | noSystem name signature => exact hs

variable {run} in
/-- Outside of a call nothing goes on in the midst of an imported function. -/
theorem not_during (hs : s.Bare) {inside : Runs g H} {caller : Caller}
    {p : Provider H} {args : List Value} {a : Activity g H} {m : Stage g H} :
    ¬ During run inside s caller p args a m := by
  have hn := hs.not_calling
  intro h
  cases h with
  | values f body args a m calling raw during => exact hn calling
  | octets f body b ptr len input a m calling octets bridge read during => exact hn calling
  | answering p args b output s₁ a m answers during =>
    cases answers with
    | result f body ptr len input output s₁ calling => exact hn calling
    | «variable» ptr len key value calling => exact hn calling

end ImportCall

namespace Stage
variable {s m : Stage g H} {a : Activity g H}

theorem Bare.askMemory (hs : s.Bare) (current desired : Nat) (maximum : Option Nat) :
    (askMemory s current desired maximum).2.Bare := by
  unfold Stage.askMemory
  dsimp only
  split <;> exact hs.of_same rfl rfl

/-- What goes on outside of a call is guest code alone. -/
theorem During.bare {n : Nat} {code : g.Code} (hs : s.Bare) (hd : During n code s a m) :
    m.Bare ∧ ∀ f, a ≠ .working f := by
  have hrun (code : g.Code) (f : HostFunction H) : Activity.running code ≠ .working f := by
    intro h
    cases h
  have hend (f : HostFunction H) : Activity.stopped (g := g) ≠ .working f := by
    intro h
    cases h
  induction n generalizing code s with
  | zero =>
    obtain ⟨rfl, rfl⟩ := hd
    exact ⟨hs, hend⟩
  | succ n ih =>
    have hg (t : g.State) : ({ s with guest := t } : Stage g H).Bare := hs.of_same rfl rfl
    unfold During at hd
    rcases hd with ⟨rfl, rfl⟩ | hd
    · exact ⟨hs, hrun _⟩
    · split at hd
      · refine ih ?_ hd
        exact hs.of_same rfl rfl
      · dsimp only at hd
        split at hd
        · obtain ⟨rfl, rfl⟩ := hd
          exact ⟨hs.of_same rfl rfl, hend⟩
        · refine ih ?_ hd
          exact hs.of_same rfl rfl
      · exact ih ((hg _).askMemory ..) hd
      · exact ih (hg _) hd
      · rename_i index args caller depth code' t _
        split at hd
        · obtain ⟨rfl, rfl⟩ := hd
          exact ⟨hg t, hend⟩
        · rename_i p _
          rcases hd with hd | hd
          · exact absurd hd (ImportCall.not_during (hg t))
          · have hp := ImportCall.provider_bare (runner s.module n depth) (hg t) p caller args
            split at hd <;> rename_i hr <;> rw [hr] at hp
            · exact ih hp hd
            · obtain ⟨rfl, rfl⟩ := hd
              exact ⟨hp, hend⟩
      · obtain ⟨rfl, rfl⟩ := hd
        exact ⟨hg _, hend⟩
      · obtain ⟨rfl, rfl⟩ := hd
        exact ⟨hg _, hend⟩

theorem Advances.bare {n : Nat} {code code' : g.Code} {s' : Stage g H}
    (h : Advances n code s code' s') (hs : s.Bare) : s'.Bare := by
  have hg (t : g.State) : ({ s with guest := t } : Stage g H).Bare := hs.of_same rfl rfl
  cases h with
  | next | check => exact hs.of_same rfl rfl
  | growMemory => exact (hg _).askMemory ..
  | growTable => exact hg _
  | called step bound returned =>
    rename_i index depth args results caller code₁ t p
    have hp := ImportCall.provider_bare (runner s.module n depth) (hg t) p caller args
    rwa [returned] at hp

theorem Comes.bare {depth n left : Nat} {code code' : g.Code} {s' : Stage g H}
    (h : Comes depth n code s left code' s') (hs : s.Bare) : depth = 0 ∧ s'.Bare := by
  induction h with
  | here => exact ⟨rfl, hs⟩
  | step advances rest ih => exact ih (advances.bare hs)
  | allocating step bound answers nonempty short rest ih =>
    cases answers with
    | result f body ptr len input output s₁ calling => exact absurd calling hs.not_calling
    | «variable» ptr len key value calling => exact absurd calling hs.not_calling

/-- Outside of a call guest code gets to other guest code step by step, and never from the midst of
an imported function. -/
theorem Passes.comes {n left : Nat} {code code' : g.Code} (h : Passes n code s left code' m)
    (hs : s.Bare) : Comes 0 n code s left code' m := by
  induction h with
  | along comes =>
    obtain ⟨rfl, -⟩ := comes.bare hs
    exact comes
  | inside outer writes ih =>
    obtain ⟨-, hu⟩ := ih.bare hs
    obtain ⟨calls, starts, -, -⟩ := writes
    cases calls
    cases starts with
    | values body args calling => exact absurd calling hu.not_calling
    | octets body b ptr len input calling => exact absurd calling hu.not_calling

/-- Guest code that asks for what only serves calls, outside of one, ends with that failure. -/
theorem During.refused {n : Nat} {code code' : g.Code} (hs : s.Bare)
    (hd : During n code s (.running code') m) {p : Provider H} {caller : Caller}
    {args : List Value} {depth : Nat} {u : Stage g H} (hc : m.Calls code' p caller args depth u)
    {e : Failure} (he : p.refusal args = some e) : execute n code s = (.error (.raised e), u) := by
  obtain ⟨left, hl⟩ := hd.passes
  have hw := hl.comes hs
  obtain ⟨hm, -⟩ := hd.bare hs
  have hu : u.store.call = none := by
    cases hc
    exact hm.free
  have hx := hc.execute_eq (ImportCall.provider_refused (runner m.module left depth) hu he caller)
  obtain ⟨e', hr, hn⟩ := hw.execute_eq hx
  rw [hr, hn.eq_of_granted (.inl rfl)]

structure Unattended (a : Activity g H) (s : Stage g H) : Prop where
  /-- No host function works. -/
  idle : ∀ f, a ≠ .working f
  /-- Nothing was done but that variables were set: no message was left, no value looked up, no
  buffer handed out. -/
  assigned : ∀ d ∈ s.record, d.IsAssigned
  /-- Who asks for anything that only serves calls is refused, and nothing changes. -/
  refused : ∀ code p caller args depth u e, a = .running code → s.Calls code p caller args depth u →
    p.refusal args = some e → ∀ run : Runner g H,
      ImportCall.provider run p caller args u = (.error (.raised e), u)

theorem Bare.unattended (hs : s.Bare) (ha : ∀ f, a ≠ .working f) : s.Unattended a where
  idle := ha
  assigned d hd := hs.assigned d (List.mem_reverse.mp hd)
  refused := by
    rintro code p caller args depth u e - hc he run
    have hu : u.store.call = none := by
      cases hc
      exact hs.free
    exact ImportCall.provider_refused run hu he caller

structure Attended (s : Stage g H) (name : String) (t body : Task g H α) : Prop where
  before : s.store.call = none
  /-- The context is there whenever guest code or a host function runs for the call. -/
  within : ∀ a u, s.InCall name body a u → ∃ blocks, u.store.call = some ⟨name, blocks⟩
  after : (t.run s).2.store.call = none
  /-- Until cleanup, the context has every buffer that was handed out. -/
  handed : ∀ purpose function args s₀ a u, s.Enters name body purpose function args s₀ →
    purpose ≠ .releasing → entered function args s₀ a u →
      u.tracked = (Deeds.given u.record).reverse
  /-- A host function that does not start only fails. -/
  unstarted : ∀ code u f caller args depth v, s.InCall name body (.running code) u →
    u.Calls code (.function f) caller args depth v →
      (∀ (β : Type) (p : Program H β) s₁, ¬ ImportCall.Starts v f args p s₁) →
        ∀ run : Runner g H, ∃ e v', ImportCall.provider run (.function f) caller args v =
          (.error (.raised e), v') ∧ v'.toInstance = v.toInstance ∧
            v'.world.memory = v.world.memory ∧ v'.deeds = v.deeds
  /-- One that does is told the export of this call, whatever it gets to, and cannot call back. -/
  told : ∀ code u f caller args depth v, s.InCall name body (.running code) u →
    u.Calls code (.function f) caller args depth v →
      ∀ (β : Type) (p q : Program H β) s₁ s' n, ImportCall.Starts v f args p s₁ →
        p.Gets (runner v.module n depth) f.name s₁ q s' →
          p.exec (runner v.module n depth) f.name s₁ = q.exec (runner v.module n depth) f.name s' ∧
            q.Hears (runner v.module n depth) f.name name s'

/-- Whenever something goes on in a call, its context is there. -/
theorem Accepts.within {s u : Stage g H} {name : String} {t body : Task g H α} {a : Activity g H}
    (h : s.Accepts name t body) (hu : s.InCall name body a u) :
    u.store.call.map CallContext.function = some name := by
  obtain ⟨purpose, function, args, s₀, he, hd⟩ := (inCall_iff_enters ..).mp hu
  have hf : u.fixed.calling = s₀.fixed.calling := congrArg Fixed.calling (entered_fixed hd)
  exact hf.trans (congrArg Fixed.calling (he.steady h))

theorem entered_ticks {function : Nat} {args : List Value} {s m : Stage g H} {a : Activity g H}
    (h : entered function args s a m) : Ticks s m :=
  (During.keeps (sustained_of_ticks fun _ _ ht h => h.tail ht) .refl h).2

theorem Accepts.attended {s : Stage g H} {name : String} {t body : Task g H α}
    (h : s.Accepts name t body) (hs : s.store.call = none) (hr : s.record = []) :
    s.Attended name t body where
  before := hs
  within a u hu := by
    obtain ⟨c, hc, rfl⟩ := Option.map_eq_some_iff.mp (h.within hu)
    exact ⟨c.blocks, hc⟩
  after := by
    obtain ⟨A, adopted, C, cleanup, s₂, -, -, hp⟩ := h.released (Prod.eta _).symm
    rw [hp]
    exact ended_call ..
  handed := by
    intro purpose function args s₀ a u he hp hd
    obtain ⟨ds, hw⟩ := he.ran hp
    obtain ⟨ds', hw', -⟩ := (entered_ticks hd).ran
    have hall := hw.trans hw'
    have hu : u.record = ds ++ ds' := hall.did.record_of_begun (List.reverse_eq_nil_iff.mp hr)
    have ht : (s.begun name).tracked = [] := rfl
    rw [hall.tracked, ht, hu, List.append_nil]
  unstarted := by
    intro code u f caller args depth v hu hc hst run
    obtain ⟨e, v', hr, hsame⟩ := ImportCall.run_function_of_not_starts run hst
    refine ⟨e, v', ?_, hsame⟩
    change ImportCall.raising _ _ _ v = _
    rw [ImportCall.run_raising, hr]
  told := by
    intro code u f caller args depth v hu hc β p q s₁ s' n hst hg
    have hn := h.within hu
    cases hc
    exact ⟨hg.exec_eq, hst.hears hn hg⟩

end Stage

namespace Opening

def link (registry : Registry H) (m : g.Module) (settings : Settings) :
    HostTask H (List (Provider H)) := do
  let info := g.info m
  if ¬ info.otherImports.isEmpty then throw (.opening (.nonFunctionImports info.otherImports))
  if settings.enableWasi then
    modify fun w => w.log (.systemContextBuilt settings.wasi.summary)
  bind registry settings info

theorem instantiate_eq (registry : Registry H) (m : g.Module) (settings : Settings)
    (w : World H) :
    (instantiate registry m settings).run w =
      (link registry m settings >>= complete m settings).run w := by
  unfold instantiate link
  dsimp only
  split
  · rfl
  · split <;> rfl

inductive Starts (registry : Registry H) (m : g.Module) (settings : Settings) (w : World H) :
    Stage g H → Prop
  | linked (providers : List (Provider H)) (w' : World H)
      (run : (link registry m settings).run w = (.ok providers, w')) :
      Starts registry m settings w (starting m providers settings w')

/-- If the start computation fails, opening fails. -/
theorem Starts.run_eq {registry : Registry H} {m : g.Module} {settings : Settings} {w : World H}
    {s₀ u : Stage g H} (h : Starts registry m settings w s₀) {e : Failure}
    (he : Stage.execute g.stepLimit (g.start m).2 s₀ = (.error (.raised e), u)) :
    (instantiate registry m settings).run w = (.error (.startFailed e), u.world) := by
  obtain ⟨providers, w', hl⟩ := h
  have hb : (begin m providers (.ofSettings settings)).run w' =
      (.error (.startFailed e), u.world) := by
    unfold starting at he
    rcases hs : g.start m with ⟨guest, code⟩
    rw [hs] at he
    simp only [begin, ExceptT.run_mk, hs]
    dsimp only at he
    rw [he]
    rfl
  have hc := run_complete m settings providers w'
  rw [hb] at hc
  rw [instantiate_eq, run_fallible_bind, hl]
  exact hc

theorem Starts.bare {registry : Registry H} {m : g.Module} {settings : Settings} {w : World H}
    {s₀ : Stage g H} (h : Starts registry m settings w s₀) : s₀.Bare := by
  cases h
  exact ⟨rfl, nofun⟩

end Opening

namespace Errand

def prying : Program Unit (List Value) :=
  .exportName fun name => .callBack name fun e => .fail (.failure [] e)

def eager : Guest := { guest with start := fun _ => ((), .ask) }

end Errand

namespace Plugin
open Stage

/-- Where no call is in progress, only guest code of a start computation can be at work. -/
theorem Moment.unattended {m : g.Module} {settings : Settings} {a : Activity g H} {s : Stage g H}
    (h : Moment m settings a s) (hs : s.store.call = none) : s.Unattended a := by
  cases h with
  | starting registry providers w w' a s bound during =>
    have hb : (Opening.starting m providers settings w').Bare := ⟨rfl, nofun⟩
    obtain ⟨hm, ha⟩ := during.bare hb
    exact hm.unattended ha
  | waiting p i w opened origin live => exact Bare.unattended ⟨hs, nofun⟩ nofun
  | calling p i w name t body a s opened origin live accepts during =>
    have hn := accepts.within during
    rw [hs] at hn
    cases hn

/-- Of everything that can happen to plugins of a module. Where no call is in progress, no host
function works, nobody leaves a message, is told a variable or is handed a buffer, and who asks for
it is refused. A start computation that asks for it makes opening fail. In an accepted call the
context is there from the beginning to the end, and host functions are told the export of the call,
whatever runs inside what. -/
theorem host_functions_run_in_calls (m : g.Module) (settings : Settings) :
    (∀ (a : Activity g H) (s : Stage g H), Moment m settings a s → s.store.call = none →
      s.Unattended a) ∧
    (∀ (registry : Registry H) (w : World H) (s₀ s u : Stage g H) code p caller args depth e,
      Opening.Starts registry m settings w s₀ →
      During g.stepLimit (g.start m).2 s₀ (.running code) s →
      s.Calls code p caller args depth u → p.refusal args = some e →
        (Opening.instantiate registry m settings).run w = (.error (.startFailed e), u.world)) ∧
    ∀ (p : Plugin g H) (i : Instance g H) (w : World H) (name : String) (α : Type)
      (t body : Task g H α), p.Opened → p.origin = (m, settings) → p.live = some i →
      Accepts ⟨i, w, []⟩ name t body → Attended ⟨i, w, []⟩ name t body := by
  refine ⟨fun a s hm hs => hm.unattended hs,
    fun registry w s₀ s u code p caller args depth e hst hd hc he => hst.run_eq ?_,
    fun p i w name α t body hp ho hi ha => ha.attended ?_ rfl⟩
  · exact hd.refused hst.bare hc he
  · exact (hp.ready i hi).free

open Errand in
/-- A host function that asks for the export and calls back to it is told the export that was called
and that it may not call back. In a start computation it does not even run. -/
theorem prying_errand_runs_in_call :
    (∃ blocks, (asked prying).store.call = some ⟨"run", blocks⟩) ∧
      (done prying).1 = .error (.error (.failure [] (.reentrancy "run"))) ∧
      ((Opening.instantiate ⟨[function prying]⟩ () {} : HostTask Unit (Instance eager Unit)).run
        Script.world).1 = .error (.startFailed (ImportCall.outsideCall "f")) := by
  let u : Stage guest Unit := (supplied prying).entering 2 [.i32 8, .i32 1]
  have hin : Stage.InCall ⟨made prying, Script.world, []⟩ "run" (exchange ⟨0, 0, 1⟩ "run" 2 [1])
      (.running Act.ask) u :=
    .exporting ⟨0, 0, 1⟩ 2 [1] ⟨8, 1⟩ (supplied prying) _ _ rfl rfl (.inl ⟨rfl, rfl⟩)
  have hcalls : Calls (g := guest) Act.ask u (.function (function prying)) .guest [] 0 u :=
    @Calls.call guest Unit Act.ask u 0 0 [] .guest (Act.give [.i64 0]) () _ rfl rfl
  have hst : ImportCall.Starts u (function prying) [] prying (asked prying) :=
    .values (fun _ => prying) [] rfl rfl
  obtain ⟨-, -, hc⟩ := host_functions_run_in_calls (g := guest) (H := Unit) () {}
  have ht := (hc (plugin prying) (made prying) Script.world "run" _ _ _ (opened prying) rfl rfl
    (accepts prying)).told _ _ _ _ _ _ _ hin hcalls _ prying
  obtain ⟨-, h₁⟩ := ht prying _ _ 99 hst (.here ..)
  obtain ⟨hx, h₂⟩ := ht _ _ _ 99 hst (.turn _ _ _ _ _ _ rfl (.here ..))
  obtain ⟨s', hy, -⟩ := h₂.callBack "run" _ rfl
  obtain ⟨-, hopen, -⟩ := host_functions_run_in_calls (g := eager) (H := Unit) () {}
  have hl : (Opening.link (g := eager) ⟨[function prying]⟩ () {}).run Script.world =
      (.ok [.function (function prying)], Script.world) := rfl
  let s₀ : Stage eager Unit := Opening.starting () [.function (function prying)] {} Script.world
  have hf := hopen ⟨[function prying]⟩ Script.world s₀ s₀ s₀ Act.ask
    (.function (function prying)) .guest [] 0 _ (.linked _ _ hl) (.inl ⟨rfl, rfl⟩)
    (@Calls.call eager Unit Act.ask s₀ 0 0 [] .guest (Act.give [.i64 0]) () _ rfl rfl) rfl
  refine ⟨h₁.context, ?_, congrArg Prod.fst hf⟩
  exact congrArg Prod.fst (hx.trans hy)

end Plugin

end PluginHost
