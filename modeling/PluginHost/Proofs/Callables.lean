import PluginHost.Proofs.Entries
/-!
What becomes of a host function that fails while guest code waits for it: from the function through
the guest code that called it, and through every run of the allocator on the way, to the answer of
the call. Nothing that was done before is undone.
-/
namespace PluginHost
variable {g : Guest} {H α : Type}

namespace Thrown

def toFailure (function : String) : Thrown → Failure
  | .error e => e.toFailure function
  | .panic p => .hostFunction function ("panicked: " ++ p.message)

/-- The text of a panic or of an error of the function's own. The failure of a plugin has none: it
stays what it is. -/
def text? : Thrown → Option String
  | .error (.failure ..) => none
  | .error (.other chain) => some (": ".intercalate chain)
  | .panic p => some ("panicked: " ++ p.message)

theorem toFailure_eq_of_text {thrown : Thrown} {text : String} (h : thrown.text? = some text)
    (function : String) : thrown.toFailure function = .hostFunction function text := by
  cases thrown with
  | panic p =>
    obtain rfl := Option.some.inj h
    rfl
  | error e =>
    cases e with
    | failure context e => cases h
    | other chain =>
      obtain rfl := Option.some.inj h
      rfl

end Thrown

structure Stage.Beside (s m : Stage g H) : Prop where
  toInstance : m.toInstance = s.toInstance
  memory : m.world.memory = s.world.memory
  given : Deeds.given m.record = Deeds.given s.record
  reports : Deeds.reports m.record = Deeds.reports s.record

namespace Stage.Beside
variable {s s' s'' : Stage g H}

theorem refl (s : Stage g H) : s.Beside s := ⟨rfl, rfl, rfl, rfl⟩

theorem trans (h : s.Beside s') (h' : s'.Beside s'') : s.Beside s'' where
  toInstance := h'.toInstance.trans h.toInstance
  memory := h'.memory.trans h.memory
  given := h'.given.trans h.given
  reports := h'.reports.trans h.reports

theorem log (s : Stage g H) (e : Log.Event) : s.Beside (s.log e) := ⟨rfl, rfl, rfl, rfl⟩

theorem declined (s : Stage g H) (ns name : String) (input : Bytes) (e : Failure) :
    s.Beside (s.note (.declined ns name input e)) where
  toInstance := rfl
  memory := rfl
  given := by
    rw [(Did.note s _).record_eq, Deeds.given_append]
    exact List.append_nil _
  reports := by
    rw [(Did.note s _).record_eq]
    simp [Deeds.reports, Deed.report?]

theorem store_eq (h : s.Beside s') : s'.store = s.store := congrArg Instance.store h.toInstance

end Stage.Beside

open Stage

namespace ImportCall

inductive Fails (run : Runner g H) (s : Stage g H) (f : HostFunction H) :
    List Value → Thrown → Stage g H → Prop
  | values (body : List Value → Program H (List Value)) (args : List Value) (thrown : Thrown)
      (s₁ : Stage g H) (calling : s.store.call.isSome) (raw : f.callable = .raw body)
      (failed : (body args).exec run f.name (invoked f s) = (.error thrown, s₁)) :
      Fails run s f args thrown s₁
  | octets (body : Bytes → Program H Bytes) (b : Bridge) (ptr len : UInt32) (input : Bytes)
      (thrown : Thrown) (s₁ : Stage g H) (calling : s.store.call.isSome)
      (octets : f.callable = .bytes body) (bridge : s.store.bridge = some b)
      (read : s.read b.memory ptr len = .ok input)
      (failed : (body input).exec run f.name (invoked f s) = (.error thrown, s₁)) :
      Fails run s f [.i32 ptr, .i32 len] thrown s₁

theorem guarded_failed {run : Runner g H} {function : String} {p : Program H α}
    {s s₁ : Stage g H} {thrown : Thrown} (h : p.exec run function s = (.error thrown, s₁)) :
    ∃ m, (guarded run function p).run s = (.error (thrown.toFailure function), m) ∧
      s₁.Beside m := by
  rw [run_guarded, h]
  cases thrown with
  | error e => exact ⟨s₁, rfl, .refl s₁⟩
  | panic payload => exact ⟨_, rfl, .log s₁ _⟩

theorem of_guarded_failed {run : Runner g H} {function : String} {p : Program H α}
    {s m : Stage g H} {e : Failure} (h : (guarded run function p).run s = (.error e, m)) :
    ∃ thrown s₁, p.exec run function s = (.error thrown, s₁) ∧ thrown.toFailure function = e := by
  rw [run_guarded] at h
  rcases hp : p.exec run function s with ⟨thrown | a, s₁⟩ <;> rw [hp] at h
  · refine ⟨thrown, s₁, rfl, ?_⟩
    cases thrown with
    | error e' => exact Except.error.inj (congrArg Prod.fst h)
    | panic payload => exact Except.error.inj (congrArg Prod.fst h)
  · cases h

/-- Guest code ends with the failure, and the stage is the one that the function left. -/
theorem Fails.provider_eq {run : Runner g H} {s s₁ : Stage g H} {f : HostFunction H}
    {args : List Value} {thrown : Thrown} (h : Fails run s f args thrown s₁) (caller : Caller) :
    ∃ m, provider run (.function f) caller args s =
        (.error (.raised (thrown.toFailure f.name)), m) ∧ s₁.Beside m := by
  have hr := run_raising f.signature caller (function run f args) s
  cases h with
  | values body _ _ _ calling raw failed =>
    obtain ⟨m, hm, hb⟩ := guarded_failed failed
    rw [run_function_raw run f args calling raw, hm] at hr
    exact ⟨m, hr, hb⟩
  | octets body b ptr len input _ _ calling octets bridge read failed =>
    obtain ⟨m, hm, hb⟩ := guarded_failed failed
    rw [run_function_read run f calling octets bridge read, run_serve, hm] at hr
    exact ⟨_, hr, hb.trans (.declined m ..)⟩

end ImportCall

namespace Stage

inductive Advances (n : Nat) (code : g.Code) (s : Stage g H) : g.Code → Stage g H → Prop
  | next {cost : Nat} {code' : g.Code} {t : g.State}
      (step : g.step s.module code s.guest = .next cost code' t) :
      Advances n code s code' ({ s with guest := t }.updateStore fun u => u.spend cost)
  | check {elapsed : Nat} {code' : g.Code} {t : g.State}
      (step : g.step s.module code s.guest = .check elapsed code' t)
      (early : s.store.stop? elapsed = none) :
      Advances n code s code' ({ s with guest := t }.updateStore fun u => u.advance elapsed)
  | growMemory {current desired : Nat} {maximum : Option Nat} {code' : g.Code} {t : g.State}
      (step : g.step s.module code s.guest = .growMemory current desired maximum code' t) :
      Advances n code s
        (g.answer (askMemory { s with guest := t } current desired maximum).1 code')
        (askMemory { s with guest := t } current desired maximum).2
  | growTable {desired : Nat} {maximum : Option Nat} {code' : g.Code} {t : g.State}
      (step : g.step s.module code s.guest = .growTable desired maximum code' t) :
      Advances n code s (g.answer (GrowthLimit.askTable desired maximum) code')
        { s with guest := t }
  | called {index depth : Nat} {args results : List Value} {caller : Caller} {code' : g.Code}
      {t : g.State} {p : Provider H} {s' : Stage g H}
      (step : g.step s.module code s.guest = .call index args caller depth code' t)
      (bound : s.providers[index]? = some p)
      (returned : ImportCall.provider (runner s.module n depth) p caller args
        { s with guest := t } = (.ok results, s')) :
      Advances n code s (g.resume results code') s'

theorem Advances.fixed_eq {n : Nat} {code code' : g.Code} {s s' : Stage g H}
    (h : Advances n code s code' s') : s'.fixed = s.fixed := by
  cases h with
  | next | check | growTable => rfl
  | growMemory => exact (askMemory_ticks ..).fixed_eq
  | called step bound returned =>
    rename_i index depth args results caller code₁ t p
    have ht := ImportCall.provider_ticks (runner_ticks s.module n depth) p caller args
      { s with guest := t }
    rw [returned] at ht
    exact ht.fixed_eq

theorem Advances.execute_eq {n : Nat} {code code' : g.Code} {s s' : Stage g H}
    (h : Advances n code s code' s') : execute (n + 1) code s = execute n code' s' := by
  cases h with
  | next step | growMemory step | growTable step => rw [execute_succ, step]
  | check step early =>
    rw [execute_succ, step]
    simp only [early]
  | called step bound returned =>
    rw [execute_succ, step]
    simp only [bound, returned]

inductive Calls (code : g.Code) (s : Stage g H) :
    Provider H → Caller → List Value → (depth : Nat) → Stage g H → Prop
  | call (index depth : Nat) (args : List Value) (caller : Caller) (code' : g.Code) (t : g.State)
      (p : Provider H)
      (step : g.step s.module code s.guest = .call index args caller depth code' t)
      (bound : s.providers[index]? = some p) :
      Calls code s p caller args depth { s with guest := t }

/-- Guest code ends where a function that it has called fails. -/
theorem Calls.execute_eq {n depth : Nat} {code : g.Code} {s u m : Stage g H} {p : Provider H}
    {caller : Caller} {args : List Value} {h : Halt} (hc : s.Calls code p caller args depth u)
    (hp : ImportCall.provider (runner s.module n depth) p caller args u = (.error h, m)) :
    execute (n + 1) code s = (.error h, m) := by
  obtain ⟨index, depth, args, caller, code', t, p, step, bound⟩ := hc
  rw [execute_succ, step]
  simp only [bound, hp]

/-- Guest code that starts here gets to other guest code, with so many steps left and while so many
runs of the allocator are open that guest code itself led to. The runs of the allocator that a host
function asks for on its own are left out: they answer to that function, which may go on. -/
inductive Comes : (depth n : Nat) → g.Code → Stage g H → (left : Nat) → g.Code → Stage g H → Prop
  | here {n : Nat} {code : g.Code} {s : Stage g H} : Comes 0 n code s n code s
  | step {d n left : Nat} {code code₁ code₂ : g.Code} {s s₁ s₂ : Stage g H}
      (advances : Advances n code s code₁ s₁) (rest : Comes d n code₁ s₁ left code₂ s₂) :
      Comes d (n + 1) code s left code₂ s₂
  /-- The allocator runs for octets that an imported function hands over. -/
  | allocating {d n left index depth : Nat} {args : List Value} {caller : Caller}
      {code code' code₂ : g.Code} {s s' s₂ : Stage g H} {t : g.State} {p : Provider H} {b : Bridge}
      {output : Bytes}
      (step : g.step s.module code s.guest = .call index args caller depth code' t)
      (bound : s.providers[index]? = some p)
      (answers : ImportCall.Answers (runner s.module n depth) { s with guest := t } b caller p
        args output s')
      (nonempty : output ≠ []) (short : output.length ≤ Buffer.maxLength)
      (rest : Comes d n (g.enter s.module depth b.alloc [.i32 (UInt32.ofNat output.length)])
        (s'.note (.asked (UInt32.ofNat output.length))) left code₂ s₂) :
      Comes (d + 1) (n + 1) code s left code₂ s₂

namespace Comes
variable {depth depth' n left left' : Nat} {code code' code'' : g.Code} {s s' s'' : Stage g H}

/-- No steps are won on the way. -/
theorem left_le (h : Comes depth n code s left code' s') : left ≤ n := by
  induction h with
  | here => exact Nat.le_refl _
  | step advances rest ih => exact Nat.le_succ_of_le ih
  | allocating step bound answers nonempty short rest ih => exact Nat.le_succ_of_le ih

theorem fixed_eq (h : Comes depth n code s left code' s') : s'.fixed = s.fixed := by
  induction h with
  | here => rfl
  | step advances rest ih => exact ih.trans advances.fixed_eq
  | allocating step bound answers nonempty short rest ih =>
    have ht := answers.keeps (Runner.Ticking.kept (runner_ticks _ _ _) _) .refl
    exact ih.trans ht.fixed_eq

theorem trans (h : Comes depth n code s left code' s')
    (h' : Comes depth' left code' s' left' code'' s'') :
    Comes (depth + depth') n code s left' code'' s'' := by
  induction h with
  | here => simpa using h'
  | step advances rest ih => exact .step advances (ih h')
  | allocating step bound answers nonempty short rest ih =>
    rw [Nat.add_right_comm]
    exact .allocating step bound answers nonempty short (ih h')

end Comes

end Stage

/-- How a failure comes out of so many open runs of the allocator: as itself, or as lack of memory
where growth had been refused. -/
inductive Store.Emerges (t : Store) (e : Failure) : (depth : Nat) → Failure → Prop
  | direct : Emerges t e 0 e
  | passed {depth : Nat} (granted : t.limit.denied = false) : Emerges t e depth e
  | hidden {depth : Nat} (refused : t.limit.denied = true) (requested : Nat) :
      Emerges t e (depth + 1) (.outOfMemory requested)

theorem Store.Emerges.eq_of_granted {t : Store} {e e' : Failure} {depth : Nat}
    (h : t.Emerges e depth e') (hd : depth = 0 ∨ t.limit.denied = false) : e' = e := by
  cases h with
  | direct => rfl
  | passed => rfl
  | hidden refused requested =>
    rcases hd with hd | hd
    · cases hd
    · rw [refused] at hd
      cases hd

theorem Store.Emerges.eq_of_refused {t : Store} {e e' : Failure} {depth : Nat}
    (h : t.Emerges e depth e') (hd : 0 < depth) (hr : t.limit.denied = true) :
    ∃ requested, e' = .outOfMemory requested := by
  cases h with
  | direct => cases hd
  | passed granted =>
    rw [granted] at hr
    cases hr
  | hidden refused requested => exact ⟨requested, rfl⟩

namespace Stage

/-- One more run of the allocator reads the failure once more. -/
theorem emerges_misread {m : Stage g H} {e e' : Failure} {depth : Nat}
    (h : m.store.Emerges e depth e') (length : Nat) :
    m.store.Emerges e (depth + 1) (m.misread length e') := by
  unfold misread
  cases hd : m.store.limit.denied with
  | true => exact .hidden hd length
  | false =>
    obtain rfl := h.eq_of_granted (.inr hd)
    exact .passed hd

theorem Comes.execute_eq {depth n left : Nat} {code code' : g.Code} {s s' m : Stage g H}
    {e : Failure} (h : Comes depth n code s left code' s')
    (he : execute left code' s' = (.error (.raised e), m)) :
    ∃ e', execute n code s = (.error (.raised e'), m) ∧ m.store.Emerges e depth e' := by
  -- Each open run of the allocator on the way back reads the failure once more.
  induction h with
  | here => exact ⟨e, he, .direct⟩
  | step advances rest ih =>
    rw [advances.execute_eq]
    exact ih he
  | allocating step bound answers nonempty short rest ih =>
    rename_i d n left index depth args caller code code₁ code₂ s s₁ s₂ t p b output
    obtain ⟨e', hx, hs⟩ := ih he
    refine ⟨m.misread output.length e', ?_, emerges_misread hs output.length⟩
    have hp := answers.provider_eq (placeForCall_stopped nonempty short hx)
    rw [execute_succ, step]
    simp only [bound, hp]

/-- Guest code that starts here calls a host function, while so many runs of the allocator are
open, and the function fails in the given stage. -/
inductive Invokes (depth n : Nat) (code : g.Code) (s : Stage g H) (f : HostFunction H)
    (thrown : Thrown) (s₁ : Stage g H) : Prop
  | calling {left index nested : Nat} {args : List Value} {caller : Caller} {code₁ code₂ : g.Code}
      {s' : Stage g H} {t : g.State} (comes : Comes depth n code s (left + 1) code₁ s')
      (step : g.step s'.module code₁ s'.guest = .call index args caller nested code₂ t)
      (bound : s'.providers[index]? = some (.function f))
      (fails : ImportCall.Fails (runner s'.module left nested) { s' with guest := t } f args
        thrown s₁)

theorem Invokes.of_comes {depth nested n left : Nat} {code code' : g.Code} {s s' s₁ : Stage g H}
    {f : HostFunction H} {thrown : Thrown} (hc : Comes depth n code s left code' s')
    (h : Invokes nested left code' s' f thrown s₁) :
    Invokes (depth + nested) n code s f thrown s₁ := by
  obtain ⟨comes, step, bound, fails⟩ := h
  exact .calling (hc.trans comes) step bound fails

/-- Guest code that waits for the function is ended. -/
theorem Invokes.ended {depth n : Nat} {code : g.Code} {s s₁ : Stage g H} {f : HostFunction H}
    {thrown : Thrown} (h : Invokes depth n code s f thrown s₁) :
    ∃ left code' s' m, Comes depth n code s left code' s' ∧
      execute left code' s' = (.error (.raised (thrown.toFailure f.name)), m) ∧ s₁.Beside m := by
  obtain ⟨comes, step, bound, fails⟩ := h
  rename_i left index nested args caller code₁ code₂ s' t
  obtain ⟨m, hp, hb⟩ := fails.provider_eq caller
  have hc : s'.Calls code₁ (.function f) caller args nested { s' with guest := t } :=
    .call index nested args caller code₂ t _ step bound
  exact ⟨left + 1, code₁, s', m, comes, hc.execute_eq hp, hb⟩

end Stage

end PluginHost
