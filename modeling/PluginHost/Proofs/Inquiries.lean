import PluginHost.Proofs.Entries
/-!
A host function request by request. Whatever guest code it has led to in the meantime, it is told
the export of the call that it runs for, and it cannot call back into the plugin.
-/
namespace PluginHost
variable {g : Guest} {H α : Type}

open Stage

namespace Program

def turn (run : Runner g H) (function : String) (s : Stage g H) :
    Program H α → Option (Program H α × Stage g H)
  | .done _ => none
  | .fail _ => none
  | .panic _ => none
  | .remember change next => some (next s.world.memory,
      { s with world := { s.world with memory := change s.world.memory } })
  | .exportName next => some (next s.store.currentFunction, s)
  | .memorySize next =>
    some (next ((s.store.bridge.map fun b => s.memorySize b.memory).getD 0), s)
  | .read ptr len next =>
    match s.store.bridge with
    | some b => some (next (s.read b.memory ptr len), s)
    | none => some (next (.error (noBridge function)), s)
  | .write bytes next =>
    match s.store.bridge with
    | some b =>
      let (r, s') := (Buffer.placeForCall run b bytes).run s
      some (next r, s')
    | none => some (next (.error (noBridge function)), s)
  | .callBack target next =>
    some (next (.reentrancy target), s.log (.reentryRejected function target s.store.phase))

inductive Gets (run : Runner g H) (function : String) :
    Program H α → Stage g H → Program H α → Stage g H → Prop
  | here (p : Program H α) (s : Stage g H) : Gets run function p s p s
  | turn (p q r : Program H α) (s s' s'' : Stage g H)
      (turn : p.turn run function s = some (q, s')) (rest : Gets run function q s' r s'') :
      Gets run function p s r s''

variable {run : Runner g H} {function : String} {p q : Program H α} {s s' : Stage g H}

theorem exec_turn (h : p.turn run function s = some (q, s')) :
    p.exec run function s = q.exec run function s' := by
  cases p with
  | done a => cases h
  | fail e => cases h
  | panic m => cases h
  | read ptr len next =>
    rw [exec_read]
    cases hb : s.store.bridge <;> simp only [turn, hb] at h <;> cases h <;> rfl
  | write bytes next =>
    rw [exec_write]
    cases hb : s.store.bridge <;> simp only [turn, hb] at h <;> cases h <;> rfl
  | _ => cases h; rfl

theorem Gets.exec_eq (h : Gets run function p s q s') :
    p.exec run function s = q.exec run function s' := by
  induction h with
  | here => rfl
  | turn p q r s s' s'' ht rest ih => exact (exec_turn ht).trans ih

theorem turn_keeps {P : Stage g H → Prop} (hP : Kept run P) (hs : P s) (hc : s.store.call.isSome)
    (h : p.turn run function s = some (q, s')) : P s' := by
  cases p with
  | done a => cases h
  | fail e => cases h
  | panic m => cases h
  | remember change next =>
    cases h
    exact hP.host _ _ (.shared s _) hs
  | exportName next =>
    cases h
    exact hs
  | memorySize next =>
    cases h
    exact hs
  | read ptr len next =>
    cases hb : s.store.bridge <;> simp only [turn, hb] at h <;> cases h <;> exact hs
  | write bytes next =>
    cases hb : s.store.bridge with
    | none =>
      simp only [turn, hb] at h
      cases h
      exact hs
    | some b =>
      simp only [turn, hb] at h
      cases h
      exact Buffer.placeForCall_keeps hP hs hb hc bytes
  | callBack target next =>
    cases h
    exact hP.host _ _ (.shared s _) hs

theorem Gets.keeps {P : Stage g H → Prop} (hP : Kept run P) (hs : P s) (hc : s.store.call.isSome)
    (h : Gets run function p s q s') : P s' := by
  induction h with
  | here => exact hs
  | turn p q r s s' s'' ht rest ih =>
    have hs' := turn_keeps hP hs hc ht
    exact ih hs' (call_of_fixed (hP.fixed _ _ hs hs') hc)

structure Hears (run : Runner g H) (function name : String) (p : Program H α) (s : Stage g H) :
    Prop where
  context : ∃ blocks, s.store.call = some ⟨name, blocks⟩
  exportName : ∀ next, p = .exportName next →
    p.exec run function s = (next name).exec run function s
  callBack : ∀ target next, p = .callBack target next → ∃ s' : Stage g H,
    p.exec run function s = (next (.reentrancy target)).exec run function s' ∧
      s'.toInstance = s.toInstance ∧ s'.world.memory = s.world.memory ∧ s'.deeds = s.deeds

theorem hears_of_context {name : String} (h : ∃ blocks, s.store.call = some ⟨name, blocks⟩) :
    p.Hears run function name s where
  context := h
  exportName := by
    rintro next rfl
    obtain ⟨blocks, hc⟩ := h
    have hn : s.store.currentFunction = name := by rw [Store.currentFunction, hc]
    rw [← hn]
    rfl
  callBack := by
    rintro target next rfl
    exact ⟨s.log (.reentryRejected function target s.store.phase), rfl, rfl, rfl, rfl⟩

end Program

namespace ImportCall

inductive Starts (s : Stage g H) (f : HostFunction H) :
    List Value → {α : Type} → Program H α → Stage g H → Prop
  | values (body : List Value → Program H (List Value)) (args : List Value)
      (calling : s.store.call.isSome) (raw : f.callable = .raw body) :
      Starts s f args (body args) (invoked f s)
  | octets (body : Bytes → Program H Bytes) (b : Bridge) (ptr len : UInt32) (input : Bytes)
      (calling : s.store.call.isSome) (octets : f.callable = .bytes body)
      (bridge : s.store.bridge = some b) (read : s.read b.memory ptr len = .ok input) :
      Starts s f [.i32 ptr, .i32 len] (body input) (invoked f s)

/-- A host function that does not start fails, and nothing changes but that there is a line in the
log. -/
theorem run_function_of_not_starts (run : Runner g H) {s : Stage g H} {f : HostFunction H}
    {args : List Value}
    (h : ∀ (α : Type) (p : Program H α) (s₁ : Stage g H), ¬ Starts s f args p s₁) :
    ∃ e s', (ImportCall.function run f args).run s = (.error e, s') ∧
      s'.toInstance = s.toInstance ∧ s'.world.memory = s.world.memory ∧ s'.deeds = s.deeds := by
  cases hc : s.store.call with
  | none => exact ⟨_, s, run_function_outside run f args hc, rfl, rfl, rfl⟩
  | some c =>
    have hsome : s.store.call.isSome := by rw [hc]; rfl
    cases hf : f.callable with
    | raw body => exact absurd (.values body args hsome hf) (h _ _ _)
    | bytes body =>
      by_cases hfit : ∃ b ptr len, s.store.bridge = some b ∧ args = [.i32 ptr, .i32 len]
      · obtain ⟨b, ptr, len, hb, rfl⟩ := hfit
        cases hr : s.read b.memory ptr len with
        | ok input => exact absurd (.octets body b ptr len input hsome hf hb hr) (h _ _ _)
        | error e =>
          refine ⟨e, invoked f s, ?_, rfl, rfl, rfl⟩
          rw [run_function_bytes run f hsome hf hb, hr]
          exact Task.run_bind_error (Task.run_ofExcept _ _) _
      · exact ⟨_, invoked f s, run_function_unfit run f args hsome hf hfit, rfl, rfl, rfl⟩

/-- Whatever a host function gets to, what guest code cannot change is as it was when the host
function was called. -/
theorem Starts.fixed_eq {s s₁ s' : Stage g H} {f : HostFunction H} {args : List Value}
    {p q : Program H α} (h : Starts s f args p s₁) {n depth : Nat}
    (hg : p.Gets (runner s.module n depth) f.name s₁ q s') : s'.fixed = s.fixed := by
  have hs : Sustained (fun _ : Stage g H => True) fun _ _ => True :=
    sustained_of_ticks fun _ _ _ _ => trivial
  have hf : s₁.fixed = s.fixed := by cases h <;> rfl
  have hc : s₁.store.call.isSome := by
    refine call_of_fixed hf ?_
    cases h <;> assumption
  exact (hg.keeps (hs.kept (hs.runner_keeping s n depth)) ⟨hf, trivial⟩ hc).1

/-- Whatever a host function gets to, it is told the export of the call that it was started for. -/
theorem Starts.hears {s s₁ s' : Stage g H} {f : HostFunction H} {args : List Value}
    {p q : Program H α} (h : Starts s f args p s₁) {name : String}
    (hn : s.store.call.map CallContext.function = some name) {n depth : Nat}
    (hg : p.Gets (runner s.module n depth) f.name s₁ q s') :
    q.Hears (runner s.module n depth) f.name name s' := by
  refine Program.hears_of_context ?_
  have hm : s'.store.call.map CallContext.function = some name :=
    (congrArg Fixed.calling (h.fixed_eq hg)).trans hn
  obtain ⟨c, hc', rfl⟩ := Option.map_eq_some_iff.mp hm
  exact ⟨c.blocks, hc'⟩

end ImportCall

end PluginHost
