import PluginHost.Proofs.Context
import PluginHost.Proofs.Course
import PluginHost.Proofs.Isolation
import PluginHost.Proofs.History
import PluginHost.Proofs.Supervision
/-!
Where a lack of memory that a call answers with comes from. The host needed a buffer of just that
length and did not get it, or guest code broke down after growth to just that size had been refused,
and each of these in this call: what was refused before is forgotten when a call begins.
-/
namespace PluginHost
variable {g : Guest} {H α : Type}

theorem Store.classify_short {t : Store} {function : String} {h : Halt} {requested : Nat}
    (hc : t.classify function h = .outOfMemory requested) :
    h = .raised (.outOfMemory requested) ∨
      ∃ cause, h = .trapped cause ∧ t.limit.refused = some requested := by
  cases h with
  | raised e =>
    obtain rfl : e = .outOfMemory requested := hc
    exact .inl rfl
  | outOfFuel => cases hc
  | trapped cause =>
    unfold classify at hc
    dsimp only at hc
    cases hr : t.limit.refused with
    | none =>
      rw [hr] at hc
      cases hc
    | some n =>
      rw [hr] at hc
      obtain rfl : n = requested := Failure.outOfMemory.inj hc
      exact .inr ⟨cause, rfl, rfl⟩

namespace Buffer

inductive Lacks (run : Runner g H) (b : Bridge) (length : Nat) (u : Stage g H) : Stage g H → Prop
  | long (long : maxLength < length) : Lacks run b length u u
  | null (len : UInt32) (m : Stage g H) (exact : len.toNat = length)
      (ended : run b.alloc [.i32 len] (u.note (.asked len)) = (.ok [.i32 0], m)) :
      Lacks run b length u m
  | refused (len : UInt32) (r : Ending) (m : Stage g H) (exact : len.toNat = length)
      (ended : run b.alloc [.i32 len] (u.note (.asked len)) = (r, m))
      (failed : ∀ ptr, r ≠ .ok [.i32 ptr]) (denied : m.store.limit.denied = true) :
      Lacks run b length u m

/-- The host's reading of an answer of the allocator that it takes for lack of memory. -/
theorem Declines.short {s : Stage g H} {b : Bridge} {length requested : Nat} {r : Ending}
    (h : Declines s b length r (.outOfMemory requested)) :
    (length = requested ∧
      (r = .ok [.i32 0] ∨ (∀ ptr, r ≠ .ok [.i32 ptr]) ∧ s.store.limit.denied = true)) ∨
      r = .error (.raised (.outOfMemory requested)) := by
  have hn {h : Halt} (granted : s.store.limit.denied = false)
      (hc : s.store.classify Name.alloc h = .outOfMemory requested) :
      h = .raised (.outOfMemory requested) := by
    obtain rfl | ⟨cause, -, hs⟩ := Store.classify_short hc
    · rfl
    · unfold GrowthLimit.denied at granted
      rw [hs] at granted
      cases granted
  generalize he : Failure.outOfMemory requested = e at h
  cases h with
  | null => exact .inl ⟨(Failure.outOfMemory.inj he).symm, .inl rfl⟩
  | outside => cases he
  | refused _ failed denied =>
    exact .inl ⟨(Failure.outOfMemory.inj he).symm, .inr ⟨failed, denied⟩⟩
  | failed stop granted =>
    rw [hn granted he.symm]
    exact .inr rfl
  | odd results odd granted => cases hn granted he.symm

/-- Octets cannot be put in place for lack of memory: there is no buffer for them, or the allocator
itself ended with that failure. -/
theorem placeForCall_short {run : Runner g H} {b : Bridge} {bytes : Bytes} {u m : Stage g H}
    {requested : Nat}
    (h : (placeForCall run b bytes).run u = (.error (.outOfMemory requested), m)) :
    (bytes.length = requested ∧ Lacks run b requested u m) ∨
      bytes ≠ [] ∧ bytes.length ≤ maxLength ∧
        run b.alloc [.i32 (UInt32.ofNat bytes.length)]
          (u.note (.asked (UInt32.ofNat bytes.length))) =
            (.error (.raised (.outOfMemory requested)), m) := by
  cases places_of_placeForCall h with
  | long long => exact .inl ⟨rfl, .long long⟩
  | declined r _ e nonempty short ended declined =>
    obtain ⟨hl, hr⟩ | rfl := declined.short
    · have hn := length_toNat short
      rw [hl] at hn ended
      obtain rfl | ⟨hr, hd⟩ := hr
      · exact .inl ⟨hl, .null _ m hn ended⟩
      · exact .inl ⟨hl, .refused _ r m hn ended hr hd⟩
    · exact .inr ⟨nonempty, short, ended⟩

end Buffer

theorem Task.bind_ne_error {β : Type} {t : Task g H α} {f : α → Task g H β} {s : Stage g H}
    {e : Failure} (ht : (t.run s).1 ≠ .error e)
    (hf : ∀ a s', ((f a).run s').1 ≠ .error e) : ((t >>= f).run s).1 ≠ .error e := by
  rw [Task.run_bind]
  rcases h : t.run s with ⟨e' | a, s'⟩
  · intro he
    rw [h] at ht
    exact ht (congrArg Except.error (Except.error.inj he))
  · exact hf a s'

namespace ImportCall

theorem of_raising {signature : Signature} {caller : Caller} {t : Task g H (List Value)}
    {s m : Stage g H} {e : Failure}
    (h : raising signature caller t s = (.error (.raised e), m)) : t.run s = (.error e, m) := by
  rw [run_raising] at h
  rcases ht : t.run s with ⟨e' | results, s'⟩ <;> rw [ht] at h
  · cases h
    rfl
  · have hf := congrArg Prod.fst h
    dsimp only at hf
    split at hf <;> cases hf

theorem readFor_not_short (sv : Service) (caller : Caller) (ptr len : UInt32) (s : Stage g H)
    (requested : Nat) :
    ((readFor sv caller ptr len).run s).1 ≠ .error (.outOfMemory requested) := by
  rw [readFor_eq]
  cases memory? caller s with
  | none => nofun
  | some memory =>
    dsimp only
    rw [Stage.read_eq]
    split <;> nofun

theorem readKey_not_short (sv : Service) (caller : Caller) (ptr len : UInt32) (s : Stage g H)
    (requested : Nat) :
    ((readKey sv caller ptr len).run s).1 ≠ .error (.outOfMemory requested) := by
  unfold readKey
  refine Task.bind_ne_error (readFor_not_short sv caller ptr len s requested) fun octets s' => ?_
  split <;> nofun

variable {run : Runner g H} {s m : Stage g H} {requested : Nat}

theorem function_short {f : HostFunction H} {args : List Value} (caller : Caller)
    (h : (function run f args).run s = (.error (.outOfMemory requested), m)) :
    (∃ thrown s₁, Fails run s f args thrown s₁ ∧
      thrown.toFailure f.name = .outOfMemory requested) ∨
      ∃ b output u, Answers run s b caller (.function f) args output u ∧
        (Buffer.placeForCall run b output).run u = (.error (.outOfMemory requested), m) := by
  by_cases hc : s.store.call = none
  · rw [run_function_outside run f args hc] at h
    cases h
  · have hc : s.store.call.isSome := Option.isSome_iff_ne_none.mpr hc
    cases hf : f.callable with
    | raw body =>
      rw [run_function_raw run f args hc hf] at h
      obtain ⟨thrown, s₁, hp, he⟩ := of_guarded_failed h
      exact .inl ⟨thrown, s₁, .values body args thrown s₁ hc hf hp, he⟩
    | bytes body =>
      by_cases ha : ∃ b ptr len, s.store.bridge = some b ∧ args = [.i32 ptr, .i32 len]
      · obtain ⟨b, ptr, len, hb, rfl⟩ := ha
        cases hr : s.read b.memory ptr len with
        | error e =>
          rw [run_function_bytes run f hc hf hb, hr] at h
          rw [Stage.read_eq] at hr
          obtain rfl : e = .outOfMemory requested := Except.error.inj (congrArg Prod.fst h)
          split at hr <;> cases hr
        | ok input =>
          rw [run_function_read run f hc hf hb hr] at h
          rcases hs : (serve run f body input).run (invoked f s) with ⟨e | output, u⟩ <;>
            rw [hs] at h <;> dsimp only at h
          · obtain rfl : e = .outOfMemory requested := Except.error.inj (congrArg Prod.fst h)
            rw [run_serve] at hs
            rcases hg : (guarded run f.name (body input)).run (invoked f s)
              with ⟨e | output, u'⟩ <;> rw [hg] at hs <;> cases hs
            obtain ⟨thrown, s₁, hp, he⟩ := of_guarded_failed hg
            exact .inl ⟨thrown, s₁, .octets body b ptr len input thrown s₁ hc hf hb hr hp, he⟩
          · refine .inr ⟨b, output, u, .result f body ptr len input output u hc hf hb hr hs, ?_⟩
            rcases hp : (Buffer.placeForCall run b output).run u with ⟨e | block, u'⟩ <;>
              rw [hp] at h <;> cases h
            rfl
      · rw [run_function_unfit run f args hc hf ha] at h
        have he : unfit f s.store.bridge = .outOfMemory requested :=
          Except.error.inj (congrArg Prod.fst h)
        unfold unfit at he
        split at he <;> cases he

theorem system_not_raised (c : SystemCall) (caller : Caller) (args : List Value) (s : Stage g H)
    (e : Failure) : (system c caller args s).1 ≠ .error (.raised e) := by
  rw [run_system]
  cases memory? caller s with
  | none => nofun
  | some memory =>
    dsimp only
    split
    split <;> nofun

theorem setVariable_not_short (vars : Variables) (key : String) (value : Bytes) (requested : Nat) :
    vars.set key value ≠ .error (.outOfMemory requested) := by
  unfold Variables.set
  split
  · nofun
  · dsimp only
    split <;> nofun

/-- Of the host's services, looking a variable up alone can lack memory. -/
theorem service_not_short {sv : Service} {args : List Value}
    (hv : ¬ (sv = .getVariable ∧ ∃ ptr len, args = [.i32 ptr, .i32 len])) (caller : Caller) :
    ((service run sv caller args).run s).1 ≠ .error (.outOfMemory requested) := by
  unfold service
  split
  · rw [Task.run_bind_ok (Task.run_get s)]
    split
    · nofun
    · exact Task.bind_ne_error (readFor_not_short _ _ _ _ _ _) fun octets s' => nofun
  · exact absurd ⟨rfl, _, _, rfl⟩ hv
  · refine Task.bind_ne_error (readKey_not_short _ _ _ _ _ _) fun key s' => ?_
    refine Task.bind_ne_error (readFor_not_short _ _ _ _ _ _) fun value s' => ?_
    rw [Task.run_bind_ok (Task.run_get s'), Task.run_bind_ok (Task.run_modify _ s')]
    refine Task.bind_ne_error ?_ fun vars s' => nofun
    rw [Task.run_ofExcept]
    exact setVariable_not_short _ _ _ _
  · exact Task.bind_ne_error (readFor_not_short _ _ _ _ _ _) fun octets s' => nofun
  · nofun

theorem getVariable_short {caller : Caller} {ptr len : UInt32}
    (h : (service run .getVariable caller [.i32 ptr, .i32 len]).run s =
      (.error (.outOfMemory requested), m)) :
    ∃ b output u, Answers run s b caller (.service .getVariable) [.i32 ptr, .i32 len] output u ∧
      (Buffer.placeForCall run b output).run u = (.error (.outOfMemory requested), m) := by
  by_cases hc : s.store.call = none
  · rw [service_refused run hc (.inr rfl)] at h
    cases h
  · have hc : s.store.call.isSome := Option.isSome_iff_ne_none.mpr hc
    have hn := readKey_not_short .getVariable caller ptr len s requested
    have hs := readKey_stage .getVariable caller ptr len s
    rw [run_getVariable run hc] at h
    obtain ⟨r, s', hr⟩ : ∃ r s', (readKey .getVariable caller ptr len).run s = (r, s') :=
      ⟨_, _, rfl⟩
    rw [hr] at h hn hs
    obtain rfl : s' = s := hs
    cases r with
    | error e => exact absurd (congrArg Except.error (Except.error.inj (congrArg Prod.fst h))) hn
    | ok key =>
      dsimp only at h
      cases hv : s'.store.vars.get? key with
      | none =>
        rw [hv] at h
        cases h
      | some value =>
        rw [hv] at h
        cases hb : s'.store.bridge with
        | none =>
          rw [hb] at h
          cases h
        | some b =>
          rw [hb] at h
          refine ⟨b, value, _, .variable ptr len key value hc hb hr hv, ?_⟩
          dsimp only at h
          rcases hp : (Buffer.placeForCall run b value).run (s'.note (.lookedUp key (some value)))
            with ⟨e | block, u⟩ <;> rw [hp] at h <;> cases h
          rfl

theorem provider_short {p : Provider H} {caller : Caller} {args : List Value}
    (h : provider run p caller args s = (.error (.raised (.outOfMemory requested)), m)) :
    (∃ f thrown s₁, p = .function f ∧ Fails run s f args thrown s₁ ∧
      thrown.toFailure f.name = .outOfMemory requested) ∨
      ∃ b output u, Answers run s b caller p args output u ∧
        (Buffer.placeForCall run b output).run u = (.error (.outOfMemory requested), m) := by
  cases p with
  | function f =>
    obtain ⟨thrown, s₁, hf, he⟩ | ha := function_short caller (of_raising h)
    · exact .inl ⟨f, thrown, s₁, rfl, hf, he⟩
    · exact .inr ha
  | service sv =>
    have hs := of_raising h
    by_cases hv : sv = .getVariable ∧ ∃ ptr len, args = [.i32 ptr, .i32 len]
    · obtain ⟨rfl, ptr, len, rfl⟩ := hv
      exact .inr (getVariable_short hs)
    · exact absurd (congrArg Prod.fst hs) (service_not_short hv caller)
  | unresolved ns name signature => cases h
  | system c => exact absurd (congrArg Prod.fst h) (system_not_raised c caller args s _)
  | noSystem name signature => cases h

end ImportCall

namespace Stage

inductive Hands (n : Nat) (code : g.Code) (s : Stage g H) :
    Runner g H → Bridge → Bytes → Stage g H → Prop
  | calling {depth left nested : Nat} {args : List Value} {caller : Caller} {code' : g.Code}
      {s' v u : Stage g H} {p : Provider H} {b : Bridge} {output : Bytes}
      (comes : Comes depth n code s (left + 1) code' s')
      (calls : s'.Calls code' p caller args nested v)
      (answers : ImportCall.Answers (runner s'.module left nested) v b caller p args output u) :
      Hands n code s (runner s'.module left nested) b output u

theorem Hands.of_comes {depth n left : Nat} {code code' : g.Code} {s s' u : Stage g H}
    {run : Runner g H} {b : Bridge} {output : Bytes} (hc : Comes depth n code s left code' s')
    (h : Hands left code' s' run b output u) : Hands n code s run b output u := by
  obtain ⟨comes, calls, answers⟩ := h
  exact .calling (hc.trans comes) calls answers

/-- Guest code that the host ends was late, or a function that it had called failed. -/
theorem execute_raised {n : Nat} {code : g.Code} {s m : Stage g H} {e : Failure}
    (h : execute n code s = (.error (.raised e), m)) :
    ∃ left code' s', Comes 0 n code s (left + 1) code' s' ∧
      (e = s'.timeout ∨ ∃ p caller args depth v, s'.Calls code' p caller args depth v ∧
        ImportCall.provider (runner s'.module left depth) p caller args v =
          (.error (.raised e), m)) := by
  induction n generalizing code s with
  | zero => cases h
  | succ n ih =>
    -- The rest of the way comes after one step.
    have hstep {code₁ : g.Code} {s₁ : Stage g H} (ha : Advances n code s code₁ s₁) :
        ∃ left code' s', Comes 0 (n + 1) code s (left + 1) code' s' ∧
          (e = s'.timeout ∨ ∃ p caller args depth v, s'.Calls code' p caller args depth v ∧
            ImportCall.provider (runner s'.module left depth) p caller args v =
              (.error (.raised e), m)) := by
      rw [ha.execute_eq] at h
      obtain ⟨left, code', s', hc, he⟩ := ih h
      exact ⟨left, code', s', .step ha hc, he⟩
    cases hg : g.step s.module code s.guest with
    | next cost code' t => exact hstep (.next hg)
    | check elapsed code' t =>
      cases hl : s.store.stop? elapsed with
      | none => exact hstep (.check hg hl)
      | some stop =>
        rw [execute_succ, hg] at h
        simp only [hl] at h
        obtain rfl : stop = .raised e := Except.error.inj (congrArg Prod.fst h)
        exact ⟨n, code, s, .here, .inl ((Store.stop?_raised_iff ..).mp hl).2.2.2⟩
    | growMemory current desired maximum code' t => exact hstep (.growMemory hg)
    | growTable desired maximum code' t => exact hstep (.growTable hg)
    | call index args caller depth code' t =>
      cases hp : s.providers[index]? with
      | none =>
        rw [execute_succ, hg] at h
        simp only [hp] at h
        cases h
      | some p =>
        have hc : s.Calls code p caller args depth { s with guest := t } :=
          .call index depth args caller code' t p hg hp
        obtain ⟨r, s', hr⟩ : ∃ r s', ImportCall.provider (runner s.module n depth) p caller args
            { s with guest := t } = (r, s') := ⟨_, _, rfl⟩
        cases r with
        | ok results => exact hstep (.called hg hp hr)
        | error stop =>
          rw [hc.execute_eq hr] at h
          rw [h] at hr
          exact ⟨n, code, s, .here, .inr ⟨p, caller, args, depth, _, hc, hr⟩⟩
    | finished results t =>
      rw [execute_succ, hg] at h
      cases h
    | trapped cause t =>
      rw [execute_succ, hg] at h
      cases h

/-- Guest code is ended for lack of memory, and no host function failed so: then octets that were to
be handed over lack a buffer. -/
theorem execute_short {n : Nat} {code : g.Code} {s m : Stage g H} {requested : Nat}
    (h : execute n code s = (.error (.raised (.outOfMemory requested)), m))
    (alone : ∀ depth f thrown s₁, Invokes depth n code s f thrown s₁ →
      thrown.toFailure f.name ≠ .outOfMemory requested) :
    ∃ run b output u, Hands n code s run b output u ∧ output.length = requested ∧
      Buffer.Lacks run b requested u m := by
  -- The allocator may be ended in the same way, with some number of steps less.
  induction n using Nat.strongRecOn generalizing code s with
  | _ n ih =>
    obtain ⟨left, code', s', hc, he | ⟨p, caller, args, depth, v, hv, hp⟩⟩ := execute_raised h
    · cases he
    · obtain ⟨f, thrown, s₁, rfl, hf, he⟩ | ⟨b, output, u, ha, hu⟩ := ImportCall.provider_short hp
      · obtain ⟨index, _, _, _, code'', t, _, step, bound⟩ := hv
        exact absurd he (alone 0 f thrown s₁ (.calling hc step bound hf))
      · obtain ⟨hl, hs⟩ | ⟨h₀, hm, hr⟩ := Buffer.placeForCall_short hu
        · exact ⟨_, b, output, u, .calling hc hv ha, hl, hs⟩
        · have hin : Comes 1 (left + 1) code' s' left
              (g.enter s'.module depth b.alloc [.i32 (UInt32.ofNat output.length)])
              (u.note (.asked (UInt32.ofNat output.length))) := by
            obtain ⟨index, _, _, _, code'', t, _, step, bound⟩ := hv
            exact .allocating step bound ha h₀ hm .here
          have hway := hc.trans hin
          obtain ⟨run, b', output', u', hh, hl, hs⟩ := ih left hc.left_le hr
            fun depth' f thrown s₁ hi => alone _ f thrown s₁ (hi.of_comes hway)
          exact ⟨run, b', output', u', hh.of_comes hway, hl, hs⟩

section Course
variable {depth n left : Nat} {code code' : g.Code} {s s' u m : Stage g H} {run : Runner g H}
  {b : Bridge} {output : Bytes}

theorem Advances.course (h : Advances n code s code' s') :
    ∃ ms, ∀ ms' m, Course (.guest code' none) ms' s' m →
      Course (.guest code none) (ms ++ ms') s m := by
  cases h with
  | next step => exact ⟨[], fun _ _ hc => .moved (.next step) hc⟩
  | check step early => exact ⟨[], fun _ _ hc => .moved (.check step early) hc⟩
  | growMemory step =>
    obtain ⟨ms, hm⟩ := Moves.growMemory step
    exact ⟨ms, fun _ _ hc => .moved hm hc⟩
  | growTable step => exact ⟨[], fun _ _ hc => .moved (.growTable step) hc⟩
  | called step bound returned =>
    rename_i index depth args results caller code₁ t p
    have hp := (runner_course n s depth).provider (s := { s with guest := t }) rfl p caller args
    rw [returned] at hp
    obtain ⟨c, rfl⟩ | ⟨ms, hp⟩ := hp
    · exact ⟨[], fun _ _ hc => .moved (.answered step bound returned) hc⟩
    · exact ⟨ms, fun _ _ hc => .called step bound returned hp hc⟩

theorem Calls.course {v : Stage g H} {caller : Caller} {p : Provider H} {args : List Value}
    {nested : Nat} (hv : s.Calls code p caller args nested v)
    (h : ImportCall.Answers (runner s.module n nested) v b caller p args output u) :
    ∃ ms, u.fixed = s.fixed ∧ u.store.bridge = some b ∧ Course (.host .answering) ms v u ∧
      ∀ ms' m, Course (.amid .answering) ms' v m → Course (.guest code none) ms' s m := by
  obtain ⟨index, nested, args, caller, code', t, p, step, bound⟩ := hv
  have hr := runner_course n s nested
  obtain ⟨hf, ms, hc⟩ := h.keeps (hr.kept .answering { s with guest := t }) ⟨rfl, [], .rest⟩
  have hb : u.store.bridge = some b := (bridge_of_fixed hf).trans h.bridge_eq
  exact ⟨ms, hf, hb, hc, fun _ _ ha => .waiting step bound ha⟩

theorem Comes.course (h : Comes depth n code s left code' s') :
    ∃ ms, ∀ ms' m, Course (.guest code' none) ms' s' m →
      Course (.guest code none) (ms ++ ms') s m := by
  induction h with
  | here => exact ⟨[], fun _ _ hc => hc⟩
  | step advances rest ih =>
    obtain ⟨ms, hs⟩ := advances.course
    obtain ⟨ms', hr⟩ := ih
    refine ⟨ms ++ ms', fun ms'' m hc => ?_⟩
    rw [List.append_assoc]
    exact hs _ m (hr _ m hc)
  | allocating step bound answers nonempty short rest ih =>
    rename_i s s' s₂ t p b output
    obtain ⟨ms, hf, hb, hc, hw⟩ := Calls.course (.call _ _ _ _ _ _ _ step bound) answers
    obtain ⟨ms', hr⟩ := ih
    have hm : s'.module = s.module := congrArg Fixed.module hf
    rw [← hm] at hr
    let d := Deed.asked (UInt32.ofNat output.length)
    refine ⟨ms ++ .entered d :: ms', fun ms'' m hm => ?_⟩
    rw [List.append_assoc, List.cons_append]
    exact hw _ m (.within hc (.asked _ b _ hb) (hr _ m hm))

/-- The allocator runs in the course of the guest code for which octets are handed over. -/
theorem Hands.course (h : Hands n code s run b output u) {len : UInt32} {r : Ending}
    (hr : run b.alloc [.i32 len] (u.note (.asked len)) = (r, m)) :
    ∃ ms, Course (.guest code none) ms s m := by
  obtain ⟨comes, calls, answers⟩ := h
  rename_i depth left nested args caller code' s' v p
  obtain ⟨ms, hs⟩ := comes.course
  obtain ⟨ms', hf, hb, hc, hw⟩ := calls.course answers
  obtain ⟨deep, ms'', hi⟩ := (runner_course left s' nested).course b.alloc [.i32 len]
    (u.note (.asked len)) hf
  rw [hr] at hi
  exact ⟨_, hs _ m (hw _ m (.whole (.entered hc (.asked _ b len hb) hi)))⟩

end Course

/-- In an accepted call, given its body, the host makes a buffer with this runner in the given
stage: for the input, or for octets that guest code of the call is to be handed. -/
inductive Needs (s : Stage g H) (name : String) :
    {α : Type} → Task g H α → Runner g H → Bridge → Bytes → Stage g H → Prop
  | input (b : Bridge) (function : Nat) (input : Bytes) :
      Needs s name (exchange b name function input) enter b input (s.begun name)
  | output {α : Type} {body : Task g H α} {purpose : Purpose} {function : Nat} {args : List Value}
      {s₀ u : Stage g H} {run : Runner g H} {b : Bridge} {output : Bytes}
      (enters : s.Enters name body purpose function args s₀)
      (hands : Hands g.stepLimit (g.enter s₀.module 0 function args) s₀ run b output u) :
      Needs s name body run b output u

/-- In an accepted call, given its body, no host function fails for lack of just so much memory
itself. -/
def Unprompted (s : Stage g H) (name : String) (body : Task g H α) (requested : Nat) : Prop :=
  ∀ purpose depth f thrown s₁, s.Meets name body purpose depth f thrown s₁ →
    thrown.toFailure f.name ≠ .outOfMemory requested

/-- Guest code that the host runs for some purpose fails by itself: it traps, or an export of octets
returns something else than a word. -/
inductive Broken : Purpose → Ending → Prop
  | trapped (purpose : Purpose) (cause : TrapCause) : Broken purpose (.error (.trapped cause))
  | odd (results : List Value) (odd : ∀ word, results ≠ [.i64 word]) :
      Broken .exporting (.ok results)

inductive Shortage (s : Stage g H) (name : String) (body : Task g H α) (requested : Nat) : Prop
  /-- A buffer of that length is needed, for which no allocator can be asked. -/
  | long {run : Runner g H} {b : Bridge} {bytes : Bytes} {u : Stage g H}
      (needs : s.Needs name body run b bytes u) (length : bytes.length = requested)
      (long : Buffer.maxLength < requested)
  /-- The allocator is asked for a buffer of that length, and there is none. -/
  | null {run : Runner g H} {b : Bridge} {bytes : Bytes} {u m : Stage g H} {len : UInt32}
      (needs : s.Needs name body run b bytes u) (length : bytes.length = requested)
      (exact : len.toNat = requested)
      (ended : run b.alloc [.i32 len] (u.note (.asked len)) = (.ok [.i32 0], m))
  /-- The allocator is asked for a buffer of that length, and fails after growth was refused in the
  course of the call. -/
  | refused {run : Runner g H} {b : Bridge} {bytes : Bytes} {u m : Stage g H} {len : UInt32}
      {r : Ending} {ms : List (Mark g H)} (needs : s.Needs name body run b bytes u)
      (length : bytes.length = requested) (exact : len.toNat = requested)
      (ended : run b.alloc [.i32 len] (u.note (.asked len)) = (r, m))
      (failed : ∀ ptr, r ≠ .ok [.i32 ptr])
      (course : Course (.amid (.calling name)) ms (s.begun name) m)
      (refused : refusals ms ≠ [])
  /-- Guest code fails by itself after growth was refused in the course of the call, and it was to
  that size that the last refused growth would have led. -/
  | broken {purpose : Purpose} {function : Nat} {args : List Value} {s₀ m : Stage g H} {r : Ending}
      {ms : List (Mark g H)} (enters : s.Enters name body purpose function args s₀)
      (ended : (enter function args : Action g H Ending) s₀ = (r, m)) (broken : Broken purpose r)
      (course : Course (.host (.calling name)) ms (s.begun name) m)
      (last : (refusals ms).getLast? = some requested)

def Arrives (s : Stage g H) (name : String) (function : Nat) (args : List Value)
    (s₀ : Stage g H) : Prop :=
  ∃ ms s' d, Course (.host (.calling name)) ms (s.begun name) s' ∧
    s'.Entry (.calling name) d function args s₀

section Call
variable {s s₀ u m : Stage g H} {name : String} {t body : Task g H α} {purpose : Purpose}
  {function requested : Nat} {args : List Value} {run : Runner g H} {b : Bridge} {bytes : Bytes}

theorem Course.refused_of_begun {actor : Actor g} {ms : List (Mark g H)}
    (h : Course actor ms (s.begun name) m) : m.store.limit.refused = (refusals ms).getLast? := by
  have hm := h.marked.refused
  rwa [show (s.begun name).store.limit.refused = none from rfl, Option.or_none] at hm

theorem course_of_supplying (hb : s.store.bridge = some b) {len : UInt32} {r : Ending}
    (hr : enter b.alloc [.i32 len] ((s.begun name).note (.asked len)) = (r, m)) :
    ∃ ms, Course (.amid (.calling name)) ms (s.begun name) m := by
  have he : (s.begun name).Entry (.calling name) (.asked len) b.alloc [.i32 len]
    ((s.begun name).note (.asked len)) := .asked _ b len hb
  obtain ⟨ms, hc⟩ := Course.rest.enter he
  rw [hr] at hc
  exact ⟨ms, .whole hc⟩

/-- The allocator runs in the course of the call for octets that guest code is to be handed. -/
theorem Arrives.course_of_hands (h : s.Arrives name function args s₀)
    (hh : Hands g.stepLimit (g.enter s₀.module 0 function args) s₀ run b bytes u) {len : UInt32}
    {r : Ending} (hr : run b.alloc [.i32 len] (u.note (.asked len)) = (r, m)) :
    ∃ ms, Course (.amid (.calling name)) ms (s.begun name) m := by
  obtain ⟨ms, s', d, hc, he⟩ := h
  obtain ⟨ms', hi⟩ := hh.course hr
  rw [he.apart.module] at hi
  exact ⟨_, .within hc he hi⟩

theorem Needs.shortage (h : s.Needs name body run b bytes u) (hl : bytes.length = requested)
    (hs : Buffer.Lacks run b requested u m)
    (hc : ∀ {len r}, run b.alloc [.i32 len] (u.note (.asked len)) = (r, m) →
      ∃ ms, Course (.amid (.calling name)) ms (s.begun name) m) :
    s.Shortage name body requested := by
  cases hs with
  | long long => exact .long h hl long
  | null len _ exact ended => exact .null h hl exact ended
  | refused len r _ exact ended failed denied =>
    obtain ⟨ms, hc⟩ := hc ended
    refine .refused h hl exact ended failed hc fun hn => ?_
    rw [GrowthLimit.denied, hc.refused_of_begun, hn] at denied
    cases denied

theorem Enters.shortage_of_raised (h : s.Enters name body purpose function args s₀)
    (hv : s.Arrives name function args s₀)
    (hr : (enter function args : Action g H Ending) s₀ =
      (.error (.raised (.outOfMemory requested)), m))
    (hu : s.Unprompted name body requested) : s.Shortage name body requested := by
  obtain ⟨run, b, output, u, hh, hl, hs⟩ := execute_short hr fun depth f thrown s₁ hi =>
    hu purpose _ f thrown s₁ (.running h rfl hi)
  exact Needs.shortage (.output h hh) hl hs (hv.course_of_hands hh)

theorem Enters.shortage_of_broken (h : s.Enters name body purpose function args s₀)
    (hv : s.Arrives name function args s₀) {r : Ending}
    (hr : (enter function args : Action g H Ending) s₀ = (r, m)) (hb : Broken purpose r)
    (hl : m.store.limit.refused = some requested) : s.Shortage name body requested := by
  obtain ⟨_, s', d, hc, he⟩ := hv
  obtain ⟨ms, hc⟩ := hc.enter he
  rw [hr] at hc
  exact .broken h hr hb hc (hc.refused_of_begun.symm.trans hl)

/-- Guest code that the host runs for a call is stopped, for lack of memory as the host reads it. -/
theorem Enters.shortage_of_stopped (h : s.Enters name body purpose function args s₀)
    (hv : s.Arrives name function args s₀) {r : Ending} {stop : Halt} {caller : String}
    (hr : (enter function args : Action g H Ending) s₀ = (r, m))
    (hs : r = .error stop ∨ ∃ cause, stop = .trapped cause ∧ Broken purpose r)
    (hc : m.store.classify caller stop = .outOfMemory requested)
    (hu : s.Unprompted name body requested) : s.Shortage name body requested := by
  obtain rfl | ⟨cause, rfl, hl⟩ := Store.classify_short hc
  · obtain rfl | ⟨cause, hn, -⟩ := hs
    · exact h.shortage_of_raised hv hr hu
    · cases hn
  · refine h.shortage_of_broken hv hr ?_ hl
    obtain rfl | ⟨-, -, hb⟩ := hs
    · exact .trapped purpose cause
    · exact hb

/-- Once the input is in place, the host gets to the export. -/
theorem arrives_exporting {b : Bridge} {input : Bytes} {block : Block} {s₁ : Stage g H}
    (found : g.function? s.module name = some (function, .bytes))
    (bridge : s.store.bridge = some b)
    (supplied : (Buffer.placeForCall enter b input).run (s.begun name) = (.ok block, s₁)) :
    s.Arrives name function [.i32 block.ptr, .i32 block.len]
      (s₁.entering function [.i32 block.ptr, .i32 block.len]) := by
  obtain ⟨ms, hc⟩ := (course_carried name (s.begun name)).placeForCall (s.begun name) b input
    bridge rfl ⟨[], .rest⟩
  have ht := Buffer.placeForCall_ticks (s := s.begun name) enter_ticks bridge rfl input
  rw [supplied] at hc ht
  have hm : s₁.module = s.module := congrArg Fixed.module ht.fixed_eq
  exact ⟨ms, s₁, _, hc, .exported name function .bytes _ (hm ▸ found)⟩

theorem packed_error {r : Ending} {h : Halt} (hp : packed r = .error h) :
    r = .error h ∨ ∃ cause, h = .trapped cause ∧ Broken .exporting r := by
  unfold packed at hp
  split at hp
  · cases hp
  · rename_i results hn
    refine .inr ⟨_, (Except.error.inj hp).symm, .odd results fun word hw => hn word ?_⟩
    rw [hw]
  · exact .inl (by rw [Except.error.inj hp])

theorem Accepts.shortage_of_body (ha : s.Accepts name t body)
    (h : body.run (s.begun name) = (.error (.outOfMemory requested), m))
    (hu : s.Unprompted name body requested) : s.Shortage name body requested := by
  cases ha with
  | octets function b input idle found bridge =>
    rw [run_exchange] at h
    obtain ⟨r, s₁, hr⟩ : ∃ r s₁, (Buffer.placeForCall enter b input).run (s.begun name) = (r, s₁) :=
      ⟨_, _, rfl⟩
    rw [hr] at h
    cases r with
    | error e =>
      cases h
      -- There was no buffer for the input, or the allocator was itself ended for lack of memory.
      obtain ⟨hl, hs⟩ | ⟨h₀, hm, hx⟩ := Buffer.placeForCall_short hr
      · exact Needs.shortage (.input b function input) hl hs (course_of_supplying bridge)
      · have he : (s.begun name).Entry (.calling name) _ b.alloc _ _ :=
          .asked _ b (UInt32.ofNat input.length) bridge
        exact Enters.shortage_of_raised (.supplying b function input h₀ hm)
          ⟨[], _, _, .rest, he⟩ hx hu
    | ok block =>
      have he : s.Enters name (exchange b name function input) .exporting function
          [.i32 block.ptr, .i32 block.len]
          (s₁.entering function [.i32 block.ptr, .i32 block.len]) :=
        .exporting b function input block s₁ bridge hr
      dsimp only at h
      obtain ⟨r, s₂, hx⟩ : ∃ r s₂, (enter function [.i32 block.ptr, .i32 block.len] :
          Action g H Ending) (s₁.entering function [.i32 block.ptr, .i32 block.len]) = (r, s₂) :=
        ⟨_, _, rfl⟩
      rw [hx] at h
      dsimp only at h
      cases hp : packed r with
      | error stop =>
        rw [hp] at h
        obtain ⟨hc, rfl⟩ := Prod.mk.inj h
        exact he.shortage_of_stopped (arrives_exporting found bridge hr) hx (packed_error hp)
          (Except.error.inj hc) hu
      | ok word =>
        rw [hp] at h
        dsimp only at h
        unfold output at h
        rw [read_eq] at h
        by_cases hb : (Block.unpack word).ptr.toNat + (Block.unpack word).len.toNat ≤
            s₂.memorySize b.memory
        · simp only [hb, if_true] at h
          cases h
        · simp only [hb, if_false] at h
          cases h
  | values function signature args idle found typed =>
    rw [run_exchangeValues] at h
    obtain ⟨r, s₁, hx⟩ : ∃ r s₁, (enter function args : Action g H Ending)
        ((s.begun name).entering function args) = (r, s₁) := ⟨_, _, rfl⟩
    rw [hx] at h
    cases r with
    | ok results => cases h
    | error stop =>
      obtain ⟨hc, rfl⟩ := Prod.mk.inj h
      have he : s.Enters name (exchangeValues name function args) .exporting function args
          ((s.begun name).entering function args) := .exportingValues function args
      have hv : s.Arrives name function args ((s.begun name).entering function args) :=
        ⟨[], _, _, .rest, .exported name function signature args found⟩
      exact he.shortage_of_stopped hv hx (.inl rfl) (Except.error.inj hc) hu

/-- The failure that is remembered of cleanup is one of the deallocator. -/
theorem of_releaseAll_failed {blocks : List Block} {e : Failure}
    (h : (releaseAll b name blocks s).1 = some e) :
    ∃ before block after r m, blocks = before ++ block :: after ∧ block.isEmpty = false ∧
      (enter b.dealloc [.i32 block.ptr, .i32 block.len] : Action g H Ending)
        ((before.foldl (fun u c => u.released b name c) s).note (.returned block)) =
          (.error r, m) ∧ m.store.classify Name.dealloc r = e := by
  induction blocks generalizing s with
  | nil => cases h
  | cons block blocks ih =>
    rw [releaseAll_cons] at h
    obtain ⟨r, s', hr⟩ : ∃ r s', (Buffer.release enter b block).run s = (r, s') := ⟨_, _, rfl⟩
    rw [hr] at h
    cases r with
    | ok done =>
      obtain ⟨before, block', after, r, m, rfl, hn, hx, he⟩ := ih h
      have hs : s.released b name block = s' := by
        unfold released
        rw [hr]
      rw [← hs] at hx
      exact ⟨block :: before, block', after, r, m, rfl, hn, hx, he⟩
    | error e' =>
      obtain rfl := Option.some.inj h
      cases hn : block.isEmpty with
      | true =>
        unfold Buffer.release at hr
        rw [hn] at hr
        cases hr
      | false =>
        rw [Buffer.run_release enter b hn] at hr
        obtain ⟨r, m, hx⟩ : ∃ r m, (enter b.dealloc [.i32 block.ptr, .i32 block.len] :
            Action g H Ending) (s.note (.returned block)) = (r, m) := ⟨_, _, rfl⟩
        rw [hx] at hr
        cases r with
        | ok results => cases hr
        | error stop =>
          exact ⟨[], block, blocks, stop, m, rfl, hn, hx, Except.error.inj (congrArg Prod.fst hr)⟩

theorem surface_short_iff (name : String) (message : Option String) (r : Except Failure α)
    (requested : Nat) :
    surface name message r = .error (.outOfMemory requested) ↔
      r = .error (.outOfMemory requested) := by
  cases message with
  | none => rfl
  | some text =>
    cases r with
    | ok v => simp [surface]
    | error e => cases e <;> simp [surface]

/-- Cleanup gets to each buffer, whatever became of those before it. -/
theorem Accepts.arrives_releasing (ha : s.Accepts name t body) {r : Except Failure α}
    {s₁ : Stage g H} (hb : body.run (s.begun name) = (r, s₁)) (bridge : s.store.bridge = some b)
    (before : List Block) {block : Block} (hn : block.isEmpty = false) :
    s.Arrives name b.dealloc [.i32 block.ptr, .i32 block.len]
      ((before.foldl (fun u c => u.released b name c)
        (s₁.leaving (surface name s₁.store.guestError r))).note (.returned block)) := by
  have hl := course_carried name (s.begun name)
  obtain ⟨A, adopted, hw⟩ := ha.worked
  rw [hb] at hw
  have hbridge := (hw.leaving_bridge (surface name s₁.store.guestError r)).trans bridge
  have hc := hl.body ha ⟨[], .rest⟩
  rw [hb] at hc
  obtain ⟨ms, hc⟩ := hl.foldl_released before hbridge (hl.discreet _ _ (.leaving s₁ _) hc)
  have hs := bridge_of_steady (foldl_released_steady b name before
    (s₁.leaving (surface name s₁.store.guestError r)))
  exact ⟨ms, _, _, hc, .offered name b block (hs.trans hbridge) hn⟩

/-- A call fails for lack of memory, and no host function failed so. -/
theorem Accepts.shortage (ha : s.Accepts name t body)
    (h : (t.run s).1 = .error (.outOfMemory requested)) (hu : s.Unprompted name body requested) :
    s.Shortage name body requested := by
  obtain ⟨r, s₁, hb⟩ : ∃ r s₁, body.run (s.begun name) = (r, s₁) := ⟨_, _, rfl⟩
  have hl := congrArg Prod.fst (ha.run_leaving hb)
  rw [h] at hl
  change _ = answer (surface name s₁.store.guestError r) (releasing s.store.bridge name s₁.tracked
    (s₁.leaving (surface name s₁.store.guestError r))).1 at hl
  -- A message stands in for results and traps, never for lack of memory.
  cases hs : surface name s₁.store.guestError r with
  | error e =>
    rw [hs] at hl
    obtain rfl : .outOfMemory requested = e := Except.error.inj hl
    rw [surface_short_iff] at hs
    rw [hs] at hb
    exact ha.shortage_of_body hb hu
  | ok v =>
    cases hc : (releasing s.store.bridge name s₁.tracked
      (s₁.leaving (surface name s₁.store.guestError r))).1 with
    | none =>
      rw [hs] at hl hc
      rw [hc] at hl
      cases hl
    | some e =>
      have he : e = .outOfMemory requested := by
        rw [hs] at hl hc
        rw [hc] at hl
        exact (Except.error.inj hl).symm
      subst he
      cases hbr : s.store.bridge with
      | none =>
        rw [hbr] at hc
        cases hc
      | some b =>
        rw [hbr] at hc
        obtain ⟨before, block, after, stop, m, ht, hn, hx, he⟩ := of_releaseAll_failed hc
        have hr : s.Enters name body .releasing b.dealloc [.i32 block.ptr, .i32 block.len] _ :=
          .releasing body r s₁ b before after block hb hbr ht hn
        exact hr.shortage_of_stopped (ha.arrives_releasing hb hbr before hn) hx (.inl rfl) he hu

/-- A host function that fails in a call is one that the module imports. -/
theorem Meets.imported (ha : s.Accepts name t body) {depth : Nat} {f : HostFunction H}
    {thrown : Thrown} {s₁ : Stage g H} (h : s.Meets name body purpose depth f thrown s₁) :
    .function f ∈ s.providers := by
  obtain ⟨enters, -, comes, step, bound, -⟩ := h
  rename_i function _ args s₀ left index nested args' caller code code' s' u
  have hs : s'.providers = s.providers :=
    (congrArg Fixed.providers comes.fixed_eq).trans (congrArg Fixed.providers (enters.steady ha))
  rw [← hs]
  exact Array.mem_of_getElem? bound

theorem unprompted_of_no_functions (ha : s.Accepts name t body)
    (hn : ∀ f, .function f ∉ s.providers) : s.Unprompted name body requested :=
  fun _ _ f _ _ h => absurd (h.imported ha) (hn f)

end Call

end Stage

namespace Instance

def recalling (i : Instance g H) (refused : Option Nat) : Instance g H :=
  { i with store := { i.store with limit := { i.store.limit with refused } } }

end Instance

namespace Wasm

/-- A module whose export asks for seven more pages and traps, whatever the answer. -/
def starving : Program := { echo with
  functions := #[
    ⟨⟨[.i32], [.i32]⟩, [], [.const (.i32 1024), .end_]⟩,
    ⟨⟨[.i32, .i32], []⟩, [], [.end_]⟩,
    ⟨⟨[.i32, .i32], [.i64]⟩, [],
      [.const (.i32 7), .memoryGrow 0, .drop, .unreachable, .end_]⟩] }

def starved : Instance engine Unit := { echoing.toInstance with
  module := starving
  store := { Store.ofSettings { maxMemoryPages := 1 } with bridge := some ⟨0, 0, 1⟩ } }

end Wasm

namespace Plugin
open Stage

def recalling (p : Plugin g H) (refused : Option Nat) : Plugin g H :=
  { p with live := p.live.map fun i => i.recalling refused }

theorem alike_recalling (p : Plugin g H) (refused : Option Nat) :
    p.Alike (p.recalling refused) := by
  obtain ⟨m, settings, live⟩ := p
  cases live with
  | none => exact .closed m settings
  | some i =>
    have hs : i.store.Alike (i.recalling refused).store := ⟨rfl, rfl, rfl, rfl, rfl, rfl, rfl, rfl⟩
    exact .live m settings i _ ⟨rfl, rfl, rfl, hs, .inl rfl⟩

/-- A lack of memory is never put down to something else. A call that answers with one, and not
because a host function failed so, needed a buffer of just that length itself, for which no
allocator can be asked, or there was none, or the allocator failed in a call in which growth was
refused; or its guest code failed after growth was refused, for the last time to just that size, and
since the call began. Nothing that was refused before has any part in the answer. -/
theorem lack_of_memory_attributed {name : String} {t : Task g H α} (ht : Calling name t)
    (p : Plugin g H) (w : World H) :
    (∀ refused, ((calling name t).run (p.recalling refused, w)).1 =
      ((calling name t).run (p, w)).1) ∧
    ∀ requested, ((calling name t).run (p, w)).1 = .error (.outOfMemory requested) →
      (∀ i body, p.live = some i → Accepts ⟨i, w, []⟩ name t body →
        Unprompted ⟨i, w, []⟩ name body requested) →
      ∃ i body, p.live = some i ∧ Accepts ⟨i, w, []⟩ name t body ∧
        Shortage ⟨i, w, []⟩ name body requested := by
  refine ⟨fun refused => (calling_alike (p.alike_recalling refused) ht w).reply.symm,
    fun requested h hu => ?_⟩
  cases hl : p.live with
  | none =>
    rw [run_calling_closed name t hl] at h
    cases h
  | some i =>
    rw [(run_calling name t hl w (Prod.eta _).symm).1] at h
    obtain ⟨body, ha⟩ | ⟨e, he⟩ := ht ⟨i, w, []⟩
    · exact ⟨i, body, rfl, ha, ha.shortage h (hu i body hl ha)⟩
    · rw [he.run_eq] at h
      obtain rfl : e = .outOfMemory requested := Except.error.inj h
      obtain hk | hk | ⟨hk, -⟩ := he.kind <;> cases hk

open Wasm in
/-- The eight pages that the export would have come to, which one page is too few for. -/
theorem starved_call_attributed :
    ((calling "echo" (Stage.call "echo" [1])).run
        (⟨starving, { maxMemoryPages := 1 }, some starved⟩, echoing.world)).1 =
      .error (.outOfMemory 524288) ∧
    ∃ i body, some starved = some i ∧
      Accepts ⟨i, echoing.world, []⟩ "echo" (Stage.call "echo" [1]) body ∧
      Shortage ⟨i, echoing.world, []⟩ "echo" body 524288 := by
  have hr : ((calling "echo" (Stage.call "echo" [1])).run
      (⟨starving, { maxMemoryPages := 1 }, some starved⟩, echoing.world)).1 =
        .error (.outOfMemory 524288) := by
    decide +kernel
  refine ⟨hr, (lack_of_memory_attributed (call_calling "echo" [1]) _ echoing.world).2 _ hr
    fun i body hi ha => unprompted_of_no_functions ha fun f hf => ?_⟩
  obtain rfl := Option.some.inj hi
  exact absurd hf (Array.not_mem_empty _)

end Plugin

end PluginHost
