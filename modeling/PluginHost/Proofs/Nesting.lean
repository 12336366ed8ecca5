import PluginHost.Proofs.Callables
import PluginHost.Proofs.Inquiries
/-!
How guest code comes to run in the midst of other guest code. Either the allocator runs for what an
imported function hands over, or a host function has octets written; there is no other way. What
ends the inner guest code ends the outer in the one case, and is told to the host function in the
other.
-/
namespace PluginHost
variable {g : Guest} {H α : Type}

namespace Program
variable {run : Runner g H} {function : String} {p q : Program H α} {b : Bridge} {bytes : Bytes}
  {next : Except Failure Block → Program H α} {s s₁ s' m : Stage g H}

structure Writes (run : Runner g H) (function : String) (p : Program H α) (s : Stage g H)
    (b : Bridge) (bytes : Bytes) (next : Except Failure Block → Program H α) (s' : Stage g H) :
    Prop where
  gets : p.Gets run function s (.write bytes next) s'
  bridge : s'.store.bridge = some b
  nonempty : bytes ≠ []
  short : bytes.length ≤ Buffer.maxLength

theorem Writes.of_turn (ht : p.turn run function s = some (q, s₁))
    (h : q.Writes run function s₁ b bytes next s') : p.Writes run function s b bytes next s' :=
  ⟨.turn _ _ _ _ _ _ ht h.gets, h.bridge, h.nonempty, h.short⟩

/-- Guest code that runs in the midst of a host function is the allocator, for octets that are to be
written. -/
theorem During.writes {inside : Runs g H} {f : HostFunction H} {code : g.Code}
    (h : p.During run inside f s (.running code) m) :
    ∃ b bytes next s', p.Writes run f.name s b bytes next s' ∧
      inside b.alloc [.i32 (UInt32.ofNat bytes.length)]
        (s'.note (.asked (UInt32.ofNat bytes.length))) (.running code) m := by
  -- What comes after the next request comes of the host function.
  have hturn {p q : Program H α} {s s₁ : Stage g H} (ht : p.turn run f.name s = some (q, s₁))
      (h : ∃ b bytes next s', q.Writes run f.name s₁ b bytes next s' ∧
        inside b.alloc [.i32 (UInt32.ofNat bytes.length)]
          (s'.note (.asked (UInt32.ofNat bytes.length))) (.running code) m) :
      ∃ b bytes next s', p.Writes run f.name s b bytes next s' ∧
        inside b.alloc [.i32 (UInt32.ofNat bytes.length)]
          (s'.note (.asked (UInt32.ofNat bytes.length))) (.running code) m := by
    obtain ⟨b, bytes, next, s', hw, hi⟩ := h
    exact ⟨b, bytes, next, s', hw.of_turn ht, hi⟩
  have hidle : Activity.running code ≠ .working f := nofun
  induction p generalizing s with
  | done a => exact absurd h.1 hidle
  | fail e => exact absurd h.1 hidle
  | panic e => exact absurd h.1 hidle
  | remember change next ih => exact hturn rfl (ih _ (h.resolve_left fun hw => hidle hw.1))
  | exportName next ih => exact hturn rfl (ih _ h)
  | memorySize next ih => exact hturn rfl (ih _ h)
  | callBack target next ih => exact hturn rfl (ih _ (h.resolve_left fun hw => hidle hw.1))
  | read ptr len next ih =>
    unfold During at h
    cases hs : s.store.bridge <;> rw [hs] at h <;>
      exact hturn (by simp only [turn, hs]) (ih _ h)
  | write bytes next ih =>
    unfold During at h
    have h := h.resolve_left fun hw => hidle hw.1
    cases hs : s.store.bridge with
    | none =>
      rw [hs] at h
      exact hturn (by simp only [turn, hs]) (ih _ h)
    | some b =>
      rw [hs] at h
      obtain hd | h := h
      · exact ⟨b, bytes, next, s, ⟨.here _ _, hs, hd.nonempty, hd.short⟩, hd.allocating⟩
      · obtain ⟨r, u, hr⟩ : ∃ r u, (Buffer.placeForCall run b bytes).run s = (r, u) := ⟨_, _, rfl⟩
        rw [hr] at h
        exact hturn (by simp only [turn, hs, hr]) (ih _ h)

end Program

namespace Stage
variable {n depth left : Nat} {code code' : g.Code} {s u m : Stage g H}

/-- Guest code here, with so many steps left, waits for a host function that asks in the given stage
to have octets written; the allocator that runs for them leads to the guest code there. -/
inductive Writes (n : Nat) (code : g.Code) (s : Stage g H) (f : HostFunction H) (nested : Nat)
    (bytes : Bytes) (next : Except Failure Block → Program H α) (s' : Stage g H) :
    (depth left : Nat) → g.Code → Stage g H → Prop
  | calling {depth left : Nat} {args : List Value} {caller : Caller} {code' : g.Code}
      {v s₁ u : Stage g H} {p : Program H α} {b : Bridge}
      (calls : s.Calls code (.function f) caller args nested v)
      (starts : ImportCall.Starts v f args p s₁)
      (writes : p.Writes (runner s.module n nested) f.name s₁ b bytes next s')
      (comes : Comes depth n (g.enter s.module nested b.alloc [.i32 (UInt32.ofNat bytes.length)])
        (s'.note (.asked (UInt32.ofNat bytes.length))) left code' u) :
      Writes n code s f nested bytes next s' depth left code' u

/-- Guest code that starts here gets to other guest code, with so many steps left: on a way of its
own, or out of the midst of a host function. -/
inductive Passes (n : Nat) (code : g.Code) (s : Stage g H) :
    (left : Nat) → g.Code → Stage g H → Prop
  | along {depth left : Nat} {code' : g.Code} {u : Stage g H}
      (comes : Comes depth n code s left code' u) : Passes n code s left code' u
  | inside {depth left left' : Nat} {code' code'' : g.Code} {u s' u' : Stage g H}
      {f : HostFunction H} {nested : Nat} {α : Type} {bytes : Bytes}
      {next : Except Failure Block → Program H α} (outer : Passes n code s (left + 1) code' u)
      (writes : u.Writes left code' f nested bytes next s' depth left' code'' u') :
      Passes n code s left' code'' u'

theorem Passes.after {n₁ : Nat} {code₁ : g.Code} {s₁ : Stage g H}
    (h : ∀ depth left code' u, Comes depth n₁ code₁ s₁ left code' u → Passes n code s left code' u)
    (hl : Passes n₁ code₁ s₁ left code' u) : Passes n code s left code' u := by
  induction hl with
  | along comes => exact h _ _ _ _ comes
  | inside outer writes ih => exact .inside ih writes

/-- All guest code that runs at some moment is led to in this way. -/
theorem During.passes (hd : During n code s (.running code') m) :
    ∃ left, Passes n code s (left + 1) code' m := by
  induction n generalizing code s with
  | zero => cases hd.1
  | succ n ih =>
    -- The rest of the way comes after one step.
    have hstep {code₁ : g.Code} {s₁ : Stage g H} (ha : Advances n code s code₁ s₁)
        (hd : During n code₁ s₁ (.running code') m) :
        ∃ left, Passes (n + 1) code s (left + 1) code' m := by
      obtain ⟨left, hl⟩ := ih hd
      exact ⟨left, hl.after fun _ _ _ _ hc => .along (.step ha hc)⟩
    unfold During at hd
    rcases hd with ⟨ha, rfl⟩ | hd
    · obtain rfl := Activity.running.inj ha
      exact ⟨n, .along .here⟩
    · split at hd
      · rename_i hc
        exact hstep (.next hc) hd
      · rename_i hc
        dsimp only at hd
        split at hd
        · cases hd.1
        · rename_i he
          exact hstep (.check hc he) hd
      · rename_i hc
        exact hstep (.growMemory hc) hd
      · rename_i hc
        exact hstep (.growTable hc) hd
      · rename_i index args caller depth code₁ t hc
        split at hd
        · cases hd.1
        · rename_i p hp
          have hv : s.Calls code p caller args depth { s with guest := t } :=
            .call index depth args caller code₁ t p hc hp
          rcases hd with hd | hd
          · -- The host function's own requests, or the buffer for what it hands over.
            have hown {α : Type} {f : HostFunction H} {q : Program H α} {s₁ : Stage g H}
                (hf : p = .function f)
                (hs : ImportCall.Starts { s with guest := t } f args q s₁)
                (hq : q.During (runner s.module n depth)
                  (fun function args s' => During n (g.enter s.module depth function args) s')
                  f s₁ (.running code') m) :
                ∃ left, Passes (n + 1) code s (left + 1) code' m := by
              subst hf
              obtain ⟨b, bytes, next, s', hw, hi⟩ := hq.writes
              obtain ⟨left, hl⟩ := ih hi
              exact ⟨left, hl.after fun _ _ _ _ hc => .inside (.along .here) (.calling hv hs hw hc)⟩
            cases hd with
            | values f body args a m calling raw during =>
              exact hown rfl (.values body args calling raw) during
            | octets f body b ptr len input a m calling octets bridge read during =>
              exact hown rfl (.octets body b ptr len input calling octets bridge read) during
            | answering p args b output s₁ a m answers during =>
              obtain ⟨left, hl⟩ := ih during.allocating
              exact ⟨left, hl.after fun _ _ _ _ hw =>
                .along (.allocating hc hp answers during.nonempty during.short hw)⟩
          · split at hd <;> rename_i hr
            · exact hstep (.called hc hp hr) hd
            · cases hd.1
      · cases hd.1
      · cases hd.1

/-- A failure of the inner guest code is what the host function is told, unless growth had been
refused, when it can be told of a lack of memory. -/
theorem Writes.turn_eq {f : HostFunction H} {nested : Nat} {bytes : Bytes}
    {next : Except Failure Block → Program H α} {s' : Stage g H}
    (h : s.Writes n code f nested bytes next s' depth left code' u) {e : Failure}
    (he : execute left code' u = (.error (.raised e), m)) :
    ∃ e', (Program.write bytes next).turn (runner s.module n nested) f.name s' =
        some (next (.error e'), m) ∧
      m.store.Emerges e (depth + 1) e' := by
  obtain ⟨calls, starts, writes, comes⟩ := h
  rename_i args caller v s₁ p b
  obtain ⟨e', hx, hs⟩ := comes.execute_eq he
  have hw : (Buffer.placeForCall (runner s.module n nested) b bytes).run s' =
      (.error (m.misread bytes.length e'), m) :=
    placeForCall_stopped writes.nonempty writes.short hx
  exact ⟨_, by simp only [Program.turn, writes.bridge, hw], emerges_misread hs bytes.length⟩

end Stage

end PluginHost
