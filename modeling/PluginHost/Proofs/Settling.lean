import PluginHost.Proofs.Accounts
/-!
Routines that call nothing of the host, apart from the machine that takes their steps: what they
come to and the heap that they leave, as functions of the heap that they find. The machine comes to
the same.
-/
namespace PluginHost
open GuestKit

namespace GuestKit

namespace Allocator

def give (a : Allocator) (h : Heap) (length : Nat) : Option Nat × Heap :=
  match a.place h length with
  | some p => (some p, h.allocated ⟨p, length⟩)
  | none => (none, h.refused)

/-- The heap in which a place is sought. It has grown if there was none before, and if memory may
have the size that it would take. -/
def room (a : Allocator) (grant : Nat → Bool) (h : Heap) (length : Nat) : Heap :=
  match a.place h length, a.growth h length with
  | none, some octets => if grant (h.size + octets) then h.grown octets else h
  | _, _ => h

theorem room_eq (a : Allocator) (grant : Nat → Bool) (h : Heap) (length : Nat) :
    ∃ size, h.size ≤ size ∧ a.room grant h length = { h with size } := by
  unfold room
  split
  · split
    · exact ⟨_, Nat.le_add_right _ _, rfl⟩
    · exact ⟨_, Nat.le_refl _, rfl⟩
  · exact ⟨_, Nat.le_refl _, rfl⟩

end Allocator

theorem Build.serve_eq (b : Build) (h : Heap) (depth length : Nat)
    (next : Option Nat → Routine (List Value)) :
    b.serve h depth length next =
      .next 1 (.running depth (next (b.allocator.give h length).1))
        (b.allocator.give h length).2 := by
  unfold serve Allocator.give
  cases b.allocator.place h length <;> rfl

namespace Routine
variable {α β : Type}

/-- What a routine comes to on a heap, and the heap that it leaves. There is nothing that it could
call. -/
def settle (a : Allocator) (grant : Nat → Bool) : Routine α → Heap → Except TrapCause α × Heap
  | .done x, h => (.ok x, h)
  | .abort, h => (.error .unreachable, h)
  | .allocate length next, h =>
    let (p, t) := a.give (a.room grant h length) length
    (next p).settle a grant t
  | .release address length next, h => next.settle a grant (h.release ⟨address, length⟩)
  | .load address length next, h =>
    if address + length ≤ h.size then (next (h.read address length)).settle a grant h
    else (.error .memoryOutOfBounds, h)
  | .store address bytes next, h =>
    if address + bytes.length ≤ h.size then next.settle a grant (h.write address bytes)
    else (.error .memoryOutOfBounds, h)
  | .call .., h => (.error .unreachable, h)

section Settle
variable (a : Allocator) (grant : Nat → Bool) {h : Heap} {address : Nat}

theorem settle_load {length : Nat} (next : Bytes → Routine α)
    (hi : address + length ≤ h.size) :
    (load address length next).settle a grant h =
      (next (h.read address length)).settle a grant h := if_pos hi

theorem settle_load_outside {length : Nat} (next : Bytes → Routine α)
    (hi : ¬ address + length ≤ h.size) :
    (load address length next).settle a grant h = (.error .memoryOutOfBounds, h) := if_neg hi

theorem settle_store {bytes : Bytes} (next : Routine α)
    (hi : address + bytes.length ≤ h.size) :
    (store address bytes next).settle a grant h = next.settle a grant (h.write address bytes) :=
  if_pos hi

theorem settle_store_outside {bytes : Bytes} (next : Routine α)
    (hi : ¬ address + bytes.length ≤ h.size) :
    (store address bytes next).settle a grant h = (.error .memoryOutOfBounds, h) := if_neg hi

/-- A routine settles before what goes on with its result. -/
theorem settle_bind (r : Routine α) (f : α → Routine β) (h : Heap) :
    (r.bind f).settle a grant h =
      match r.settle a grant h with
      | (.ok x, t) => (f x).settle a grant t
      | (.error cause, t) => (.error cause, t) := by
  induction r generalizing h with
  | done x => rfl
  | abort => rfl
  | allocate length next ih => exact ih _ _
  | release address length next ih => exact ih _
  | load address length next ih =>
    unfold bind
    by_cases hi : address + length ≤ h.size
    · rw [settle_load a grant _ hi, settle_load a grant _ hi]
      exact ih _ h
    · rw [settle_load_outside a grant _ hi, settle_load_outside a grant _ hi]
  | store address bytes next ih =>
    unfold bind
    by_cases hi : address + bytes.length ≤ h.size
    · rw [settle_store a grant _ hi, settle_store a grant _ hi]
      exact ih _
    · rw [settle_store_outside a grant _ hi, settle_store_outside a grant _ hi]
  | call index args next ih => rfl

end Settle

/-- A routine that calls nothing and takes at most so many steps before it ends. A request may take
two, since memory may have to grow. -/
inductive Brief : Nat → Routine α → Prop where
  | done {k : Nat} (x : α) : Brief k (.done x)
  | abort {k : Nat} : Brief k .abort
  | allocate {k length : Nat} {next : Option Nat → Routine α} (h : ∀ p, Brief k (next p)) :
    Brief (k + 2) (.allocate length next)
  | release {k address length : Nat} {next : Routine α} (h : Brief k next) :
    Brief (k + 1) (.release address length next)
  | load {k address length : Nat} {next : Bytes → Routine α} (h : ∀ bytes, Brief k (next bytes)) :
    Brief (k + 1) (.load address length next)
  | store {k address : Nat} {bytes : Bytes} {next : Routine α} (h : Brief k next) :
    Brief (k + 1) (.store address bytes next)

theorem Brief.bind {k j : Nat} {r : Routine α} {f : α → Routine β} (hr : r.Brief k)
    (hf : ∀ i x, (f x).Brief (i + j)) : (r.bind f).Brief (k + j) := by
  induction hr with
  | done x => exact hf _ x
  | abort => exact .abort
  | @allocate k _ _ _ ih =>
    rw [Nat.add_right_comm k 2 j]
    exact .allocate ih
  | @release k _ _ _ _ ih =>
    rw [Nat.add_right_comm k 1 j]
    exact .release ih
  | @load k _ _ _ _ ih =>
    rw [Nat.add_right_comm k 1 j]
    exact .load ih
  | @store k _ _ _ _ ih =>
    rw [Nat.add_right_comm k 1 j]
    exact .store ih

end Routine

end GuestKit

namespace Stage
variable {steps : Nat} {H : Type} {s s' : Stage (Build.machine steps) H}

def grants (s : Stage (Build.machine steps) H) (desired : Nat) : Bool :=
  (s.store.limit.askMemory desired s.module.maximum).1

theorem grants_of_fixed (h : s'.fixed = s.fixed) : s'.grants = s.grants := by
  have hm : s'.module = s.module := congrArg Fixed.module h
  have hl : s'.store.limit.maxMemoryBytes = s.store.limit.maxMemoryBytes :=
    congrArg Fixed.maxMemoryBytes h
  funext desired
  unfold grants GrowthLimit.askMemory
  rw [hm, hl]
  split <;> rfl

def room (s : Stage (Build.machine steps) H) (length : Nat) : Heap :=
  s.module.allocator.room s.grants s.guest length

def settle (s : Stage (Build.machine steps) H) (r : Routine (List Value)) :
    Except TrapCause (List Value) × Heap :=
  r.settle s.module.allocator s.grants s.guest

structure Settles (s : Stage (Build.machine steps) H) (r : Routine (List Value))
    (out : Ending × Stage (Build.machine steps) H) : Prop where
  ending : out.1 = (s.settle r).1.mapError .trapped
  guest : out.2.guest = (s.settle r).2
  fixed : out.2.fixed = s.fixed

variable {r r' : Routine (List Value)} {out : Ending × Stage (Build.machine steps) H}

theorem Settles.of_rest (h : s'.Settles r' out) (hf : s'.fixed = s.fixed)
    (hr : r'.settle s.module.allocator s.grants s'.guest = s.settle r) : s.Settles r out := by
  have hm : s'.module = s.module := congrArg Fixed.module hf
  have he : s'.settle r' = s.settle r := by
    rw [← hr, ← grants_of_fixed hf, ← hm]
    rfl
  exact ⟨he ▸ h.ending, he ▸ h.guest, h.fixed.trans hf⟩

theorem Settles.serve {n d length : Nat} {code : Build.Code}
    {next : Option Nat → Routine (List Value)}
    (hnext : ∀ p (s'' : Stage (Build.machine steps) H),
      s''.Settles (next p) (execute n (Build.Code.running d (next p)) s''))
    (hf : s'.fixed = s.fixed)
    (hs : Build.step s'.module code s'.guest = s.module.serve (s.room length) d length next) :
    s.Settles (.allocate length next) (execute (n + 1) code s') := by
  rw [Build.serve_eq] at hs
  rw [execute_next n hs]
  exact (hnext _ _).of_rest hf rfl

theorem Settles.allocate {n d length : Nat} {next : Option Nat → Routine (List Value)}
    (hnext : ∀ m p (s'' : Stage (Build.machine steps) H), n ≤ m →
      s''.Settles (next p) (execute m (Build.Code.running d (next p)) s'')) :
    s.Settles (.allocate length next)
      (execute (n + 2) (Build.Code.running d (.allocate length next)) s) := by
  have hstep : Build.step s.module (.running d (.allocate length next)) s.guest =
      match s.module.allocator.place s.guest length,
          s.module.allocator.growth s.guest length with
      | none, some octets =>
        .growMemory s.guest.size (s.guest.size + octets) s.module.maximum
          (.growing d octets length false next) s.guest
      | _, _ => s.module.serve s.guest d length next := rfl
  have hroom : s.room length =
      match s.module.allocator.place s.guest length,
          s.module.allocator.growth s.guest length with
      | none, some octets =>
        if s.grants (s.guest.size + octets) then s.guest.grown octets else s.guest
      | _, _ => s.guest := rfl
  split at hroom
  · rename_i octets hp hg
    rw [hp, hg] at hstep
    rw [execute_growMemory (n + 1) hstep]
    have hf := (askMemory_ticks s s.guest.size (s.guest.size + octets) s.module.maximum).fixed_eq
    have hm : (askMemory s s.guest.size (s.guest.size + octets) s.module.maximum).2.module =
        s.module := congrArg Fixed.module hf
    refine Settles.serve (hnext n · · (Nat.le_refl n)) hf ?_
    rw [hroom, askMemory_guest, hm]
    rfl
  · rename_i hn
    refine Settles.serve (hnext (n + 1) · · (Nat.le_succ n)) rfl ?_
    rw [hstep, hroom]
    split
    · rename_i hp hg
      exact (hn _ hp hg).elim
    · rfl

theorem Settles.trapped {n d : Nat} {cause : TrapCause}
    (hs : Build.step s.module (.running d r) s.guest = .trapped cause s.guest)
    (hr : s.settle r = (.error cause, s.guest)) :
    s.Settles r (execute (n + 1) (Build.Code.running d r) s) := by
  have hg : (Build.machine steps).step s.module (Build.Code.running d r) s.guest =
      .trapped cause s.guest := hs
  rw [execute_succ, hg]
  exact ⟨by rw [hr]; rfl, by rw [hr], rfl⟩

/-- The machine comes to what a routine comes to, and leaves the heap that it leaves. -/
theorem execute_settles {k n : Nat} {d : Nat} (hr : r.Brief k) (hn : k < n)
    (s : Stage (Build.machine steps) H) :
    s.Settles r (execute n (Build.Code.running d r) s) := by
  induction hr generalizing n s with
  | done results =>
    cases n with
    | zero => omega
    | succ n => exact ⟨rfl, rfl, rfl⟩
  | abort =>
    cases n with
    | zero => omega
    | succ n => exact ⟨rfl, rfl, rfl⟩
  | allocate _ ih =>
    match n, hn with
    | n + 2, hn => exact .allocate fun m p s' hm => ih p (by omega) s'
  | release _ ih =>
    cases n with
    | zero => omega
    | succ n =>
      rw [execute_next n rfl]
      exact (ih (by omega) _).of_rest rfl rfl
  | @load k address length next _ ih =>
    cases n with
    | zero => omega
    | succ n =>
      by_cases hi : address + length ≤ s.guest.size
      · have hs : Build.step s.module (.running d (.load address length next)) s.guest =
            .next 1 (.running d (next (s.guest.read address length))) s.guest := if_pos hi
        rw [execute_next n hs]
        exact (ih _ (by omega) _).of_rest rfl (Routine.settle_load _ _ next hi).symm
      · exact .trapped (if_neg hi) (Routine.settle_load_outside _ _ next hi)
  | @store k address bytes next _ ih =>
    cases n with
    | zero => omega
    | succ n =>
      by_cases hi : address + bytes.length ≤ s.guest.size
      · have hs : Build.step s.module (.running d (.store address bytes next)) s.guest =
            .next 1 (.running d next) (s.guest.write address bytes) := if_pos hi
        rw [execute_next n hs]
        exact (ih (by omega) _).of_rest rfl (Routine.settle_store _ _ next hi).symm
      · exact .trapped (if_neg hi) (Routine.settle_store_outside _ _ next hi)

end Stage

end PluginHost
