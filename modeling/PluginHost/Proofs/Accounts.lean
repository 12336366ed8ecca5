import PluginHost.Proofs.Allocation
import PluginHost.Proofs.Success
/-!
The books of a call into a build. What is live is what the call owns and what was live before; the
allocator adds to it, and each buffer that the host puts octets into for guest code moves to the
call. So a host function leaves the books in order, however many buffers it asks for, and writes
nothing into what guest code holds.
-/
namespace PluginHost
open GuestKit

def HostFunction.OnBytes {H : Type} (f : HostFunction H) : Prop :=
  f.signature = .bytes ∧ ∃ body, f.callable = .bytes body

instance {H : Type} (f : HostFunction H) : Decidable f.OnBytes :=
  match h : f.callable with
  | .bytes body =>
    decidable_of_iff (f.signature = .bytes) ⟨fun hs => ⟨hs, body, h⟩, fun hf => hf.1⟩
  | .raw _ => .isFalse fun hf => by
    obtain ⟨-, body, hb⟩ := hf
    cases h.symm.trans hb

def Provider.function? {H : Type} : Provider H → Option (HostFunction H)
  | .function f => some f
  | _ => none

def OctetsAt {H : Type} (providers : Array (Provider H)) (index : Nat) : Prop :=
  ∃ f, providers[index]? = some (.function f) ∧ f.OnBytes

theorem octetsAt_iff {H : Type} (providers : Array (Provider H)) (index : Nat) :
    OctetsAt providers index ↔ ∃ f ∈ providers[index]?.bind Provider.function?, f.OnBytes := by
  constructor
  · rintro ⟨f, hp, hf⟩
    exact ⟨f, Option.bind_eq_some_iff.mpr ⟨_, hp, rfl⟩, hf⟩
  · rintro ⟨f, hm, hf⟩
    obtain ⟨p, hp, he⟩ := Option.bind_eq_some_iff.mp hm
    cases p with
    | function g =>
      obtain rfl := Option.some.inj he
      exact ⟨g, hp, hf⟩
    | service sv => cases he
    | unresolved ns name signature => cases he
    | system c => cases he
    | noSystem name signature => cases he

instance {H : Type} (providers : Array (Provider H)) (index : Nat) :
    Decidable (OctetsAt providers index) := decidable_of_iff' _ (octetsAt_iff providers index)

namespace Stage

structure Aside {g : Guest} {H : Type} (s s' : Stage g H) : Prop where
  fixed : s'.fixed = s.fixed
  tracked : s'.tracked = s.tracked
  message : s'.store.guestError = s.store.guestError
  served : Deeds.served s'.record = Deeds.served s.record

namespace Aside
variable {g : Guest} {H : Type} {s s' s'' : Stage g H}

theorem refl (s : Stage g H) : s.Aside s := ⟨rfl, rfl, rfl, rfl⟩

theorem trans (h : s.Aside s') (h' : s'.Aside s'') : s.Aside s'' where
  fixed := h'.fixed.trans h.fixed
  tracked := h'.tracked.trans h.tracked
  message := h'.message.trans h.message
  served := h'.served.trans h.served

end Aside

variable {steps : Nat} {H : Type} {F : Fixed (Build.machine steps) H} {h : Heap}
  {own : List Stretch} {served : List Served} {s s' : Stage (Build.machine steps) H}

/-- What is live in the midst of a call is what the call owns and some stretches more, and nothing
was refused or released amiss since a heap was seen. -/
structure Books (F : Fixed (Build.machine steps) H) (h : Heap) (own : List Stretch)
    (served : List Served) (s : Stage (Build.machine steps) H) : Prop where
  fixed : s.fixed = F
  live : s.guest.live.Perm (s.tracked.map Block.stretch ++ own)
  strays : s.guest.strays = h.strays
  refusals : s.guest.refusals = h.refusals
  room : 0 < s.guest.size
  proper : ∀ b ∈ s.tracked, b.Proper
  silent : s.store.guestError = none
  served : Deeds.served s.record = served

namespace Books

theorem of_aside {own' : List Stretch} (hb : s.Books F h own served) (ha : s.Aside s')
    (live : s'.guest.live.Perm (s.tracked.map Block.stretch ++ own'))
    (strays : s'.guest.strays = s.guest.strays) (refusals : s'.guest.refusals = s.guest.refusals)
    (size : s.guest.size ≤ s'.guest.size) : s'.Books F h own' served where
  fixed := ha.fixed.trans hb.fixed
  live := by rwa [ha.tracked]
  strays := strays.trans hb.strays
  refusals := refusals.trans hb.refusals
  room := Nat.lt_of_lt_of_le hb.room size
  proper := by
    rw [ha.tracked]
    exact hb.proper
  silent := ha.message.trans hb.silent
  served := ha.served.trans hb.served

theorem of_same (hb : s.Books F h own served) (ha : s.Aside s') (hg : s'.guest = s.guest) :
    s'.Books F h own served :=
  hb.of_aside ha (by rw [hg]; exact hb.live) (by rw [hg]) (by rw [hg])
    (Nat.le_of_eq (congrArg Heap.size hg).symm)

theorem mem_live (hb : s.Books F h own served) {t : Stretch} (ht : t ∈ own) :
    t ∈ s.guest.live := hb.live.mem_iff.mpr (List.mem_append_right _ ht)

end Books

structure Fixed.Kitted (F : Fixed (Build.machine steps) H) (b : Bridge) : Prop where
  bridge : F.bridge = some b
  memory : b.memory = 0
  calling : F.calling.isSome
  alloc : F.module.function b.alloc = Entry.alloc

namespace Fixed.Kitted
variable {b : Bridge} (hk : F.Kitted b)
include hk

theorem bridge_eq (hs : s.fixed = F) : s.store.bridge = some b :=
  (congrArg Fixed.bridge hs).trans hk.bridge

theorem call_isSome (hs : s.fixed = F) : s.store.call.isSome := by
  have hf : s.fixed.calling.isSome := by rw [hs, hk.calling]
  simpa [Stage.fixed] using hf

end Fixed.Kitted

def stepped (s : Stage (Build.machine steps) H) (cost : Nat) (t : Heap) :
    Stage (Build.machine steps) H :=
  { s with guest := t }.updateStore fun u => u.spend cost

theorem stepped_aside (s : Stage (Build.machine steps) H) (cost : Nat) (t : Heap) :
    s.Aside (s.stepped cost t) := ⟨rfl, rfl, rfl, rfl⟩

structure Spares (own : List Stretch) (s s' : Stage (Build.machine steps) H) : Prop where
  size : s.guest.size ≤ s'.guest.size
  read : ∀ t ∈ own, s'.guest.read t.address t.length = s.guest.read t.address t.length

namespace Spares
variable {s'' : Stage (Build.machine steps) H}

theorem of_guest (hg : s'.guest = s.guest) : s.Spares own s' := by
  refine ⟨Nat.le_of_eq (congrArg Heap.size hg).symm, fun t _ => ?_⟩
  rw [hg]

theorem trans (h : s.Spares own s') (h' : s'.Spares own s'') : s.Spares own s'' :=
  ⟨Nat.le_trans h.size h'.size, fun t ht => (h'.read t ht).trans (h.read t ht)⟩

theorem after (h : s'.Spares own s'') (hg : s'.guest = s.guest) : s.Spares own s'' :=
  (of_guest hg).trans h

theorem of_cons {t : Stretch} (h : s.Spares (t :: own) s') : s.Spares own s' :=
  ⟨h.size, fun u hu => h.read u (List.mem_cons_of_mem t hu)⟩

end Spares

theorem askMemory_aside (s : Stage (Build.machine steps) H) (current desired : Nat)
    (maximum : Option Nat) : s.Aside (askMemory s current desired maximum).2 := by
  have hf := (askMemory_ticks s current desired maximum).fixed_eq
  unfold askMemory at hf ⊢
  dsimp only at hf ⊢
  split
  · rename_i ha
    rw [if_pos ha] at hf
    exact ⟨hf, rfl, rfl, rfl⟩
  · rename_i ha
    rw [if_neg ha] at hf
    exact ⟨hf, rfl, rfl, rfl⟩

theorem askMemory_guest (s : Stage (Build.machine steps) H) (current desired : Nat)
    (maximum : Option Nat) : (askMemory s current desired maximum).2.guest = s.guest := by
  unfold askMemory
  dsimp only
  split <;> rfl

theorem execute_next (n : Nat) {code code' : Build.Code} {cost : Nat} {t : Heap}
    (hs : Build.step s.module code s.guest = .next cost code' t) :
    execute (n + 1) code s = execute n code' (s.stepped cost t) := by
  have hg : (Build.machine steps).step s.module code s.guest = .next cost code' t := hs
  rw [execute_succ, hg]
  rfl

theorem execute_growMemory (n : Nat) {code code' : Build.Code} {current desired : Nat}
    {maximum : Option Nat}
    (hs : Build.step s.module code s.guest = .growMemory current desired maximum code' s.guest) :
    execute (n + 1) code s =
      execute n (Build.answer (askMemory s current desired maximum).1 code')
        (askMemory s current desired maximum).2 := by
  have hg : (Build.machine steps).step s.module code s.guest =
      .growMemory current desired maximum code' s.guest := hs
  rw [execute_succ, hg]

/-- With at least so many steps, code that starts here comes to an end of which something is true,
or the call meets an obstacle. -/
def Leads (h : Heap) (all : List Served) (k : Nat) (code : Build.Code)
    (s : Stage (Build.machine steps) H) (Q : Ending → Stage (Build.machine steps) H → Prop) :
    Prop :=
  ∀ n, k ≤ n → (execute n code s).2.Orderly h all → Q (execute n code s).1 (execute n code s).2

structure Fits (t : Stretch) (s s' : Stage (Build.machine steps) H) : Prop where
  positive : 0 < t.address
  inside : t.stop ≤ s'.guest.size
  small : t.stop ≤ UInt32.size
  fresh : ∀ u ∈ s.guest.live, t.Apart u
  tracked : s'.tracked = s.tracked
  size : s.guest.size ≤ s'.guest.size
  octet : s'.guest.octet = s.guest.octet

namespace Fits
variable {t : Stretch}

theorem spares (hf : Fits t s s') : s.Spares own s' :=
  ⟨hf.size, fun _ _ => Heap.read_congr fun i _ _ => congrFun hf.octet i⟩

theorem spares_write (hf : Fits t s s') (hb : s.Books F h own served) {bytes : Bytes}
    (hl : bytes.length = t.length) {s'' : Stage (Build.machine steps) H}
    (hg : s''.guest = s'.guest.write t.address bytes) : s.Spares own s'' := by
  refine ⟨?_, fun u hu => ?_⟩
  · rw [hg]
    exact hf.size
  · rw [hg, Heap.read_write_apart (hf.fresh u (hb.mem_live hu)) hl]
    exact hf.spares.read u hu

end Fits

namespace Leads
variable {all : List Served} {k d : Nat} {Q : Ending → Stage (Build.machine steps) H → Prop}
  {code code' : Build.Code}

theorem mono {k' : Nat} (hl : s.Leads h all k code Q) (hk : k ≤ k') :
    s.Leads h all k' code Q := fun n hn => hl n (Nat.le_trans hk hn)

theorem of_refused (hr : h.refusals < s.guest.refusals) : s.Leads h all k code Q := by
  intro n _ ho
  have hg := (ho.of_onward (execute_onward n code s)).granted
  omega

theorem next {cost : Nat} {t : Heap}
    (hs : Build.step s.module code s.guest = .next cost code' t)
    (hl : (s.stepped cost t).Leads h all k code' Q) : s.Leads h all (k + 1) code Q := by
  intro n hn ho
  cases n with
  | zero => omega
  | succ n =>
    rw [execute_next n hs] at ho ⊢
    exact hl n (by omega) ho

theorem growMemory {current desired : Nat} {maximum : Option Nat}
    (hs : Build.step s.module code s.guest = .growMemory current desired maximum code' s.guest)
    (hl : (askMemory s current desired maximum).2.Leads h all k
      (Build.answer (askMemory s current desired maximum).1 code') Q) :
    s.Leads h all (k + 1) code Q := by
  intro n hn ho
  cases n with
  | zero => omega
  | succ n =>
    rw [execute_growMemory n hs] at ho ⊢
    exact hl n (by omega) ho

theorem done {results : List Value} (hq : Q (.ok results) s) :
    s.Leads h all (k + 1) (.running d (.done results)) Q := by
  intro n hn _
  cases n with
  | zero => omega
  | succ n => exact hq

theorem load {address length : Nat} {next : Bytes → Routine (List Value)}
    (hi : address + length ≤ s.guest.size)
    (hl : (s.stepped 1 s.guest).Leads h all k
      (.running d (next (s.guest.read address length))) Q) :
    s.Leads h all (k + 1) (.running d (.load address length next)) Q :=
  hl.next (if_pos hi)

theorem store {address : Nat} {bytes : Bytes} {next : Routine (List Value)}
    (hi : address + bytes.length ≤ s.guest.size)
    (hl : (s.stepped 1 (s.guest.write address bytes)).Leads h all k (.running d next) Q) :
    s.Leads h all (k + 1) (.running d (.store address bytes next)) Q :=
  hl.next (if_pos hi)

theorem release {address length : Nat} {next : Routine (List Value)}
    (hl : (s.stepped 1 (s.guest.release ⟨address, length⟩)).Leads h all k
      (.running d next) Q) :
    s.Leads h all (k + 1) (.running d (.release address length next)) Q :=
  hl.next rfl

/-- What the allocator gives is entered in the books. -/
theorem serve {t : Heap} {length : Nat} {next : Option Nat → Routine (List Value)}
    (hb : s.Books F h own served)
    (hs : Build.step s.module code s.guest = s.module.serve t d length next)
    (ht : t = { s.guest with size := t.size }) (size : s.guest.size ≤ t.size)
    (granted : ∀ p s', s'.Books F h (⟨p, length⟩ :: own) served → Fits ⟨p, length⟩ s s' →
      s'.Leads h all k (.running d (next (some p))) Q) :
    s.Leads h all (k + 1) code Q := by
  unfold Build.serve at hs
  cases hp : s.module.allocator.place t length with
  | none =>
    rw [hp] at hs
    refine Leads.next hs (of_refused ?_)
    change h.refusals < t.refusals + 1
    rw [ht, ← hb.refusals]
    exact Nat.lt_succ_self _
  | some p =>
    rw [hp] at hs
    obtain ⟨hpos, hin, hsmall, hfree⟩ := s.module.allocator.place_free t length p hp
    have hlive : t.live = s.guest.live := by rw [ht]
    rw [hlive] at hfree
    have ha : s.Aside (s.stepped 1 (t.allocated ⟨p, length⟩)) := stepped_aside s 1 _
    have hoctet : t.octet = s.guest.octet := by rw [ht]
    refine Leads.next hs (granted p _ ?_ ⟨hpos, hin, hsmall, hfree, ha.tracked, size, hoctet⟩)
    refine hb.of_aside ha ?_ ?_ ?_ size
    · change (⟨p, length⟩ :: t.live).Perm _
      rw [hlive]
      exact (hb.live.cons _).trans List.perm_middle.symm
    · change t.strays = _
      rw [ht]
    · change t.refusals = _
      rw [ht]

theorem allocate {length : Nat} {next : Option Nat → Routine (List Value)}
    (hb : s.Books F h own served)
    (granted : ∀ p s', s'.Books F h (⟨p, length⟩ :: own) served → Fits ⟨p, length⟩ s s' →
      s'.Leads h all k (.running d (next (some p))) Q) :
    s.Leads h all (k + 2) (.running d (.allocate length next)) Q := by
  have hdirect : Build.step s.module (.running d (.allocate length next)) s.guest =
      s.module.serve s.guest d length next → s.Leads h all (k + 2)
        (.running d (.allocate length next)) Q := fun hs =>
    (serve hb hs rfl (Nat.le_refl _) granted).mono (Nat.le_succ _)
  cases hp : s.module.allocator.place s.guest length with
  | some p =>
    refine hdirect ?_
    unfold Build.step
    dsimp only
    rw [hp]
  | none =>
    cases hg : s.module.allocator.growth s.guest length with
    | none =>
      refine hdirect ?_
      unfold Build.step
      dsimp only
      rw [hp, hg]
    | some octets =>
      let s₁ := (askMemory s s.guest.size (s.guest.size + octets) s.module.maximum).2
      have hguest : s₁.guest = s.guest := askMemory_guest s _ _ _
      have haside : s.Aside s₁ := askMemory_aside s _ _ _
      have hs : Build.step s.module (.running d (.allocate length next)) s.guest =
          .growMemory s.guest.size (s.guest.size + octets) s.module.maximum
            (.growing d octets length false next) s.guest := by
        unfold Build.step
        dsimp only
        rw [hp, hg]
      refine growMemory hs (serve (hb.of_same haside hguest) rfl ?_ ?_ fun p s' hb' hf => ?_)
      · split <;> rfl
      · split
        · exact Nat.le_add_right _ _
        · exact Nat.le_refl _
      · have hsize : s₁.guest.size = s.guest.size := congrArg Heap.size hguest
        have hoctet : s₁.guest.octet = s.guest.octet := congrArg Heap.octet hguest
        refine granted p s' hb' ⟨hf.positive, hf.inside, hf.small, ?_,
          hf.tracked.trans haside.tracked, hsize ▸ hf.size, hf.octet.trans hoctet⟩
        rw [← hguest]
        exact hf.fresh

end Leads

variable {all : List Served} {b : Bridge} {block : Block} {bytes : Bytes}

theorem served_note (s : Stage (Build.machine steps) H) (d : Deed) :
    Deeds.served (s.note d).record = Deeds.served s.record ++ d.served?.toList := by
  rw [(Did.note s d).record_eq, Deeds.served_append]
  cases hd : d.served? <;> simp [Deeds.served, hd]

theorem note_aside (s : Stage (Build.machine steps) H) {d : Deed} (hd : d.served? = none) :
    s.Aside (s.note d) := by
  refine ⟨rfl, rfl, rfl, ?_⟩
  rw [served_note, hd]
  exact List.append_nil _

theorem declined_ne_nil (s : Stage (Build.machine steps) H) (ns name : String) (input : Bytes)
    (e : Failure) : Deeds.declined (s.note (.declined ns name input e)).record ≠ [] := by
  rw [(Did.note s _).record_eq, Deeds.declined_append]
  simp [Deeds.declined, Deed.declined?]

structure Filled (s : Stage (Build.machine steps) H) (block : Block) (bytes : Bytes) : Prop where
  proper : bytes ≠ [] → block.Proper
  length : block.len.toNat = bytes.length
  inside : block.ptr.toNat + bytes.length ≤ s.guest.size
  read : s.guest.read block.ptr.toNat bytes.length = bytes

theorem Books.track (hb : s.Books F h (block.stretch :: own) served) (hp : block.Proper)
    (hc : s.store.call.isSome) :
    (s.updateStore fun t => t.track block).Books F h own served := by
  have ht := tracked_track hc hp.isEmpty_eq
  exact {
    fixed := (fixed_track s block).trans hb.fixed
    live := by
      rw [ht]
      exact hb.live.trans List.perm_middle
    strays := hb.strays
    refusals := hb.refusals
    room := hb.room
    proper := by
      rw [ht]
      intro c hm
      cases hm with
      | head => exact hp
      | tail _ hm => exact hb.proper c hm
    silent := (guestError_track s.store block).trans hb.silent
    served := hb.served }

theorem Books.placed (hb : s.Books F h (block.stretch :: own) served) (hp : block.Proper)
    (hc : s.store.call.isSome) (b : Bridge) (bytes : Bytes) :
    (s.placed b block bytes).Books F h own served := by
  have hn := hb.of_same (note_aside s (d := .given block) rfl) rfl
  have hw : ((s.note (.given block)).write b.memory block.ptr bytes).Books F h
      (block.stretch :: own) served := { hn with }
  exact hw.track hp hc

theorem placed_filled (hp : block.Proper) (hl : block.len.toNat = bytes.length)
    (hi : block.ptr.toNat + bytes.length ≤ s.guest.size) (b : Bridge) :
    (s.placed b block bytes).Filled block bytes :=
  ⟨fun _ => hp, hl, hi, s.guest.read_write block.ptr.toNat bytes⟩

theorem filled_nothing (s : Stage (Build.machine steps) H) : s.Filled Block.empty [] :=
  ⟨fun hn => absurd rfl hn, rfl, Nat.zero_le _, rfl⟩

end Stage

open Stage

structure Runner.Supplies {steps : Nat} {H : Type} (run : Runner (Build.machine steps) H)
    (F : Fixed (Build.machine steps) H) (h : Heap) (all : List Served) (b : Bridge) : Prop where
  keeping : ∀ s : Stage (Build.machine steps) H, s.fixed = F →
    run.Keeping fun s' => s'.fixed = F ∧ s.Onward s'
  alloc : ∀ own served (s : Stage (Build.machine steps) H) len,
    s.Books F h own served → isPositive len = true → (run b.alloc [.i32 len] s).2.Orderly h all →
      ∃ p s', run b.alloc [.i32 len] s = (.ok [.i32 (UInt32.ofNat p)], s') ∧
        s'.Books F h (⟨p, len.toNat⟩ :: own) served ∧ Fits ⟨p, len.toNat⟩ s s'

section Supplying
variable {steps : Nat} {H α : Type} {F : Fixed (Build.machine steps) H} {h : Heap}
  {own : List Stretch} {served : List Served} {s s' : Stage (Build.machine steps) H}
  {all : List Served} {b : Bridge}

theorem GuestKit.alloc_eq {len : UInt32} (hl : isPositive len = true) :
    GuestKit.alloc len = .allocate len.toNat fun p => .done (UInt32.ofNat (p.getD 0)) :=
  if_pos hl

theorem GuestKit.Entry.alloc_eq {len : UInt32} (hl : isPositive len = true) :
    Entry.alloc [.i32 len] =
      .allocate len.toNat fun p => .done [.i32 (UInt32.ofNat (p.getD 0))] := by
  unfold Entry.alloc
  dsimp only
  rw [GuestKit.alloc_eq hl]
  rfl

/-- The allocator of the kit gives a stretch, unless the call meets an obstacle. -/
theorem Stage.execute_alloc {n d : Nat} (hn : 3 ≤ n) {len : UInt32}
    (hb : s.Books F h own served) (hl : isPositive len = true)
    (ho : (execute n (Build.Code.running d (Entry.alloc [.i32 len])) s).2.Orderly h all) :
    ∃ p s', execute n (Build.Code.running d (Entry.alloc [.i32 len])) s =
        (.ok [.i32 (UInt32.ofNat p)], s') ∧
      s'.Books F h (⟨p, len.toNat⟩ :: own) served ∧ Fits ⟨p, len.toNat⟩ s s' := by
  rw [Entry.alloc_eq hl] at ho ⊢
  have hr : s.Leads h all 3 (.running d
      (.allocate len.toNat fun p => .done [.i32 (UInt32.ofNat (p.getD 0))]))
      fun r s' => ∃ p, r = .ok [.i32 (UInt32.ofNat p)] ∧
        s'.Books F h (⟨p, len.toNat⟩ :: own) served ∧ Fits ⟨p, len.toNat⟩ s s' :=
    Leads.allocate hb fun p s' hb' hf => Leads.done ⟨p, rfl, hb', hf⟩
  obtain ⟨p, he, hb', hf⟩ := hr n hn ho
  exact ⟨p, _, Prod.ext he rfl, hb', hf⟩

theorem Stage.runner_supplies {n d : Nat} (hn : 3 ≤ n)
    (ha : F.module.function b.alloc = Entry.alloc) :
    Runner.Supplies (runner F.module n d : Runner (Build.machine steps) H) F h all b where
  keeping := by
    intro s hs
    have hk := (onward_sustained s).runner_keeping s n d
    rwa [show s.module = F.module from congrArg Fixed.module hs, hs] at hk
  alloc := by
    intro own served s len hb hl ho
    have he : runner F.module n d b.alloc [.i32 len] s =
        execute n (Build.Code.running d (Entry.alloc [.i32 len])) s := by
      rw [← ha]
      rfl
    rw [he] at ho ⊢
    exact execute_alloc hn hb hl ho

variable {run : Runner (Build.machine steps) H}

namespace Runner.Supplies

theorem kept (hr : run.Supplies F h all b) (hs : s.fixed = F) :
    Kept run fun s' => s'.fixed = F ∧ s.Onward s' := (onward_sustained s).kept (hr.keeping s hs)

theorem placeForCall_onward (hr : run.Supplies F h all b) (hk : F.Kitted b)
    (hs : s.fixed = F) (bytes : Bytes) :
    ((Buffer.placeForCall run b bytes).run s).2.fixed = F ∧
      s.Onward ((Buffer.placeForCall run b bytes).run s).2 :=
  Buffer.placeForCall_keeps (hr.kept hs) ⟨hs, .refl s⟩ (hk.bridge_eq hs)
    (hk.call_isSome hs) bytes

theorem exec_onward (hr : run.Supplies F h all b) (hk : F.Kitted b) (hs : s.fixed = F)
    (function : String) (p : Program H α) : s.Onward (p.exec run function s).2 :=
  (p.exec_keeps (hr.kept hs) function ⟨hs, .refl s⟩ (hk.call_isSome hs)).2

theorem serve_fixed (hr : run.Supplies F h all b) (hk : F.Kitted b) (hs : s.fixed = F)
    (f : HostFunction H) (body : Bytes → Program H Bytes) (input : Bytes) :
    ((ImportCall.serve run f body input).run s).2.fixed = F :=
  (ImportCall.serve_keeps (hr.kept hs) f body input ⟨hs, .refl s⟩
    (hk.call_isSome hs)).1

/-- Octets that the host puts into a fresh buffer are there and nowhere else, and the buffer is the
call's. -/
theorem placeForCall_books (hr : run.Supplies F h all b) (hk : F.Kitted b)
    {bytes : Bytes} (hb : s.Books F h own served)
    (ho : ((Buffer.placeForCall run b bytes).run s).2.Orderly h all) :
    ((Buffer.placeForCall run b bytes).run s).2.Books F h own served ∧
      s.Spares own ((Buffer.placeForCall run b bytes).run s).2 ∧
      (bytes.length ≤ Buffer.maxLength → ∃ block,
        ((Buffer.placeForCall run b bytes).run s).1 = .ok block ∧
          ((Buffer.placeForCall run b bytes).run s).2.Filled block bytes) := by
  by_cases h₀ : bytes = []
  · rw [h₀, Buffer.run_placeForCall_nil]
    exact ⟨hb, .of_guest rfl, fun _ => ⟨_, rfl, filled_nothing s⟩⟩
  rcases Nat.lt_or_ge Buffer.maxLength bytes.length with hl | hl
  · rw [Buffer.run_placeForCall_long run b hl]
    exact ⟨hb, .of_guest rfl, fun hn => by omega⟩
  have hpos : 0 < bytes.length := List.length_pos_iff.mpr h₀
  have hlen := Buffer.length_toNat hl
  have hp : isPositive (UInt32.ofNat bytes.length) = true := isPositive_ofNat hpos hl
  have hb₁ : (s.note (.asked (UInt32.ofNat bytes.length))).Books F h own served :=
    hb.of_same (note_aside s rfl) rfl
  rw [Buffer.run_placeForCall run b h₀ hl] at ho ⊢
  -- Whatever the host makes of the allocator's answer, the refusals so far stay.
  have hran : (run b.alloc [.i32 (UInt32.ofNat bytes.length)]
      (s.note (.asked (UInt32.ofNat bytes.length)))).2.Orderly h all := by
    rcases he : run b.alloc [.i32 (UInt32.ofNat bytes.length)]
      (s.note (.asked (UInt32.ofNat bytes.length))) with ⟨r, s'⟩
    rw [he] at ho
    dsimp only at ho ⊢
    cases ha : Buffer.accepted s' b bytes.length r with
    | error e =>
      rw [ha] at ho
      exact ho
    | ok block =>
      rw [ha] at ho
      exact ho.of_onward ⟨Nat.le_refl _, [.given block], rfl⟩
  obtain ⟨p, s', he, hb', hf⟩ := hr.alloc _ _ _ _ hb₁ hp hran
  rw [hlen] at hb' hf
  obtain ⟨hproper, hstretch⟩ := block_of_place hf.positive hf.small hpos hl
  rw [← hstretch] at hb' hf
  have hin : (UInt32.ofNat p).toNat + bytes.length ≤ s'.guest.size := by
    have hs := hf.inside
    rwa [Stretch.stop, Block.stretch, hlen] at hs
  have ha : Buffer.accepted s' b bytes.length (.ok [.i32 (UInt32.ofNat p)]) =
      .ok ⟨UInt32.ofNat p, UInt32.ofNat bytes.length⟩ := by
    rw [Buffer.accepted_ok_iff]
    refine ⟨rfl, rfl, hproper.ptr, ?_⟩
    rw [hk.memory, hlen]
    exact hin
  rw [he]
  dsimp only
  rw [ha]
  have hspared : (s.note (.asked (UInt32.ofNat bytes.length))).Spares own
      (s'.placed b ⟨UInt32.ofNat p, UInt32.ofNat bytes.length⟩ bytes) :=
    hf.spares_write hb₁ hlen.symm rfl
  exact ⟨hb'.placed hproper (hk.call_isSome hb'.fixed) b bytes,
    hspared.after rfl, fun _ => ⟨_, rfl, placed_filled hproper hlen hin b⟩⟩

/-- A host function leaves the books in order, and what guest code holds. -/
theorem exec_books (hr : run.Supplies F h all b) (hk : F.Kitted b)
    (function : String) (p : Program H α)
    (hb : s.Books F h own served) (ho : (p.exec run function s).2.Orderly h all) :
    (p.exec run function s).2.Books F h own served ∧
      s.Spares own (p.exec run function s).2 := by
  induction p generalizing s with
  | done a => exact ⟨hb, .of_guest rfl⟩
  | fail e => exact ⟨hb, .of_guest rfl⟩
  | panic m => exact ⟨hb, .of_guest rfl⟩
  | remember change next ih =>
    let s' : Stage (Build.machine steps) H :=
      { s with world := { s.world with memory := change s.world.memory } }
    have hb' : s'.Books F h own served := hb.of_same ⟨rfl, rfl, rfl, rfl⟩ rfl
    obtain ⟨hb'', hspared⟩ := ih _ hb' ho
    exact ⟨hb'', hspared.after rfl⟩
  | exportName next ih => exact ih _ hb ho
  | memorySize next ih => exact ih _ hb ho
  | read ptr len next ih =>
    rw [Program.exec_read, hk.bridge_eq hb.fixed] at ho ⊢
    exact ih _ hb ho
  | write bytes next ih =>
    rw [Program.exec_write, hk.bridge_eq hb.fixed] at ho ⊢
    have hw := hr.placeForCall_onward hk hb.fixed bytes
    rcases hp : (Buffer.placeForCall run b bytes).run s with ⟨r, s'⟩
    dsimp only at ho ⊢
    rw [hp] at ho hw ⊢
    have ho' : s'.Orderly h all := ho.of_onward (hr.exec_onward hk hw.1 function (next r))
    have hplace : ((Buffer.placeForCall run b bytes).run s).2.Orderly h all := by
      rw [hp]
      exact ho'
    obtain ⟨hb', hspared, -⟩ := hr.placeForCall_books hk hb hplace
    rw [hp] at hb' hspared
    obtain ⟨hb'', hspared'⟩ := ih _ hb' ho
    exact ⟨hb'', hspared.trans hspared'⟩
  | callBack target next ih =>
    have hb' : (s.log (.reentryRejected function target s.store.phase)).Books F h own served :=
      hb.of_same ⟨rfl, rfl, rfl, rfl⟩ rfl
    obtain ⟨hb'', hspared⟩ := ih _ hb' ho
    exact ⟨hb'', hspared.after rfl⟩

/-- A function on octets returns, unless the call meets an obstacle, and that is on record. -/
theorem serve_books (hr : run.Supplies F h all b) (hk : F.Kitted b)
    (f : HostFunction H)
    (body : Bytes → Program H Bytes) (input : Bytes) (hb : s.Books F h own served)
    (ho : ((ImportCall.serve run f body input).run s).2.Orderly h all) :
    ∃ output s', (ImportCall.serve run f body input).run s = (.ok output, s') ∧
      s'.Books F h own (served ++ [⟨f.ns, f.name, input, output⟩]) ∧ s.Spares own s' ∧
      output.length ≤ Buffer.maxLength := by
  rw [ImportCall.run_serve, ImportCall.run_guarded] at ho ⊢
  rcases he : (body input).exec run f.name s with ⟨(e | e) | output, s₁⟩ <;>
    rw [he] at ho <;> dsimp only at ho ⊢
  · exact absurd ho.answered (declined_ne_nil _ _ _ _ _)
  · exact absurd ho.answered (declined_ne_nil _ _ _ _ _)
  · have ho₁ : s₁.Orderly h all := ho.of_onward (.note s₁ _)
    obtain ⟨hb₁, hspared⟩ := hr.exec_books hk f.name (body input) hb (by rw [he]; exact ho₁)
    rw [he] at hb₁ hspared
    have hs := served_note s₁ (.served f.ns f.name input output)
    rw [hb₁.served] at hs
    have hm : ⟨f.ns, f.name, input, output⟩ ∈ all := by
      refine ho.served.subset ?_
      rw [hs]
      exact List.mem_append_right _ (List.mem_singleton_self _)
    exact ⟨output, _, rfl, { hb₁ with served := hs }, hspared.trans (.of_guest rfl),
      ho.short _ hm⟩

/-- A function on octets is called on a slice of guest memory: it is given what is there, what it
returns is put into a buffer of the call, and what guest code holds stays as it is. -/
theorem provider_books (hr : run.Supplies F h all b) (hk : F.Kitted b)
    {f : HostFunction H} (hf : f.OnBytes)
    {ptr len : UInt32} (caller : Caller) (hb : s.Books F h own served)
    (hi : ptr.toNat + len.toNat ≤ s.guest.size)
    (ho : (ImportCall.provider run (.function f) caller [.i32 ptr, .i32 len] s).2.Orderly
      h all) :
    ∃ output block s',
      ImportCall.provider run (.function f) caller [.i32 ptr, .i32 len] s =
        (.ok [.i64 block.pack], s') ∧
      s'.Books F h own
        (served ++ [⟨f.ns, f.name, s.guest.read ptr.toNat len.toNat, output⟩]) ∧
      s.Spares own s' ∧ s'.Filled block output := by
  obtain ⟨hsig, body, hbody⟩ := hf
  have hread : s.read b.memory ptr len = .ok (s.guest.read ptr.toNat len.toNat) := by
    rw [read_eq, hk.memory]
    exact if_pos hi
  have hb₀ : (ImportCall.invoked f s).Books F h own served :=
    hb.of_same ⟨rfl, rfl, rfl, rfl⟩ rfl
  have hrun := ImportCall.run_function_read run f (hk.call_isSome hb.fixed) hbody
    (hk.bridge_eq hb.fixed) hread
  change (ImportCall.raising f.signature caller _ s).2.Orderly h all at ho
  change ∃ output block s', ImportCall.raising f.signature caller _ s = _ ∧ _
  rw [ImportCall.run_raising, hrun] at ho ⊢
  have hfixed := hr.serve_fixed hk hb₀.fixed f body (s.guest.read ptr.toNat len.toNat)
  have hserve : ((ImportCall.serve run f body (s.guest.read ptr.toNat len.toNat)).run
      (ImportCall.invoked f s)).2.Orderly h all := by
    rcases hs : (ImportCall.serve run f body (s.guest.read ptr.toNat len.toNat)).run
      (ImportCall.invoked f s) with ⟨e | output, s₁⟩ <;> rw [hs] at ho hfixed
    · exact ho
    · have hw := (hr.placeForCall_onward hk hfixed output).2
      dsimp only at ho ⊢
      rcases hp : (Buffer.placeForCall run b output).run s₁ with ⟨e | block, s₂⟩ <;>
        rw [hp] at ho hw <;> exact ho.of_onward hw
  obtain ⟨output, s₁, hs, hb₁, hspared, hl⟩ := hr.serve_books hk f body _ hb₀ hserve
  rw [hs] at ho ⊢
  dsimp only at ho ⊢
  have hplace : ((Buffer.placeForCall run b output).run s₁).2.Orderly h all := by
    rcases hp : (Buffer.placeForCall run b output).run s₁ with ⟨e | block, s₂⟩ <;>
      rw [hp] at ho <;> exact ho
  obtain ⟨hb₂, hspared', hgiven⟩ := hr.placeForCall_books hk hb₁ hplace
  obtain ⟨block, hok, hholds⟩ := hgiven hl
  have hfit : ImportCall.fits f.signature.results [.i64 block.pack] = true := by
    rw [hsig]
    rfl
  have hplaced : (Buffer.placeForCall run b output).run s₁ =
      (.ok block, ((Buffer.placeForCall run b output).run s₁).2) := Prod.ext hok rfl
  rw [hplaced]
  dsimp only
  rw [if_pos hfit]
  exact ⟨output, block, _, rfl, hb₂, (hspared.trans hspared').after rfl, hholds⟩

end Runner.Supplies

end Supplying

end PluginHost
