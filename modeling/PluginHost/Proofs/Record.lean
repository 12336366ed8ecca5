import PluginHost.Proofs.Ticks
/-!
What a stretch of work leaves on record. Guest code asks for buffers, is given them and leaves
messages; each buffer that it was given belongs to the call, and the last message stands in the
store. Guest code never makes the host offer a buffer back.
-/
namespace PluginHost
variable {g : Guest} {H α β : Type}

namespace Deed

def given? : Deed → Option Block
  | .given b => some b
  | _ => none

def returned? : Deed → Option Block
  | .returned b => some b
  | _ => none

def failure? : Deed → Option Failure
  | .kept _ e => some e
  | _ => none

def report? : Deed → Option Bytes
  | .reported octets => some octets
  | _ => none

def entry? : Deed → Option (Nat × List Value)
  | .entered function args => some (function, args)
  | _ => none

end Deed

inductive VariableUse where
  | assigned (key : String) (value : Bytes) (accepted : Bool)
  | lookedUp (key : String) (value : Option Bytes)
  | cleared
  deriving DecidableEq, Inhabited

def Deed.use? : Deed → Option VariableUse
  | .assigned key value accepted => some (.assigned key value accepted)
  | .lookedUp key value => some (.lookedUp key value)
  | _ => none

structure Served where
  ns : String
  name : String
  input : Bytes
  output : Bytes
  deriving DecidableEq, Inhabited

namespace Deed

def served? : Deed → Option Served
  | .served ns name input output => some ⟨ns, name, input, output⟩
  | _ => none

def declined? : Deed → Option Failure
  | .declined _ _ _ e => some e
  | _ => none

end Deed

namespace Deeds
open Deed

def given (ds : List Deed) : List Block := ds.filterMap given?

def returned (ds : List Deed) : List Block := ds.filterMap returned?

def failures (ds : List Deed) : List Failure := ds.filterMap failure?

def reports (ds : List Deed) : List Bytes := ds.filterMap report?

def messages (ds : List Deed) : List String := (reports ds).map Text.Utf8.decodeLossy

def entries (ds : List Deed) : List (Nat × List Value) := ds.filterMap entry?

def uses (ds : List Deed) : List VariableUse := ds.filterMap use?

def served (ds : List Deed) : List Served := ds.filterMap served?

def declined (ds : List Deed) : List Failure := ds.filterMap declined?

@[simp] theorem given_append (ds ds' : List Deed) : given (ds ++ ds') = given ds ++ given ds' :=
  List.filterMap_append

@[simp] theorem returned_append (ds ds' : List Deed) :
    returned (ds ++ ds') = returned ds ++ returned ds' := List.filterMap_append

@[simp] theorem failures_append (ds ds' : List Deed) :
    failures (ds ++ ds') = failures ds ++ failures ds' := List.filterMap_append

@[simp] theorem messages_append (ds ds' : List Deed) :
    messages (ds ++ ds') = messages ds ++ messages ds' := by
  simp only [messages, reports, List.filterMap_append, List.map_append]

theorem getLast?_messages (ds : List Deed) :
    (messages ds).getLast? = (reports ds).getLast?.map Text.Utf8.decodeLossy := List.getLast?_map

@[simp] theorem entries_append (ds ds' : List Deed) :
    entries (ds ++ ds') = entries ds ++ entries ds' := List.filterMap_append

@[simp] theorem uses_append (ds ds' : List Deed) :
    uses (ds ++ ds') = uses ds ++ uses ds' := List.filterMap_append

@[simp] theorem served_append (ds ds' : List Deed) :
    served (ds ++ ds') = served ds ++ served ds' := List.filterMap_append

@[simp] theorem declined_append (ds ds' : List Deed) :
    declined (ds ++ ds') = declined ds ++ declined ds' := List.filterMap_append

end Deeds

namespace Stage

def Did (s : Stage g H) (ds : List Deed) (s' : Stage g H) : Prop :=
  s'.deeds = ds.reverse ++ s.deeds

theorem Did.refl (s : Stage g H) : s.Did [] s := rfl

theorem Did.note (s : Stage g H) (d : Deed) : s.Did [d] (s.note d) := rfl

theorem Did.trans {s s' s'' : Stage g H} {ds ds' : List Deed} (h : s.Did ds s')
    (h' : s'.Did ds' s'') : s.Did (ds ++ ds') s'' := by
  unfold Did at h h' ⊢
  rw [h', h, List.reverse_append, List.append_assoc]

theorem Did.unique {s s' : Stage g H} {ds ds' : List Deed} (h : s.Did ds s') (h' : s.Did ds' s') :
    ds = ds' := by
  have he : ds.reverse ++ s.deeds = ds'.reverse ++ s.deeds := h.symm.trans h'
  exact List.reverse_inj.mp (List.append_cancel_right he)

def record (s : Stage g H) : List Deed := s.deeds.reverse

theorem Did.record_eq {s s' : Stage g H} {ds : List Deed} (h : s.Did ds s') :
    s'.record = s.record ++ ds := by
  unfold record
  rw [h, List.reverse_append, List.reverse_reverse]

def tracked (s : Stage g H) : List Block := (s.store.call.map CallContext.blocks).getD []

theorem tracked_track {s : Stage g H} {b : Block} (hc : s.store.call.isSome)
    (hb : b.isEmpty = false) : (s.updateStore fun t => t.track b).tracked = b :: s.tracked := by
  obtain ⟨c, hc⟩ := Option.isSome_iff_exists.mp hc
  simp [tracked, updateStore, Store.track, hb, hc]

def steady (s : Stage g H) : Fixed g H := { s.fixed with phase := .idle }

theorem steady_of_fixed {s s' : Stage g H} (h : s'.fixed = s.fixed) : s'.steady = s.steady := by
  unfold steady
  rw [h]

/-- A stretch of work that gave back no buffer: what it put on record stands in the store. -/
structure Ran (s : Stage g H) (ds : List Deed) (s' : Stage g H) : Prop where
  did : s.Did ds s'
  returned : Deeds.returned ds = []
  failures : Deeds.failures ds = []
  tracked : s'.tracked = (Deeds.given ds).reverse ++ s.tracked
  message : s'.store.guestError = (Deeds.messages ds).getLast?.or s.store.guestError
  nonempty : ∀ b ∈ Deeds.given ds, b.isEmpty = false
  steady : s'.steady = s.steady
  bridgeless : s.store.bridge = none → Deeds.given ds = []

namespace Ran

variable {s s' s'' : Stage g H} {ds ds' : List Deed}

theorem bridge_eq (h : s.Ran ds s') : s'.store.bridge = s.store.bridge :=
  congrArg Fixed.bridge h.steady

theorem call_isSome (h : s.Ran ds s') (hc : s.store.call.isSome) : s'.store.call.isSome := by
  have hf : s'.steady.calling.isSome = s.steady.calling.isSome := by rw [h.steady]
  simpa [Stage.steady, Stage.fixed, hc] using hf

theorem quiet (hd : s'.deeds = s.deeds) (ht : s'.tracked = s.tracked)
    (hm : s'.store.guestError = s.store.guestError) (hs : s'.steady = s.steady) : s.Ran [] s' where
  did := hd
  returned := rfl
  failures := rfl
  tracked := ht
  message := hm
  nonempty := nofun
  steady := hs
  bridgeless := fun _ => rfl

theorem refl (s : Stage g H) : s.Ran [] s := quiet rfl rfl rfl rfl

theorem trans (h : s.Ran ds s') (h' : s'.Ran ds' s'') : s.Ran (ds ++ ds') s'' where
  did := h.did.trans h'.did
  returned := by simp only [Deeds.returned_append, h.returned, h'.returned, List.append_nil]
  failures := by simp only [Deeds.failures_append, h.failures, h'.failures, List.append_nil]
  tracked := by
    rw [h'.tracked, h.tracked, Deeds.given_append, List.reverse_append, List.append_assoc]
  message := by
    rw [h'.message, h.message, Deeds.messages_append, List.getLast?_append, Option.or_assoc]
  nonempty := by
    intro b hb
    rw [Deeds.given_append, List.mem_append] at hb
    cases hb with
    | inl hb => exact h.nonempty b hb
    | inr hb => exact h'.nonempty b hb
  steady := h'.steady.trans h.steady
  bridgeless := by
    intro hb
    rw [Deeds.given_append, h.bridgeless hb, h'.bridgeless (h.bridge_eq.trans hb), List.append_nil]

end Ran

theorem placed_ran {s : Stage g H} {b : Bridge} {block : Block} {bytes : Bytes}
    (hb : s.store.bridge = some b) (hc : s.store.call.isSome) (hp : block.ptr ≠ 0)
    (hl : block.len ≠ 0) : s.Ran [.given block] (s.placed b block bytes) := by
  have he : block.isEmpty = false := by simp [Block.isEmpty, hp, hl]
  have ht := tracked_track (s := (s.note (.given block)).write b.memory block.ptr bytes) hc he
  exact {
    did := rfl
    returned := rfl
    failures := rfl
    tracked := ht
    message := by simp [placed, updateStore, Store.track, he, write, note]; rfl
    nonempty := by simpa [Deeds.given, Deed.given?] using he
    steady := steady_of_fixed (fixed_track _ block)
    bridgeless := fun hn => by
      rw [hb] at hn
      cases hn }

theorem noted_ran {s s' : Stage g H} {d : Deed} (hd : s.Did [d] s')
    (ht : s'.tracked = s.tracked) (hm : s'.store.guestError = s.store.guestError)
    (hs : s'.steady = s.steady) (hr : Deeds.returned [d] = []) (hf : Deeds.failures [d] = [])
    (hg : Deeds.given [d] = []) (hn : Deeds.messages [d] = []) : s.Ran [d] s' where
  did := hd
  returned := hr
  failures := hf
  tracked := by rw [hg, ht]; rfl
  message := by rw [hn, hm]; rfl
  nonempty := by rw [hg]; nofun
  steady := hs
  bridgeless := fun _ => hg

theorem HostTick.ran {s s' : Stage g H} (h : HostTick s s') :
    ∃ ds, s.Ran ds s' ∧ Deeds.entries ds = [] := by
  have hs : s'.steady = s.steady := steady_of_fixed (Tick.host s s' h).fixed_eq
  cases h with
  | asked length => exact ⟨[.asked length], noted_ran rfl rfl rfl hs rfl rfl rfl rfl, rfl⟩
  | reported octets call =>
    exact ⟨[.reported octets], ⟨rfl, rfl, rfl, rfl, rfl, nofun, hs, fun _ => rfl⟩, rfl⟩
  | assigned key value vars set =>
    exact ⟨[.assigned key value true], noted_ran rfl rfl rfl hs rfl rfl rfl rfl, rfl⟩
  | refused key value e set =>
    exact ⟨[.assigned key value false], noted_ran rfl rfl rfl hs rfl rfl rfl rfl, rfl⟩
  | lookedUp key => exact ⟨[.lookedUp key _], noted_ran rfl rfl rfl hs rfl rfl rfl rfl, rfl⟩
  | served ns name input output =>
    exact ⟨[.served ns name input output], noted_ran rfl rfl rfl hs rfl rfl rfl rfl, rfl⟩
  | declined ns name input e =>
    exact ⟨[.declined ns name input e], noted_ran rfl rfl rfl hs rfl rfl rfl rfl, rfl⟩
  | shared w => exact ⟨[], Ran.quiet rfl rfl rfl hs, rfl⟩

theorem Tick.ran {s s' : Stage g H} (h : Tick s s') :
    ∃ ds, s.Ran ds s' ∧ Deeds.entries ds = [] := by
  have hs := steady_of_fixed h.fixed_eq
  cases h with
  | host _ tick => exact tick.ran
  | placed b block bytes admits =>
    have hl : block.len ≠ 0 := by
      intro h
      have hn := admits.len
      rw [h] at hn
      exact admits.nonempty (List.length_eq_zero_iff.mp hn.symm)
    exact ⟨[.given block], placed_ran admits.bridge admits.call admits.ptr hl, rfl⟩
  | _ => exact ⟨[], Ran.quiet rfl rfl rfl hs, rfl⟩

theorem Ticks.ran {s s' : Stage g H} (h : Ticks s s') :
    ∃ ds, s.Ran ds s' ∧ Deeds.entries ds = [] := by
  induction h with
  | refl => exact ⟨[], Ran.refl s, rfl⟩
  | tail _ ht ih =>
    obtain ⟨ds, hr, he⟩ := ih
    obtain ⟨ds', hr', he'⟩ := ht.ran
    refine ⟨ds ++ ds', hr.trans hr', ?_⟩
    rw [Deeds.entries_append, he, he', List.append_nil]

theorem enterPhase_ran (s : Stage g H) (p : CallPhase) : s.Ran [] (s.enterPhase p) :=
  Ran.quiet rfl rfl rfl rfl

theorem entered_ran (s : Stage g H) (function : Nat) (args : List Value) :
    s.Ran [.entered function args] (s.note (.entered function args)) :=
  ⟨rfl, rfl, rfl, rfl, rfl, nofun, rfl, fun _ => rfl⟩

end Stage

end PluginHost
