import PluginHost.Proofs.Success
/-!
What a message of the guest does to the answer of a call. Once the export has ended, the last
message stands in for what it returned and for its trap, and what the host raised comes before it.
Two failures hide a message although the export returned or trapped on its own: a returned buffer
outside memory, and a trap after growth was refused. A trap that the host raised is hidden by a
message.
-/
namespace PluginHost
variable {g : Guest} {H α : Type}

namespace Stage

def Holds (s : Stage g H) (out : Block) : Prop :=
  ∃ b, s.store.bridge = some b ∧ out.ptr.toNat + out.len.toNat ≤ s.memorySize b.memory

/-- The body of a call that begins here has entered its export, and the export has ended in the
given stage: it returned, in a call with octets the buffer that its word names, or it was halted. -/
inductive Ends (s : Stage g H) (name : String) :
    {α : Type} → Task g H α → Except Halt (Option Block) → Stage g H → Prop
  | octets (function : Nat) (b : Bridge) (input : Bytes) (block : Block) (s₁ s₂ : Stage g H)
      (r : Ending) (bridge : s.store.bridge = some b)
      (supplied : s.Supplied b input block s₁)
      (ended : (enter function [.i32 block.ptr, .i32 block.len] : Action g H Ending)
        (s₁.entering function [.i32 block.ptr, .i32 block.len]) = (r, s₂)) :
      Ends s name (exchange b name function input)
        ((packed r).map fun word => some (Block.unpack word)) s₂
  | values (function : Nat) (args : List Value) (s₁ : Stage g H) (r : Ending)
      (ended : (enter function args : Action g H Ending) (s.entering function args) = (r, s₁)) :
      Ends s name (exchangeValues name function args) (r.map fun _ => none) s₁

inductive Judged (s : Stage g H) (name : String) :
    Except Halt (Option Block) → Except Failure α → Prop
  | halted (h : Halt) : Judged s name (.error h) (.error (s.store.classify name h))
  | whole (out : Option Block) (a : α) (inside : ∀ b ∈ out, s.Holds b) :
      Judged s name (.ok out) (.ok a)
  | outside (out : Block) (ptr len size : Nat) (outside : ¬ s.Holds out) :
      Judged s name (.ok (some out)) (.error (.outOfBounds ptr len size))

theorem Ends.ran {s s₂ : Stage g H} {name : String} {body : Task g H α}
    {ended : Except Halt (Option Block)} (h : s.Ends name body ended s₂)
    (hc : s.store.call.isSome) : ∃ ds, s.Ran ds s₂ := by
  cases h with
  | octets function b input block s₁ _ r bridge supplied ended =>
    obtain ⟨ds, hs, -⟩ := supplied.ran bridge hc
    obtain ⟨ds', he, -⟩ := (enter_ticks function [.i32 block.ptr, .i32 block.len]
      (s₁.entering function [.i32 block.ptr, .i32 block.len])).ran
    rw [ended] at he
    exact ⟨_, (hs.trans (entering_ran s₁ function _)).trans he⟩
  | values function args _ r ended =>
    obtain ⟨ds, he, -⟩ := (enter_ticks function args (s.entering function args)).ran
    rw [ended] at he
    exact ⟨_, (entering_ran s function args).trans he⟩

theorem output_error {s : Stage g H} {b : Bridge} {word : UInt64}
    (h : ¬ (Block.unpack word).ptr.toNat + (Block.unpack word).len.toNat ≤
      s.memorySize b.memory) :
    s.output b word = .error (.outOfBounds (Block.unpack word).ptr.toNat
      (Block.unpack word).len.toNat (s.memorySize b.memory)) := by
  unfold output
  rw [read_eq, if_neg h]

/-- The body of a call whose export has ended: nothing more is heard of the guest until cleanup. -/
theorem Ends.run_eq {s s₂ : Stage g H} {name : String} {body : Task g H α}
    {ended : Except Halt (Option Block)} (h : s.Ends name body ended s₂)
    (hc : s.store.call.isSome) :
    ∃ v s₃, body.run s = (v, s₃) ∧ s₂.Judged name ended v ∧
      s₃.store.guestError = s₂.store.guestError := by
  obtain ⟨ds, hr⟩ := h.ran hc
  cases h with
  | octets function b input block s₁ _ r bridge supplied ended =>
    have hb : s₂.store.bridge = some b := hr.bridge_eq.trans bridge
    rw [run_exchange, (placeForCall_ok_iff ..).mpr supplied]
    simp only [ended]
    cases hp : packed r with
    | error halt => exact ⟨_, _, rfl, .halted halt, rfl⟩
    | ok word =>
      by_cases hw : (Block.unpack word).ptr.toNat + (Block.unpack word).len.toNat ≤
        s₂.memorySize b.memory
      · have ho := (output_ok_iff s₂ b word _).mpr ⟨hw, rfl⟩
        have hi : ∀ out ∈ some (Block.unpack word), s₂.Holds out := by
          intro out hout
          obtain rfl := Option.some.inj hout
          exact ⟨b, hb, hw⟩
        simp only [ho]
        exact ⟨_, _, rfl, .whole _ _ hi, taken_guestError s₂ word⟩
      · have hn : ¬ s₂.Holds (Block.unpack word) := by
          rintro ⟨b', hb', hw'⟩
          obtain rfl := Option.some.inj (hb.symm.trans hb')
          exact hw hw'
        simp only [output_error hw]
        exact ⟨_, _, rfl, .outside _ _ _ _ hn, rfl⟩
  | values function args _ r ended =>
    rw [run_exchangeValues]
    simp only [ended]
    cases r with
    | error halt => exact ⟨_, _, rfl, .halted halt, rfl⟩
    | ok results => exact ⟨_, _, rfl, .whole none results nofun, rfl⟩

/-- A call with a message fails, and cleanup has no say in how. -/
theorem Accepts.answer_eq_surface {s s₁ : Stage g H} {name message : String} {t body : Task g H α}
    {r : Except Failure α} (h : s.Accepts name t body) (hb : body.run (s.begun name) = (r, s₁))
    (hm : s₁.store.guestError = some message) :
    (t.run s).1 = surface name (some message) r := by
  obtain ⟨A, adopted, C, cleanup, s₂, -, -, hr⟩ := h.released hb
  rw [hr, hm]
  cases r with
  | ok a => rfl
  | error e => cases e <;> rfl

def heedless (b : Option Bridge) (name : String) (body : Task g H α) : Task g H α :=
  ExceptT.mk do
    let r ← body.run
    finish b name r

theorem run_heedless (b : Option Bridge) (name : String) (body : Task g H α) (s : Stage g H) :
    (heedless b name body).run s = finish b name (body.run s).1 (body.run s).2 := rfl

theorem silenced_eq {s : Stage g H} (h : s.store.guestError = none) : s.silenced = s := by
  unfold silenced updateStore
  rw [← h]

theorem during_eq_heedless {b : Option Bridge} {name : String} {body : Task g H α}
    {s : Stage g H} (h : (body.run s).2.store.guestError = none) :
    (during b name body).run s = (heedless b name body).run s := by
  rw [run_during, run_heedless]
  rcases hb : body.run s with ⟨r, s₁⟩
  have hm : s₁.store.guestError = none := by rwa [hb] at h
  simp only [hm, silenced_eq hm]
  rfl

/-- What comes first in the answer of a call, the guest's message or something else, by the way in
which the export ended in the given stage. The message stands in for what was returned if that lies
in memory, and for a trap if no growth was refused before. What the host raised comes before it,
except that a trap from elsewhere is taken for one of the export. -/
def Precedence (s : Stage g H) (name message : String) (answer : Except Failure α) :
    Except Halt (Option Block) → Prop
  | .ok out => answer = .error (.guest name message) ↔ ∀ b ∈ out, s.Holds b
  | .error (.trapped _) =>
    answer = .error (.guest name message) ↔ s.store.limit.denied = false
  | .error .outOfFuel => answer = .error .fuelExhausted
  | .error (.raised e) => answer = .error (if e.kind = .trap then .guest name message else e)

theorem Judged.precedence {s : Stage g H} {name : String} {ended : Except Halt (Option Block)}
    {v : Except Failure α} (h : s.Judged name ended v) (message : String) :
    s.Precedence name message (surface name (some message) v) ended := by
  cases h with
  | whole out a inside => exact iff_of_true rfl inside
  | outside out ptr len size outside => exact iff_of_false nofun fun hi => outside (hi out rfl)
  | halted halt =>
    cases halt with
    | trapped cause =>
      cases hd : s.store.limit.refused with
      | none => simp [Precedence, surface, Store.classify, GrowthLimit.denied, hd]
      | some requested => simp [Precedence, surface, Store.classify, GrowthLimit.denied, hd]
    | outOfFuel => rfl
    | raised e => cases e <;> rfl

/-- What messages do to the answer of every accepted call. Where the guest left some before the
export ended, the last of them is weighed against the way in which the export ended; where it left
none, the call is the one of a host that takes no messages. -/
theorem last_message_precedence {s : Stage g H} {name : String} {t body : Task g H α}
    (h : s.Accepts name t body) :
    (∀ ended s₂ ds octets, (s.begun name).Ends name body ended s₂ → s.Did ds s₂ →
      (Deeds.reports ds).getLast? = some octets →
        s₂.Precedence name (Text.Utf8.decodeLossy octets) (t.run s).1 ended) ∧
    (∀ ds, s.Did ds (body.run (s.begun name)).2 → Deeds.reports ds = [] →
      t.run s = (heedless s.store.bridge name body).run (s.begun name)) := by
  constructor
  · intro ended s₂ ds octets he hd hl
    obtain ⟨ds', hr⟩ := he.ran rfl
    obtain rfl : ds = ds' := hd.unique hr.did
    obtain ⟨v, s₃, hb, hv, hm⟩ := he.run_eq rfl
    have hs : s₃.store.guestError = some (Text.Utf8.decodeLossy octets) := by
      rw [hm, hr.message, Deeds.getLast?_messages, hl]
      rfl
    rw [h.answer_eq_surface hb hs]
    exact hv.precedence _
  · intro ds hd hn
    obtain ⟨ds', adopted, hw⟩ := h.worked
    obtain rfl : ds = ds' := hd.unique hw.did
    have hm : (body.run (s.begun name)).2.store.guestError = none := by
      rw [hw.message, Deeds.getLast?_messages, hn]
      rfl
    rw [h.run_eq, during_eq_heedless hm]

end Stage

namespace Wasm

/-- A module whose export `run` leaves two octets of memory as its message, one of which is no text,
and then returns a word. -/
def reporter (word : UInt64) : Program where
  imports := [⟨Name.serviceNamespace, "error_set", .function ⟨[.i32, .i32], []⟩⟩]
  exports := [
    ⟨Name.memory, .memory 0 ⟨1, none⟩⟩, ⟨Name.alloc, .function 1 Opening.allocType⟩,
    ⟨Name.dealloc, .function 2 Opening.deallocType⟩, ⟨"run", .function 3 .bytes⟩]
  imported := #[⟨[.i32, .i32], []⟩]
  functions := #[
    ⟨⟨[.i32], [.i32]⟩, [], [.const (.i32 1024), .end_]⟩,
    ⟨⟨[.i32, .i32], []⟩, [], [.end_]⟩,
    ⟨⟨[.i32, .i32], [.i64]⟩, [],
      [.const (.i32 0), .const (.i32 2), .call 0, .const (.i64 word), .end_]⟩]
  types := #[]
  memories := [⟨⟨1, none⟩, false, false, none⟩]
  tables := []
  globals := []
  elems := #[]
  data := #[⟨.active 0 [.const (.i32 0)], [0x6e, 0xff]⟩]
  start := none

def reporting (word : UInt64) : Stage engine Unit where
  module := reporter word
  providers := #[.service .setError]
  guest := { State.empty with memories := #[⟨#[⟨#[0x6e, 0xff]⟩], none⟩], data := #[[]] }
  store := { Store.ofSettings {} with bridge := some ⟨0, 1, 2⟩ }
  world := ⟨.start none "" default, ()⟩
  deeds := []

def reported (word : UInt64) : Ending × Stage engine Unit :=
  (Stage.enter 3 [.i32 0, .i32 0] : Action engine Unit Ending)
    (((reporting word).begun "run").entering 3 [.i32 0, .i32 0])

theorem reports_reported (word : UInt64) :
    Deeds.reports (reported word).2.record = [[0x6e, 0xff]] := rfl

theorem bridge_reported (word : UInt64) : (reported word).2.store.bridge = some ⟨0, 1, 2⟩ := rfl

end Wasm

namespace Stage
open Wasm

theorem reporting_accepts (word : UInt64) :
    (reporting word).Accepts "run" (call "run" []) (exchange ⟨0, 1, 2⟩ "run" 3 []) :=
  .octets 3 ⟨0, 1, 2⟩ [] rfl rfl rfl

theorem reporting_ends (word : UInt64) :
    ((reporting word).begun "run").Ends "run" (exchange ⟨0, 1, 2⟩ "run" 3 [])
      (.ok (some (Block.unpack word))) (reported word).2 :=
  .octets 3 ⟨0, 1, 2⟩ [] Block.empty _ _ (.ok [.i64 word]) rfl .nothing rfl

/-- A message that is no text stands for what was returned, with a mark for what cannot be read. -/
theorem message_of_reporter :
    ∃ ds, (reporting 0).Did ds (reported 0).2 ∧ Deeds.reports ds = [[0x6e, 0xff]] ∧
      ((call "run" []).run (reporting 0)).1 = .error (.guest "run" "n\ufffd") := by
  have hm : Text.Utf8.decodeLossy [0x6e, 0xff] = "n\ufffd" := by decide +kernel
  have hd : (reporting 0).Did (reported 0).2.record (reported 0).2 := by
    simp [Did, record, reporting]
  have hp := (last_message_precedence (reporting_accepts 0)).1 _ _ _ [0x6e, 0xff]
    (reporting_ends 0) hd (by rw [reports_reported]; rfl)
  rw [hm] at hp
  refine ⟨_, hd, reports_reported 0, hp.mpr fun out hout => ?_⟩
  obtain rfl := Option.some.inj hout
  exact ⟨_, bridge_reported 0, Nat.zero_le _⟩

/-- A message is lost where the export returns a word that names octets outside memory. -/
theorem message_lost_with_output_outside :
    (reporting 0xffffffffffffffff).Accepts "run" (call "run" []) (exchange ⟨0, 1, 2⟩ "run" 3 []) ∧
      ((reporting 0xffffffffffffffff).begun "run").Ends "run" (exchange ⟨0, 1, 2⟩ "run" 3 [])
        (.ok (some ⟨0xffffffff, 0xffffffff⟩)) (reported 0xffffffffffffffff).2 ∧
      Deeds.reports (reported 0xffffffffffffffff).2.record = [[0x6e, 0xff]] ∧
      ((call "run" []).run (reporting 0xffffffffffffffff)).1 =
        .error (.outOfBounds 0xffffffff 0xffffffff pageSize) :=
  ⟨reporting_accepts _, reporting_ends _, reports_reported _, rfl⟩

end Stage

end PluginHost
