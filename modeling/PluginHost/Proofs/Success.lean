import PluginHost.Proofs.Memory
import PluginHost.Proofs.Opened
/-!
When a call with octets goes well, and what it returns then. Each way in which a call can fail
stands against one condition: the buffer for the input, the return of the export, the place of the
output, the messages of the guest, and the end of cleanup.
-/
namespace PluginHost
variable {g : Guest} {H α : Type}

namespace Stage

/-- The input of a call is in place: nothing is asked of the guest for an empty input; for another
one the allocator answered with an address inside memory, where the input was put. -/
inductive Supplied (s : Stage g H) (b : Bridge) : Bytes → Block → Stage g H → Prop
  | nothing : Supplied s b [] Block.empty s
  | buffer (input : Bytes) (ptr : UInt32) (s' : Stage g H) (nonempty : input ≠ [])
      (short : input.length ≤ Buffer.maxLength)
      (given : (enter b.alloc [.i32 (UInt32.ofNat input.length)] : Action g H Ending)
        (s.note (.asked (UInt32.ofNat input.length))) = (.ok [.i32 ptr], s'))
      (nonzero : ptr ≠ 0) (room : ptr.toNat + input.length ≤ s'.memorySize b.memory) :
      Supplied s b input ⟨ptr, UInt32.ofNat input.length⟩
        (s'.placed b ⟨ptr, UInt32.ofNat input.length⟩ input)

theorem placeForCall_ok_iff (s s₁ : Stage g H) (b : Bridge) (input : Bytes) (block : Block) :
    (Buffer.placeForCall enter b input).run s = (.ok block, s₁) ↔
      s.Supplied b input block s₁ := by
  constructor
  · intro h
    by_cases h₀ : input = []
    · rw [h₀, Buffer.run_placeForCall_nil] at h
      obtain ⟨hb, rfl⟩ := Prod.mk.inj h
      obtain rfl := Except.ok.inj hb
      exact h₀ ▸ .nothing
    rcases Nat.lt_or_ge Buffer.maxLength input.length with hl | hl
    · rw [Buffer.run_placeForCall_long enter b hl] at h
      cases (Prod.mk.inj h).1
    rw [Buffer.run_placeForCall enter b h₀ hl] at h
    rcases he : (enter b.alloc [.i32 (UInt32.ofNat input.length)] : Action g H Ending)
      (s.note (.asked (UInt32.ofNat input.length))) with ⟨r, s'⟩
    rw [he] at h
    dsimp only at h
    cases ha : Buffer.accepted s' b input.length r with
    | error e =>
      rw [ha] at h
      cases (Prod.mk.inj h).1
    | ok block' =>
      rw [ha] at h
      obtain ⟨hb, rfl⟩ := Prod.mk.inj h
      obtain rfl := Except.ok.inj hb
      obtain ⟨ptr, len⟩ := block'
      obtain ⟨rfl, hlen, hp, hroom⟩ := (Buffer.accepted_ok_iff s' b input.length r _).mp ha
      obtain rfl : len = UInt32.ofNat input.length := hlen
      rw [Buffer.length_toNat hl] at hroom
      exact .buffer input ptr s' h₀ hl he hp hroom
  · intro h
    cases h with
    | nothing => exact Buffer.run_placeForCall_nil enter b s
    | buffer _ ptr s' nonempty short given nonzero room =>
      exact Buffer.placeForCall_accepted nonempty short given nonzero room

theorem Supplied.ran {s s₁ : Stage g H} {b : Bridge} {input : Bytes} {block : Block}
    (h : s.Supplied b input block s₁) (hb : s.store.bridge = some b)
    (hc : s.store.call.isSome) : ∃ ds, s.Ran ds s₁ ∧ Deeds.entries ds = [] := by
  have ht : Ticks s ((Buffer.placeForCall enter b input).run s).2 :=
    Buffer.placeForCall_ticks enter_ticks hb hc input
  rw [(placeForCall_ok_iff s s₁ b input block).mpr h] at ht
  exact ht.ran

/-- The buffer that the allocator gave holds the input. -/
theorem Supplied.holds (hg : g.Faithful) {s s₁ : Stage g H} {b : Bridge} {input : Bytes}
    {block : Block} (h : s.Supplied b input block s₁) (hn : input ≠ []) :
    g.read s₁.guest b.memory block.ptr.toNat input.length = input := by
  cases h with
  | nothing => exact absurd rfl hn
  | buffer _ ptr s' nonempty short given nonzero room =>
    exact hg.read_write s'.guest b.memory ptr.toNat input room

def taken (s : Stage g H) (word : UInt64) : Stage g H :=
  (s.updateStore fun t => adopt t (Block.unpack word)).enterPhase .resultMarshaled

theorem taken_guestError (s : Stage g H) (word : UInt64) :
    (s.taken word).store.guestError = s.store.guestError := by
  simp only [taken, enterPhase, log, updateStore, adopt, Store.track]
  split
  · rfl
  · split <;> rfl

theorem packed_ok_iff (r : Ending) (word : UInt64) :
    packed r = .ok word ↔ r = .ok [.i64 word] := by
  unfold packed
  split <;> simp_all

theorem output_ok_iff (s : Stage g H) (b : Bridge) (word : UInt64) (v : Bytes) :
    s.output b word = .ok v ↔
      (Block.unpack word).ptr.toNat + (Block.unpack word).len.toNat ≤ s.memorySize b.memory ∧
        v = g.read s.guest b.memory (Block.unpack word).ptr.toNat
          (Block.unpack word).len.toNat := by
  unfold output
  rw [read_eq]
  split
  · rename_i h
    simp only [h, true_and, Except.ok.injEq, eq_comm]
  · rename_i h
    simp only [h, false_and, reduceCtorEq]

structure Returned (s : Stage g H) (b : Bridge) (function : Nat) (input : Bytes) (block : Block)
    (s₁ : Stage g H) (word : UInt64) (s₂ : Stage g H) : Prop where
  supplied : s.Supplied b input block s₁
  returned : (enter function [.i32 block.ptr, .i32 block.len] : Action g H Ending)
    (s₁.entering function [.i32 block.ptr, .i32 block.len]) = (.ok [.i64 word], s₂)
  room : (Block.unpack word).ptr.toNat + (Block.unpack word).len.toNat ≤ s₂.memorySize b.memory

/-- When the body of a call with octets goes well. -/
theorem exchange_ok_iff (s s' : Stage g H) (b : Bridge) (name : String) (function : Nat)
    (input v : Bytes) :
    (exchange b name function input).run s = (.ok v, s') ↔
      ∃ block s₁ word s₂, s.Returned b function input block s₁ word s₂ ∧ s' = s₂.taken word ∧
        v = g.read s₂.guest b.memory (Block.unpack word).ptr.toNat
          (Block.unpack word).len.toNat := by
  rw [run_exchange]
  constructor
  · intro h
    rcases hp : (Buffer.placeForCall enter b input).run s with ⟨e | block, s₁⟩ <;> rw [hp] at h
    · cases (Prod.mk.inj h).1
    rcases he : (enter function [.i32 block.ptr, .i32 block.len] : Action g H Ending)
      (s₁.entering function [.i32 block.ptr, .i32 block.len]) with ⟨r, s₂⟩
    simp only [he] at h
    cases hw : packed r with
    | error e =>
      rw [hw] at h
      cases (Prod.mk.inj h).1
    | ok word =>
      rw [hw] at h
      cases ho : s₂.output b word with
      | error e =>
        simp only [ho] at h
        cases (Prod.mk.inj h).1
      | ok v' =>
        simp only [ho] at h
        obtain ⟨hv, rfl⟩ := Prod.mk.inj h
        obtain rfl := Except.ok.inj hv
        obtain rfl := (packed_ok_iff r word).mp hw
        obtain ⟨hr, hv⟩ := (output_ok_iff s₂ b word _).mp ho
        have hs := (placeForCall_ok_iff s s₁ b input block).mp hp
        exact ⟨block, s₁, word, s₂, ⟨hs, he, hr⟩, rfl, hv⟩
  · rintro ⟨block, s₁, word, s₂, ⟨hs, he, hr⟩, rfl, rfl⟩
    have ho := (output_ok_iff s₂ b word _).mpr ⟨hr, rfl⟩
    rw [(placeForCall_ok_iff s s₁ b input block).mpr hs]
    simp only [he, packed, ho]
    rfl

theorem Returned.ran {s s₁ s₂ : Stage g H} {b : Bridge} {function : Nat} {input : Bytes}
    {block : Block} {word : UInt64} (h : s.Returned b function input block s₁ word s₂)
    (hb : s.store.bridge = some b) (hc : s.store.call.isSome) :
    ∃ ds, s.Ran ds s₂ ∧
      Deeds.entries ds = [(function, [.i32 block.ptr, .i32 block.len])] := by
  obtain ⟨ds, hr, hn⟩ := h.supplied.ran hb hc
  obtain ⟨ds', hr', hn'⟩ := (enter_ticks function [.i32 block.ptr, .i32 block.len]
    (s₁.entering function [.i32 block.ptr, .i32 block.len])).ran
  rw [h.returned] at hr'
  refine ⟨_, (hr.trans (entering_ran s₁ function _)).trans hr', ?_⟩
  rw [Deeds.entries_append, Deeds.entries_append, hn, hn']
  rfl

theorem surface_ok_iff (name : String) (message : Option String) (r : Except Failure α) (a : α) :
    surface name message r = .ok a ↔ message = none ∧ r = .ok a := by
  unfold surface
  split <;> simp_all

theorem answer_ok_iff (r : Except Failure α) (cleanup : Option Failure) (a : α) :
    answer r cleanup = .ok a ↔ r = .ok a ∧ cleanup = none := by
  unfold answer
  split <;> simp_all

structure Succeeds (s : Stage g H) (b : Bridge) (name : String) (function : Nat) (input : Bytes)
    (block : Block) (s₁ : Stage g H) (word : UInt64) (s₂ : Stage g H) : Prop
    extends (s.begun name).Returned b function input block s₁ word s₂ where
  /-- The export finds its input. -/
  holds : input ≠ [] → g.read s₁.guest b.memory block.ptr.toNat input.length = input
  /-- No message was left when the export returned. -/
  silent : Deeds.messages s₂.record = []
  /-- During the whole call no other export was entered. -/
  once : Deeds.entries ((call name input).run s).2.record =
    [(function, [.i32 block.ptr, .i32 block.len])]
  /-- The deallocator returned for each buffer that the call owned. -/
  freed : ∃ s₃, ((s₂.taken word).leaving (.ok ())).GivesBack name
    ((s₂.taken word).tracked.map fun block => (block, none)) s₃
  clean : Deeds.failures ((call name input).run s).2.record = []

/-- A stretch of work from a stage without a message leaves one exactly if one is on record. -/
theorem Ran.silent_iff {s s' : Stage g H} {ds : List Deed} (h : s.Ran ds s')
    (hs : s.store.guestError = none) : s'.store.guestError = none ↔ Deeds.messages ds = [] := by
  rw [h.message, hs, Option.or_none, List.getLast?_eq_none_iff]

/-- What the record of a whole call says, once its export has returned: which messages stand, that
the export was entered once, and that the deallocator alone can have failed. -/
theorem Returned.recorded {s s₁ s₂ s₃ : Stage g H} {b : Bridge} {name : String} {function : Nat}
    {input : Bytes} {block : Block} {word : UInt64} {r : Except Failure α} {C : List Deed}
    {blocks : List Block} {cleanup : Option Failure}
    (h : (s.begun name).Returned b function input block s₁ word s₂) (hs : s.deeds = [])
    (bridge : s.store.bridge = some b)
    (hr : ((s₂.taken word).leaving r).Released blocks C cleanup s₃) :
    ((s₂.taken word).store.guestError = none ↔ Deeds.messages s₂.record = []) ∧
      Deeds.entries (s₃.ended name r cleanup).record =
        [(function, [.i32 block.ptr, .i32 block.len])] ∧
      Deeds.failures (s₃.ended name r cleanup).record = Deeds.failures C := by
  obtain ⟨ds, hran, hent⟩ := h.ran bridge rfl
  have hbody : s₂.record = ds := hran.did.record_of_begun hs
  have hcall : (s₃.ended name r cleanup).record = ds ++ C := by
    rw [(hr.did_of_leaving name).record_eq, ← hbody]
    rfl
  refine ⟨?_, ?_, ?_⟩
  · rw [taken_guestError, hran.silent_iff rfl, hbody]
  · rw [hcall, Deeds.entries_append, hent, hr.entries, List.append_nil]
  · rw [hcall, Deeds.failures_append, hran.failures, List.nil_append]

/-- When an accepted call with octets goes well. -/
theorem call_ok_iff (hg : g.Faithful) {s : Stage g H} {b : Bridge} {name : String}
    {function : Nat} {input : Bytes} (hs : s.deeds = []) (idle : s.store.phase = .idle)
    (found : g.function? s.module name = some (function, .bytes))
    (bridge : s.store.bridge = some b) (v : Bytes) :
    ((call name input).run s).1 = .ok v ↔
      ∃ block s₁ word s₂, s.Succeeds b name function input block s₁ word s₂ ∧
        v = g.read s₂.guest b.memory (Block.unpack word).ptr.toNat
          (Block.unpack word).len.toNat := by
  have ha : s.Accepts name (call name input) (exchange b name function input) :=
    .octets function b input idle found bridge
  rcases hb : (exchange b name function input).run (s.begun name) with ⟨r, s'⟩
  obtain ⟨A, adopted, attempts, s'', -, hblocks, hgives, ht⟩ := ha.gives_back hb
  obtain ⟨C, hr, hkept⟩ := hgives.recorded
  -- Body, message and cleanup can each take the answer away, and nothing else can.
  have hok : ((call name input).run s).1 = .ok v ↔
      (s'.store.guestError = none ∧ r = .ok v) ∧ Deeds.failures C = [] := by
    rw [ht]
    dsimp only
    rw [answer_ok_iff, surface_ok_iff, ← hr.cleanup, List.head?_eq_none_iff]
  rw [hok]
  constructor
  · rintro ⟨⟨hm, rfl⟩, hf⟩
    obtain ⟨block, s₁, word, s₂, hret, rfl, hv⟩ :=
      (exchange_ok_iff _ _ b name function input v).mp hb
    obtain ⟨hsil, hone, hfail⟩ := hret.recorded hs bridge hr
    rw [hkept] at hf
    rw [(surface_ok_iff ..).mpr ⟨hm, rfl⟩, eq_map_of_keptFor hf, hblocks] at hgives
    exact ⟨block, s₁, word, s₂, {
      toReturned := hret
      holds := hret.supplied.holds hg
      silent := hsil.mp hm
      once := by rw [ht, hone]
      freed := ⟨s'', hgives⟩
      clean := by rw [ht, hfail, hkept, hf] }, hv⟩
  · rintro ⟨block, s₁, word, s₂, hsuc, rfl⟩
    have hret := hsuc.toReturned
    have he := (exchange_ok_iff _ _ b name function input _).mpr
      ⟨block, s₁, word, s₂, hret, rfl, rfl⟩
    obtain ⟨rfl, rfl⟩ := Prod.mk.inj (hb.symm.trans he)
    obtain ⟨hsil, -, hfail⟩ := hret.recorded hs bridge hr
    have hclean := hsuc.clean
    rw [ht] at hclean
    exact ⟨⟨hsil.mpr hsuc.silent, rfl⟩, hfail.symm.trans hclean⟩

end Stage

namespace Opening

structure Exchanges (g : Guest) (m : g.Module) (b : Bridge) : Prop where
  memory : ∃ type, g.export? m Name.memory = some (.memory b.memory type)
  alloc : g.function? m Name.alloc = some (b.alloc, allocType)
  dealloc : g.function? m Name.dealloc = some (b.dealloc, deallocType)

theorem Exchanges.bridge_eq {m : g.Module} {b : Bridge} (h : Exchanges g m b) :
    bridge? g m = .ok (some b) := by
  obtain ⟨⟨type, hm⟩, ha, hd⟩ := h
  unfold bridge?
  rw [hm]
  simp only [ha, hd, ne_eq, not_true_eq_false, if_false]

theorem exchanges_of_bridge {m : g.Module} {b : Bridge} (h : bridge? g m = .ok (some b)) :
    Exchanges g m b := by
  unfold bridge? at h
  split at h
  · cases h
  · rename_i memory type hm
    split at h
    · rename_i alloc allocSignature dealloc deallocSignature ha hd
      split at h
      · cases h
      · rename_i hsa
        split at h
        · cases h
        · rename_i hsd
          obtain rfl : allocSignature = allocType := Decidable.of_not_not hsa
          obtain rfl : deallocSignature = deallocType := Decidable.of_not_not hsd
          cases h
          exact ⟨⟨type, hm⟩, ha, hd⟩
    · cases h
  · cases h

theorem Exchanges.memory?_eq {m : g.Module} {b : Bridge} (h : Exchanges g m b) :
    g.memory? m = some b.memory := by
  obtain ⟨type, hm⟩ := h.memory
  unfold Guest.memory?
  rw [hm]

end Opening

namespace Plugin

/-- When a call with octets to an open plugin goes well, and what it returns. It does exactly if the
input is empty or was put into a buffer that the allocator gave, if the export was entered once with
that buffer and returned a word that names octets in memory, if the guest left no message until
then, and if the deallocator never failed. The answer is what memory held in that place when the
export returned. -/
theorem call_ok_iff_succeeds (hg : g.Faithful) {p : Plugin g H} (hp : p.Opened) {i : Instance g H}
    (hi : p.live = some i) {b : Bridge} (hb : Opening.Exchanges g p.module b) {name : String}
    {function : Nat} (hf : g.function? p.module name = some (function, .bytes)) (input : Bytes)
    (w : World H) (v : Bytes) :
    ((call name input).run (p, w)).1 = .ok v ↔
      ∃ block s₁ word s₂,
        Stage.Succeeds ⟨i, w, []⟩ b name function input block s₁ word s₂ ∧
          v = g.read s₂.guest b.memory (Block.unpack word).ptr.toNat
            (Block.unpack word).len.toNat := by
  have hr := hp.ready i hi
  have hbridge : i.store.bridge = some b := Except.ok.inj (hr.bridge.symm.trans hb.bridge_eq)
  have hfound : g.function? i.module name = some (function, .bytes) := by rw [hr.module, hf]
  obtain ⟨h, -⟩ := run_calling name (Stage.call name input) hi w (Prod.eta _).symm
  unfold call
  rw [h]
  exact Stage.call_ok_iff hg rfl hr.idle hfound hbridge v

open Wasm in
theorem echo_succeeds :
    ∃ (i : Instance engine Unit) (w : World Unit),
      (Opening.instantiate Registry.empty echo {} : HostTask Unit (Instance engine Unit)).run
          echoing.world = (.ok i, w) ∧
        ∃ block s₁ word s₂,
          Stage.Succeeds ⟨i, w, []⟩ ⟨0, 0, 1⟩ "echo" 2 [1, 2, 3] block s₁ word s₂ ∧
            [1, 2, 3] = engine.read s₂.guest 0 (Block.unpack word).ptr.toNat
              (Block.unpack word).len.toNat := by
  have hc : (match (Opening.instantiate Registry.empty echo {} :
      HostTask Unit (Instance engine Unit)).run echoing.world with
    | (.ok i, w) => ((call "echo" [1, 2, 3]).run (⟨echo, {}, some i⟩, w)).1.toOption
    | _ => none) = some [1, 2, 3] := by
    decide +kernel
  rcases ho : (Opening.instantiate Registry.empty echo {} :
    HostTask Unit (Instance engine Unit)).run echoing.world with ⟨e | i, w⟩ <;> rw [ho] at hc
  · cases hc
  refine ⟨i, w, rfl, ?_⟩
  have hm : Opening.Exchanges engine echo ⟨0, 0, 1⟩ := ⟨⟨_, rfl⟩, rfl, rfl⟩
  have hp : Opened (⟨echo, {}, some i⟩ : Plugin engine Unit) := .opened _ _ _ _ _ _ ho
  refine (call_ok_iff_succeeds engine_faithful hp rfl hm rfl [1, 2, 3] w [1, 2, 3]).mp ?_
  dsimp only at hc
  cases hr : ((call "echo" [1, 2, 3]).run (⟨echo, {}, some i⟩, w)).1 with
  | error e =>
    rw [hr] at hc
    cases hc
  | ok v =>
    rw [hr] at hc
    rw [Option.some.inj hc]

end Plugin

end PluginHost
