import PluginHost.Proofs.Memory
import PluginHost.Proofs.Moments
/-!
How far the memories of an instance grow. The machine asks before it makes or grows a memory and
obeys the answer, so no memory ever exceeds the limit. But the limit is shown one memory at a time:
it bounds all of them together only where there is one.
-/
namespace PluginHost.Wasm
variable {H : Type}

namespace Memory

theorem size_writeNumber (m : Memory) (address n octets : Nat) :
    (m.writeNumber address n octets).size = m.size := by
  induction octets generalizing m address n with
  | zero => rfl
  | succ octets ih => rw [writeNumber, ih, size_setByte]

theorem size_grow (m : Memory) (delta : Nat) :
    (m.grow delta).size = m.size + delta * pageBytes := by
  simp [size, grow, Nat.add_mul]

end Memory

structure Spares (s s' : State) : Prop where
  count : s'.memories.size = s.memories.size
  size : ∀ k, s'.memorySize k = s.memorySize k

namespace Spares
variable {s s' s'' : State}

theorem refl (s : State) : Spares s s := ⟨rfl, fun _ => rfl⟩

theorem trans (h : Spares s s') (h' : Spares s' s'') : Spares s s'' :=
  ⟨h'.count.trans h.count, fun k => (h'.size k).trans (h.size k)⟩

theorem of_memories (h : s'.memories = s.memories) : Spares s s' := by
  constructor
  · rw [h]
  · intro k
    rw [State.memorySize, h, State.memorySize]

theorem onMemory (s : State) (k : Nat) {f : Memory → Memory} (hf : ∀ m, (f m).size = m.size) :
    Spares s (s.onMemory k f) := by
  constructor
  · simp [State.onMemory]
  · intro j
    simp only [State.memorySize, State.onMemory, Array.getElem?_modify]
    by_cases hj : k = j
    · subst hj
      cases s.memories[k]? <;> simp [hf]
    · simp [hj]

theorem put {k address : Nat} {bytes : Bytes} (h : s.put k address bytes = .ok s') :
    Spares s s' := by
  unfold State.put at h
  split at h <;> cases h
  exact onMemory s k fun m => m.size_write address bytes

theorem store {k address octets n : Nat} (h : s.store k address octets n = .ok s') :
    Spares s s' := by
  unfold State.store at h
  split at h <;> cases h
  exact onMemory s k fun m => m.size_writeNumber address n octets

theorem copyMemory {target source address start length : Nat}
    (h : s.copyMemory target source address start length = .ok s') : Spares s s' := by
  unfold State.copyMemory at h
  split at h
  · split at h
    · exact put h
    · cases h
  · cases h

theorem fillMemory {k address length : Nat} {b : UInt8}
    (h : s.fillMemory k address length b = .ok s') : Spares s s' := by
  unfold State.fillMemory at h
  split at h
  · exact put h
  · cases h

theorem initMemory {k segment address start length : Nat}
    (h : s.initMemory k segment address start length = .ok s') : Spares s s' := by
  unfold State.initMemory at h
  dsimp only at h
  split at h
  · exact put h
  · cases h

theorem setElements {k i : Nat} {vs : List Value} (h : s.setElements k i vs = .ok s') :
    Spares s s' := by
  unfold State.setElements at h
  split at h <;> cases h
  exact of_memories rfl

theorem copyTable {target source i start length : Nat}
    (h : s.copyTable target source i start length = .ok s') : Spares s s' := by
  unfold State.copyTable at h
  split at h
  · split at h
    · exact setElements h
    · cases h
  · cases h

theorem fillTable {k i length : Nat} {v : Value} (h : s.fillTable k i length v = .ok s') :
    Spares s s' := by
  unfold State.fillTable at h
  split at h
  · exact setElements h
  · cases h

theorem initTable {k segment i start length : Nat}
    (h : s.initTable k segment i start length = .ok s') : Spares s s' := by
  unfold State.initTable at h
  dsimp only at h
  split at h
  · exact setElements h
  · cases h

end Spares

/-- What went well in two steps went well in each. -/
theorem of_bind_ok {α β : Type} {r : Except TrapCause α} {f : α → Except TrapCause β} {b : β}
    (h : (r >>= f) = .ok b) : ∃ a, r = .ok a ∧ f a = .ok b := by
  cases r with
  | error e => cases h
  | ok a => exact ⟨a, rfl, h⟩

namespace Machine

/-- Instructions that go on at once neither make nor grow a memory. -/
theorem onState_spares {i : Instr} {s s' : State} {vs vs' : List Value}
    (h : onState i s vs = .ok (vs', s')) : Spares s s' := by
  unfold onState at h
  split at h
  · obtain ⟨n, -, hn⟩ := of_bind_ok h
    cases hn
    exact .refl s
  · obtain ⟨t, ht, hn⟩ := of_bind_ok h
    cases hn
    exact .store ht
  · cases h
    exact .refl s
  · cases h
    exact .of_memories rfl
  · cases h
    exact .refl s
  · obtain ⟨t, ht, hn⟩ := of_bind_ok h
    cases hn
    exact .copyMemory ht
  · obtain ⟨t, ht, hn⟩ := of_bind_ok h
    cases hn
    exact .fillMemory ht
  · obtain ⟨t, ht, hn⟩ := of_bind_ok h
    cases hn
    exact .initMemory ht
  · cases h
    exact .of_memories rfl
  · obtain ⟨v, -, hn⟩ := of_bind_ok h
    cases hn
    exact .refl s
  · obtain ⟨t, ht, hn⟩ := of_bind_ok h
    cases hn
    exact .setElements ht
  · cases h
    exact .refl s
  · obtain ⟨t, ht, hn⟩ := of_bind_ok h
    cases hn
    exact .copyTable ht
  · obtain ⟨t, ht, hn⟩ := of_bind_ok h
    cases hn
    exact .fillTable ht
  · obtain ⟨t, ht, hn⟩ := of_bind_ok h
    cases hn
    exact .initTable ht
  · cases h
    exact .of_memories rfl
  · obtain ⟨ws, -, hn⟩ := of_bind_ok h
    cases hn
    exact .refl s

theorem foldlM_spares {α : Type} {f : State → α → Except TrapCause State}
    (hf : ∀ s x s', f s x = .ok s' → Spares s s') (xs : List α) {s s' : State}
    (h : xs.foldlM f s = .ok s') : Spares s s' := by
  induction xs generalizing s with
  | nil =>
    cases h
    exact .refl _
  | cons x xs ih =>
    rw [List.foldlM_cons] at h
    obtain ⟨t, ht, hr⟩ := of_bind_ok h
    exact (hf s x t ht).trans (ih hr)

theorem fillTable_spares {s s' : State} {k : Nat} {e : ElemSegment}
    (h : fillTable s k e = .ok s') : Spares s s' := by
  unfold fillTable at h
  split at h
  · cases h
    exact .refl _
  · cases h
    exact .of_memories rfl
  · obtain ⟨t, ht, hr⟩ := of_bind_ok h
    cases hr
    exact (Spares.setElements ht).trans (.of_memories rfl)

theorem fillMemory_spares {s s' : State} {k : Nat} {d : DataSegment}
    (h : fillMemory s k d = .ok s') : Spares s s' := by
  unfold fillMemory at h
  split at h
  · obtain ⟨t, ht, hr⟩ := of_bind_ok h
    cases hr
    exact (Spares.put ht).trans (.of_memories rfl)
  · cases h
    exact .refl _

theorem fill_spares {p : Program} {s s' : State} (h : fill p s = .ok s') : Spares s s' := by
  unfold fill at h
  obtain ⟨t, ht, hr⟩ := of_bind_ok h
  have htables := foldlM_spares (fun _ _ _ hs => fillTable_spares hs) _ ht
  have hmemories := foldlM_spares (fun _ _ _ hs => fillMemory_spares hs) _ hr
  refine Spares.trans (Spares.trans (Spares.of_memories ?_) htables) hmemories
  rfl

end Machine

structure State.Within (limit count : Nat) (s : State) : Prop where
  count : s.memories.size ≤ count
  size : ∀ k, s.memorySize k ≤ limit

theorem Spares.within {s s' : State} {limit count : Nat} (h : Spares s s')
    (hs : s.Within limit count) : s'.Within limit count where
  count := by
    rw [h.count]
    exact hs.count
  size := by
    intro k
    rw [h.size]
    exact hs.size k

def Task.makesMemory : Task → Bool
  | .memory _ => true
  | _ => false

namespace Code

def settled : Code → Bool
  | .either .. | .growingMemory .. | .growingTable .. => false
  | _ => true

def Room (limit : Nat) (s : State) : Code → Prop
  | .either _ no => no.settled
  | .growingMemory k delta next =>
    s.memorySize k + delta * Memory.pageBytes ≤ limit ∧ next.settled
  | .growingTable _ _ _ next => next.settled
  | _ => True

def owed : Code → Nat
  | .making tasks => tasks.countP Task.makesMemory
  | .either yes no => max yes.owed no.owed
  | .growingMemory _ _ next => next.owed
  | .growingTable _ _ _ next => next.owed
  | _ => 0

/-- The code and the state keep to a limit for each of so many memories. -/
structure Keeps (limit count : Nat) (code : Code) (s : State) : Prop where
  within : s.Within limit count
  room : code.Room limit s
  owed : s.memories.size + code.owed ≤ count

theorem Keeps.of_settled {limit count : Nat} {code : Code} {s : State}
    (hs : s.Within limit count) (hc : code.settled = true)
    (ho : s.memories.size + code.owed ≤ count) : code.Keeps limit count s where
  within := hs
  room := by
    cases code <;> trivial
  owed := ho

end Code

namespace Machine

def Leads (limit count : Nat) : Step State Code → Prop
  | .next _ code s => code.Keeps limit count s
  | .check _ code s => code.Keeps limit count s
  | .growMemory _ desired _ code s =>
    ∀ allowed, (allowed = true → desired ≤ limit) → (answer allowed code).Keeps limit count s
  | .growTable _ _ code s => ∀ allowed, (answer allowed code).Keeps limit count s
  | .call _ _ _ _ code s =>
    s.Within limit count ∧
      ∀ results t, t.Within limit count → (resume results code).Keeps limit count t
  | .finished _ s => s.Within limit count
  | .trapped _ s => s.Within limit count

variable {limit count : Nat} {s : State}

theorem keeps_running (hs : s.Within limit count) (frame : Frame) (thread : Thread) :
    (Code.running frame thread).Keeps limit count s := ⟨hs, trivial, hs.count⟩

theorem keeps_returning (hs : s.Within limit count) (results : List Value) (thread : Thread) :
    (Code.returning results thread).Keeps limit count s := ⟨hs, trivial, hs.count⟩

theorem keeps_entering (hs : s.Within limit count) (function : Nat) (args : List Value)
    (caller : Caller) (thread : Thread) :
    (Code.entering function args caller thread).Keeps limit count s := ⟨hs, trivial, hs.count⟩

theorem goOn_leads (hs : s.Within limit count) (cost : Nat) (frame : Frame) (thread : Thread) :
    Leads limit count (goOn cost frame thread s) := keeps_running hs frame thread

theorem branch_leads (hs : s.Within limit count) (label : Nat) (frame : Frame)
    (thread : Thread) : Leads limit count (branch label frame thread s) := by
  unfold branch
  split
  · exact goOn_leads hs _ _ _
  · exact keeps_returning hs _ _

theorem closeBlock_leads (hs : s.Within limit count) (code : List Instr) (frame : Frame)
    (thread : Thread) : Leads limit count (closeBlock code frame thread s) := by
  unfold closeBlock
  split
  · exact goOn_leads hs _ _ _
  · exact keeps_returning hs _ _

theorem look_leads (hs : s.Within limit count) (frame : Frame) (thread : Thread) :
    Leads limit count (look frame thread s) := by
  unfold look
  split <;> exact keeps_running hs _ _

theorem call_leads (hs : s.Within limit count) (p : Program) (function : Nat) (last : Bool)
    (frame : Frame) (thread : Thread) :
    Leads limit count (call p function last frame thread s) := by
  unfold call
  split
  · exact hs
  · dsimp only
    split <;> exact keeps_entering hs _ _ _ _

theorem callIndirect_leads (hs : s.Within limit count) (p : Program) (type table : Nat)
    (last : Bool) (frame : Frame) (thread : Thread) :
    Leads limit count (callIndirect p type table last frame thread s) := by
  unfold callIndirect
  split
  · split
    · dsimp only
      split <;> split
      · exact call_leads hs ..
      · exact hs
      · exact call_leads hs ..
      · exact hs
    · exact hs
    · exact hs
  · exact hs

/-- A memory only grows where the host allowed what was asked for. -/
theorem growMemory_leads (hs : s.Within limit count) (k : Nat) (frame : Frame)
    (thread : Thread) : Leads limit count (growMemory k frame thread s) := by
  unfold growMemory
  split
  · dsimp only
    split
    · exact keeps_running hs _ _
    · intro allowed ha
      cases allowed with
      | false => exact keeps_running hs _ _
      | true =>
        have hd := ha rfl
        refine ⟨hs, ⟨?_, rfl⟩, hs.count⟩
        have hp : s.memorySize k = s.pageCount k * Memory.pageBytes := by
          unfold State.memorySize State.pageCount
          cases s.memories[k]? <;> simp [Memory.size, Memory.pageCount]
        rw [hp, ← Nat.add_mul]
        exact hd
  · exact hs

theorem growTable_leads (hs : s.Within limit count) (k : Nat) (frame : Frame)
    (thread : Thread) : Leads limit count (growTable k frame thread s) := by
  unfold growTable
  split
  · dsimp only
    split
    · exact keeps_running hs _ _
    · intro allowed
      cases allowed with
      | false => exact keeps_running hs _ _
      | true => exact ⟨hs, rfl, hs.count⟩
  · exact hs

theorem instr_leads (hs : s.Within limit count) (p : Program) (i : Instr) (frame : Frame)
    (thread : Thread) : Leads limit count (instr p i frame thread s) := by
  unfold instr
  split
  · exact hs
  · exact goOn_leads hs _ _ _
  · exact look_leads hs _ _
  · split
    · dsimp only
      split
      · exact goOn_leads hs _ _ _
      · split <;> exact goOn_leads hs _ _ _
    · exact hs
  · exact closeBlock_leads hs _ _ _
  · exact closeBlock_leads hs _ _ _
  · exact branch_leads hs _ _ _
  · split
    · dsimp only
      split
      · exact branch_leads hs _ _ _
      · exact goOn_leads hs _ _ _
    · exact hs
  · split
    · exact branch_leads hs _ _ _
    · exact hs
  · exact keeps_returning hs _ _
  · exact call_leads hs ..
  · exact callIndirect_leads hs ..
  · exact call_leads hs ..
  · exact callIndirect_leads hs ..
  · exact goOn_leads hs _ _ _
  · split
    · exact goOn_leads hs _ _ _
    · exact hs
  · split
    · exact goOn_leads hs _ _ _
    · exact hs
  · exact growMemory_leads hs ..
  · exact growTable_leads hs ..
  · exact goOn_leads hs _ _ _
  · exact goOn_leads hs _ _ _
  · split
    · rename_i ho
      exact goOn_leads ((onState_spares ho).within hs) _ _ _
    · exact hs

theorem enter_leads (hs : s.Within limit count) (p : Program) (function : Nat)
    (args : List Value) (caller : Caller) (thread : Thread) :
    Leads limit count (enter p function args caller thread s) := by
  unfold enter
  split
  · exact hs
  · split
    · exact ⟨hs, fun results t ht => keeps_returning ht _ _⟩
    · split
      · exact hs
      · exact ⟨hs, trivial, hs.count⟩

theorem within_push (hs : s.Within limit count) (hc : s.memories.size + 1 ≤ count)
    (maximum : Option Nat) :
    ({ s with memories := s.memories.push (.empty maximum) } : State).Within limit count where
  count := by simpa using hc
  size := by
    intro k
    have hk := hs.size k
    simp only [State.memorySize, Array.getElem?_push] at hk ⊢
    split
    · simp [Memory.size, Memory.empty]
    · exact hk

theorem memorySize_push (s : State) (maximum : Option Nat) :
    ({ s with memories := s.memories.push (.empty maximum) } : State).memorySize
      s.memories.size = 0 := by
  simp [State.memorySize, Memory.size, Memory.empty]

theorem make_leads {tasks : List Task} (hs : (Code.making tasks).Keeps limit count s)
    (p : Program) : Leads limit count (make p tasks s) := by
  have ho := hs.owed
  unfold make
  split
  · exact hs.within
  · rename_i t tasks
    have hn : s.memories.size + 1 + tasks.countP Task.makesMemory ≤ count := by
      simp only [Code.owed, List.countP_cons, Task.makesMemory, if_true] at ho
      omega
    have hw := within_push hs.within (by omega) t.limits.maximum
    intro allowed ha
    cases allowed with
    | false => exact .of_settled hw rfl hw.count
    | true =>
      refine ⟨hw, ⟨?_, rfl⟩, ?_⟩
      · rw [memorySize_push, Nat.zero_add]
        exact ha rfl
      · simpa [Code.owed, answer] using hn
  · rename_i t tasks
    intro allowed
    cases allowed with
    | false => exact ⟨⟨hs.within.count, hs.within.size⟩, trivial, hs.within.count⟩
    | true => exact ⟨⟨hs.within.count, hs.within.size⟩, rfl, ho⟩
  · rename_i tasks
    split
    · rename_i t ht
      have hf := fill_spares ht
      refine ⟨hf.within hs.within, trivial, ?_⟩
      rw [hf.count]
      exact ho
    · exact hs.within
  · exact keeps_entering hs.within _ _ _ _

theorem within_grow (hs : s.Within limit count) {k delta : Nat}
    (hk : s.memorySize k + delta * Memory.pageBytes ≤ limit) :
    (s.onMemory k fun m => m.grow delta).Within limit count where
  count := by simpa [State.onMemory] using hs.count
  size := by
    intro j
    have hj := hs.size j
    simp only [State.memorySize, State.onMemory, Array.getElem?_modify] at hk hj ⊢
    by_cases he : k = j
    · subst he
      cases hm : s.memories[k]? with
      | none => simp
      | some m =>
        rw [hm] at hk
        simpa [Memory.size_grow] using hk
    · simpa [he] using hj

/-- Every step keeps to the limit, if the host allows no more than that. -/
theorem step_leads {code : Code} (hs : code.Keeps limit count s) (p : Program) :
    Leads limit count (step p code s) := by
  have ho := hs.owed
  have hr := hs.room
  unfold step
  split
  · exact instr_leads hs.within ..
  · exact closeBlock_leads hs.within ..
  · exact enter_leads hs.within ..
  · exact look_leads hs.within ..
  · split
    · exact hs.within
    · exact goOn_leads hs.within _ _ _
  · rename_i yes no
    have hn : no.owed ≤ (Code.either yes no).owed := Nat.le_max_right ..
    exact .of_settled hs.within hr (by omega)
  · rename_i k delta next
    have hn : s.memories.size + next.owed ≤ count := ho
    exact .of_settled (within_grow hs.within hr.1) hr.2 (by simpa [State.onMemory] using hn)
  · exact .of_settled ⟨hs.within.count, hs.within.size⟩ hr ho
  · exact make_leads hs p
  · exact hs.within

end Machine

def Limited (s : Stage engine H) : Prop :=
  State.Within s.store.limit.maxMemoryBytes s.module.memories.length s.guest

def LimitedBy (code : Code) (s : Stage engine H) : Prop :=
  code.Keeps s.store.limit.maxMemoryBytes s.module.memories.length s.guest

theorem engine_write_spares (s : State) (memory address : Nat) (bytes : Bytes) :
    Spares s (engine.write s memory address bytes) :=
  .onMemory s memory fun m => m.size_write address bytes

theorem limited_of_spares {s s' : Stage engine H} (hf : s'.fixed = s.fixed)
    (hg : Spares s.guest s'.guest) (hs : Limited s) : Limited s' := by
  have hl : s'.store.limit.maxMemoryBytes = s.store.limit.maxMemoryBytes :=
    congrArg Stage.Fixed.maxMemoryBytes hf
  have hm : s'.module = s.module := congrArg Stage.Fixed.module hf
  unfold Limited
  rw [hl, hm]
  exact hg.within hs

theorem limited_host {s s' : Stage engine H} (h : Stage.HostTick s s') (hs : Limited s) :
    Limited s' := by
  refine limited_of_spares (Stage.Tick.host s s' h).fixed_eq ?_ hs
  cases h <;> exact .refl _

/-- System calls only write into memories that there are. -/
theorem limited_system (c : SystemCall) (caller : Caller) (args : List Value)
    {s : Stage engine H} (hs : Limited s) : Limited (ImportCall.system c caller args s).2 := by
  refine limited_of_spares (ImportCall.system_ticks c caller args s).fixed_eq ?_ hs
  obtain h | ⟨memory, written, h⟩ := ImportCall.system_stage c caller args s <;> rw [h]
  · exact .refl _
  · clear h
    induction written with
    | nil => exact .refl _
    | cons x xs ih => exact ih.trans (engine_write_spares _ memory x.1 x.2)

open Machine in
theorem leads_of_step {code : Code} {s : Stage engine H} {st : Step State Code}
    (hs : LimitedBy code s) (hc : engine.step s.module code s.guest = st) :
    Leads s.store.limit.maxMemoryBytes s.module.memories.length st := by
  rw [← hc]
  exact step_leads hs s.module

open Machine in
/-- No step of guest code, and nothing that the host does for it, exceeds the limit. -/
theorem limited_sustained : Stage.Sustained (Limited (H := H)) LimitedBy where
  host := fun _ _ h hs => limited_host h hs
  system := fun c caller args _ hs => limited_system c caller args hs
  placed := fun s b block bytes h hs =>
    limited_of_spares (Stage.Tick.placed s b block bytes h).fixed_eq
      (engine_write_spares s.guest b.memory block.ptr.toNat bytes) hs
  weaken := fun _ _ hs => hs.within
  enter := fun _ _ _ _ hs => keeps_entering hs ..
  next := fun _ _ _ _ _ hs hc => leads_of_step hs hc
  check := fun _ _ _ _ _ hs hc => leads_of_step hs hc
  growMemory := by
    intro code s current desired maximum code' t hs hc
    have hl := leads_of_step hs hc
    unfold LimitedBy Stage.askMemory GrowthLimit.askMemory
    dsimp only
    split
    · rename_i ha
      simp only [Bool.and_eq_true, decide_eq_true_eq] at ha
      exact hl true fun _ => ha.1
    · exact hl false nofun
  growTable := fun _ _ _ _ _ _ hs hc => leads_of_step hs hc _
  call := by
    intro code s index args caller depth code' t hs hc
    obtain ⟨ht, hr⟩ := leads_of_step hs hc
    refine ⟨ht, fun results s' hf hs' => ?_⟩
    have hl : s'.store.limit.maxMemoryBytes = s.store.limit.maxMemoryBytes :=
      congrArg Stage.Fixed.maxMemoryBytes hf
    have hm : s'.module = s.module := congrArg Stage.Fixed.module hf
    unfold Limited at hs'
    unfold LimitedBy
    rw [hl, hm] at hs' ⊢
    exact hr results s'.guest hs'
  finished := fun _ _ _ _ hs hc => leads_of_step hs hc
  trapped := fun _ _ _ _ hs hc => leads_of_step hs hc

theorem limited_enduring : Stage.Enduring (Limited (H := H)) LimitedBy where
  sustained := limited_sustained
  apart := by
    intro s s' h hs
    unfold Limited
    rw [h.module, h.guest, h.limit]
    exact hs
  begun := fun _ _ hs => hs
  opened := fun _ _ hs => hs
  anew := fun _ _ _ _ hs => hs
  assigned := fun _ _ _ _ _ hs => hs
  cleared := fun _ hs => hs

theorem starting_limited (p : Program) (providers : List (Provider H)) (settings : Settings)
    (w : World H) : LimitedBy (engine.start p).2 (Opening.starting p providers settings w) := by
  have hn : (Machine.tasks p).countP Task.makesMemory = p.memories.length := by
    have hs : p.start.toList.countP (Task.makesMemory ∘ .start) = 0 := by
      simp [List.countP_eq_zero, Task.makesMemory]
    have ht : p.tables.countP (Task.makesMemory ∘ .table) = 0 := by
      simp [List.countP_eq_zero, Task.makesMemory]
    have hm : p.memories.countP (Task.makesMemory ∘ .memory) = p.memories.length := by
      simp [List.countP_eq_length, Task.makesMemory]
    simp [Machine.tasks, List.countP_append, List.countP_map, hs, ht, hm, Task.makesMemory]
  refine ⟨⟨Nat.zero_le _, fun k => Nat.zero_le _⟩, trivial, ?_⟩
  change 0 + (Machine.tasks p).countP Task.makesMemory ≤ p.memories.length
  omega

/-- At every moment no memory exceeds the limit, and there are no more memories than the module
has. -/
theorem memory_within_limit {p : Program} {settings : Settings} {a : Activity engine H}
    {s : Stage engine H} (h : Plugin.Moment p settings a s) :
    State.Within settings.maxMemoryBytes p.memories.length s.guest := by
  have hs : Limited s := h.keeps limited_enduring fun providers w =>
    starting_limited p providers settings w
  obtain ⟨hm, hl⟩ := h.of_origin
  unfold Limited at hs
  rwa [hm, hl] at hs

/-- What the host answers where a memory is to be grown: it allows no more than the limit, which
stays as it is. -/
theorem askMemory_cases (s : Stage engine H) (current desired : Nat) (maximum : Option Nat) :
    (desired ≤ s.store.limit.maxMemoryBytes ∧
        s.askMemory current desired maximum = (true, s)) ∨
      ∃ s', s.askMemory current desired maximum = (false, s') := by
  unfold Stage.askMemory GrowthLimit.askMemory
  by_cases ha : (decide (desired ≤ s.store.limit.maxMemoryBytes) &&
      maximum.all (decide <| desired ≤ ·)) = true
  · left
    rw [if_pos ha]
    simp only [Bool.and_eq_true, decide_eq_true_eq] at ha
    exact ⟨ha.1, rfl⟩
  · right
    rw [if_neg ha]
    exact ⟨_, rfl⟩

/-- A start computation that ends well was allowed each memory that it made. -/
theorem of_making {t : MemType} {tasks : List Task} {n : Nat} {s : Stage engine H}
    {results : List Value}
    (h : (Stage.execute (g := engine) n (.making (.memory t :: tasks)) s).1 = .ok results) :
    t.limits.minimum * Memory.pageBytes ≤ s.store.limit.maxMemoryBytes ∧
      ∃ (n' : Nat) (s' : Stage engine H), s'.store.limit = s.store.limit ∧
        (Stage.execute (g := engine) n' (.making tasks) s').1 = .ok results := by
  obtain ⟨⟨module, providers, guest, store⟩, world, deeds⟩ := s
  cases n with
  | zero => cases h
  | succ n =>
    let k := (State.memories guest).size
    let made : State :=
      { (guest : State) with memories := (State.memories guest).push (.empty t.limits.maximum) }
    let grown : State := made.onMemory k fun m => m.grow t.limits.minimum
    let code : Code := .either (.growingMemory k t.limits.minimum (.making tasks))
      (.stopping (.engine "memory minimum size exceeds memory limits"))
    let s₁ : Stage engine H := ⟨⟨module, providers, made, store⟩, world, deeds⟩
    have hs : ∀ allowed s', s₁.askMemory 0 (t.limits.minimum * Memory.pageBytes)
          (t.limits.maximum.map (· * Memory.pageBytes)) = (allowed, s') →
        (Stage.execute (g := engine) n (Machine.answer allowed code) s').1 = .ok results := by
      intro allowed s' ha
      rw [← h]
      change _ = (Stage.execute (g := engine) n
        (Machine.answer (s₁.askMemory 0 _ _).1 code) (s₁.askMemory 0 _ _).2).1
      rw [ha]
    rcases askMemory_cases s₁ 0 (t.limits.minimum * Memory.pageBytes)
      (t.limits.maximum.map (· * Memory.pageBytes)) with ⟨hle, ha⟩ | ⟨s', ha⟩
    · have hr := hs true s₁ ha
      cases n with
      | zero => cases hr
      | succ n => exact ⟨hle, n, ⟨⟨module, providers, grown, store.spend 1⟩, world, deeds⟩, rfl, hr⟩
    · have hr := hs false s' ha
      cases n <;> cases hr

/-- No start computation ends well that has still to make a memory above the limit. -/
theorem making_fails (memories : List MemType) (rest : List Task) (n : Nat) {s : Stage engine H}
    (hover : ∃ t ∈ memories, s.store.limit.maxMemoryBytes < t.limits.minimum * Memory.pageBytes)
    (results : List Value) :
    (Stage.execute (g := engine) n (.making (memories.map .memory ++ rest)) s).1 ≠
      .ok results := by
  -- The host refuses the first memory that is not within the limit.
  induction memories generalizing n s with
  | nil => simp at hover
  | cons t memories ih =>
    intro h
    obtain ⟨hle, n', s', hl, h'⟩ := of_making h
    refine ih n' ?_ h'
    obtain ⟨u, hu, hlt⟩ := hover
    rw [hl]
    cases hu with
    | head => omega
    | tail _ hu => exact ⟨u, hu, hlt⟩

/-- A module with a memory above the limit never opens. -/
theorem never_opens {p : Program} {settings : Settings} {t : MemType} (ht : t ∈ p.memories)
    (hover : settings.maxMemoryPages < t.limits.minimum) (registry : Registry H) (w : World H)
    (i : Instance engine H) (w' : World H) :
    (Opening.instantiate registry p settings).run w ≠ (.ok i, w') := by
  intro h
  obtain ⟨providers, i₀, bridge, w₁, w₂, w₃, -, -, hb, -, -⟩ := Opening.of_instantiate h
  obtain ⟨results, s, he, -, -⟩ := Opening.of_begin hb
  have hlt : settings.maxMemoryPages * pageSize < t.limits.minimum * Memory.pageBytes :=
    Nat.mul_lt_mul_of_pos_right hover (by decide)
  have hf := making_fails p.memories (p.tables.map .table ++ [.fill] ++ p.start.toList.map .start)
    engine.stepLimit (s := Opening.starting p providers settings w₂) ⟨t, ht, hlt⟩ results
  rw [← List.append_assoc, ← List.append_assoc] at hf
  exact hf (congrArg Prod.fst he)

theorem State.Within.total_le {limit : Nat} {s : State} (h : s.Within limit 1) :
    total (engine.sizes s) ≤ limit := by
  obtain ⟨⟨memories⟩, tables, globals, elems, data⟩ := s
  obtain ⟨hc, hs⟩ := h
  change total (memories.map Memory.size) ≤ limit
  cases memories with
  | nil => exact Nat.zero_le _
  | cons m rest =>
    have hr : rest = [] := by simpa using hc
    have hm := hs 0
    subst hr
    simpa [total, State.memorySize] using hm

/-- All memories of an instance together stay within the limit where its module has at most one,
and a module whose memory starts above the limit never opens. -/
theorem single_memory_within_limit {p : Program} (single : p.memories.length ≤ 1)
    (settings : Settings) :
    (∀ (a : Activity engine H) s, Plugin.Moment p settings a s →
      total (engine.sizes s.guest) ≤ settings.maxMemoryPages * pageSize) ∧
    (settings.maxMemoryPages < total (p.memories.map fun t => t.limits.minimum) →
      ∀ (registry : Registry H) w (i : Instance engine H) w',
        (Opening.instantiate registry p settings).run w ≠ (.ok i, w')) := by
  constructor
  · intro a s hm
    have hw := memory_within_limit hm
    exact State.Within.total_le ⟨Nat.le_trans hw.count single, hw.size⟩
  · intro hover registry w i w'
    cases hp : p.memories with
    | nil => simp [hp, total] at hover
    | cons t rest =>
      have hr : rest = [] := by simpa [hp] using single
      have hlt : settings.maxMemoryPages < t.limits.minimum := by simpa [hp, hr, total] using hover
      exact never_opens (by simp [hp]) hlt registry w i w'

def openedWith (p : Program) (pages : Nat) : Option Nat :=
  ((Opening.instantiate Registry.empty p { maxMemoryPages := pages } :
    HostTask Unit (Instance engine Unit)).run echoing.world).1.toOption.map fun i =>
      total (engine.sizes i.guest)

theorem of_openedWith {p : Program} {pages octets : Nat}
    (h : openedWith p pages = some octets) :
    ∃ (i : Instance engine Unit) (w : World Unit),
      Plugin.Moment p { maxMemoryPages := pages } .waiting (⟨i, w, []⟩ : Stage engine Unit) ∧
        total (engine.sizes i.guest) = octets := by
  unfold openedWith at h
  rcases ho : (Opening.instantiate Registry.empty p { maxMemoryPages := pages } :
    HostTask Unit (Instance engine Unit)).run echoing.world with ⟨e | i, w⟩ <;> rw [ho] at h
  · cases h
  · exact ⟨i, w, .waiting _ i w (.opened _ p _ _ _ i ho) rfl rfl, Option.some.inj h⟩

/-- The module of `echo` opens with the one page that it is allowed, and never without. -/
theorem echo_within_limit :
    (∃ (i : Instance engine Unit) (w : World Unit),
      Plugin.Moment echo { maxMemoryPages := 1 } .waiting (⟨i, w, []⟩ : Stage engine Unit) ∧
        total (engine.sizes i.guest) ≤ 1 * pageSize) ∧
    ∀ (i : Instance engine Unit) w,
      (Opening.instantiate Registry.empty echo { maxMemoryPages := 0 }).run echoing.world ≠
        (.ok i, w) := by
  constructor
  · have ho : openedWith echo 1 = some 65536 := by decide +kernel
    obtain ⟨i, w, hm, -⟩ := of_openedWith ho
    exact ⟨i, w, hm, (single_memory_within_limit (by decide) _).1 _ _ hm⟩
  · exact (single_memory_within_limit (by decide) _).2 (by decide) Registry.empty echoing.world

def twin : Program :=
  { echo with memories := [⟨⟨1, none⟩, false, false, none⟩, ⟨⟨1, none⟩, false, false, none⟩] }

/-- The host allows each of two memories one page, so both together have two where the limit is
one. -/
theorem twin_exceeds_limit :
    1 < total (twin.memories.map fun t => t.limits.minimum) ∧
      ∃ (i : Instance engine Unit) (w : World Unit),
        Plugin.Moment twin { maxMemoryPages := 1 } .waiting (⟨i, w, []⟩ : Stage engine Unit) ∧
          1 * pageSize < total (engine.sizes i.guest) := by
  refine ⟨by decide, ?_⟩
  have ho : openedWith twin 1 = some 131072 := by decide +kernel
  obtain ⟨i, w, hm, ht⟩ := of_openedWith ho
  refine ⟨i, w, hm, ?_⟩
  rw [ht]
  decide

end PluginHost.Wasm
