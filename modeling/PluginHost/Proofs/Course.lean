import PluginHost.Proofs.Entries
/-!
The course of a call: host and guest take turns. Guest code changes memory by its own steps and by
the system calls that it asks for. What the host stores is marked, and so are each growth that was
refused and each place where the host entered guest code, in the order in which they came about.
-/
namespace PluginHost
variable {g : Guest} {H α : Type}

inductive Mark (g : Guest) (H : Type) where
  | refused (desired : Nat)
  | entered (d : Deed)
  /-- The allocator had returned in this stage, and the host put octets into the buffer. -/
  | stored (given : Stage g H) (b : Bridge) (block : Block) (bytes : Bytes)

namespace Mark

def refusal? : Mark g H → Option Nat
  | .refused desired => some desired
  | _ => none

def entry? : Mark g H → Option Deed
  | .entered d => some d
  | _ => none

def block? : Mark g H → Option Block
  | .stored _ _ block _ => some block
  | _ => none

end Mark

def refusals (marks : List (Mark g H)) : List Nat := marks.filterMap Mark.refusal?

def entrances (marks : List (Mark g H)) : List Deed := marks.filterMap Mark.entry?

def stores (marks : List (Mark g H)) : List Block := marks.filterMap Mark.block?

@[simp] theorem refusals_append (ms ms' : List (Mark g H)) :
    refusals (ms ++ ms') = refusals ms ++ refusals ms' := List.filterMap_append

@[simp] theorem entrances_append (ms ms' : List (Mark g H)) :
    entrances (ms ++ ms') = entrances ms ++ entrances ms' := List.filterMap_append

@[simp] theorem stores_append (ms ms' : List (Mark g H)) :
    stores (ms ++ ms') = stores ms ++ stores ms' := List.filterMap_append

inductive Actor (g : Guest) where
  /-- The host; all guest code that it entered has ended. -/
  | host (role : Stage.Role)
  /-- The host, or guest code that it entered. -/
  | amid (role : Stage.Role)
  /-- Guest code, until it ends or, where no ending is given, is left as it is. -/
  | guest (code : g.Code) (ending : Option Ending)

namespace Stage

/-- Work of the host that has nothing to do with what the guest holds, its allocator and the limit
of its memory, and of which no note is left that has to do with exports and buffers. -/
structure Aloof (s s' : Stage g H) : Prop where
  module : s'.module = s.module
  guest : s'.guest = s.guest
  bridge : s'.store.bridge = s.store.bridge
  limit : s'.store.limit = s.store.limit
  quiet : ∃ ds, s.Did ds s' ∧ Deeds.returned ds = [] ∧ Deeds.entries ds = [] ∧ Deeds.given ds = []

inductive Moves (code : g.Code) (s : Stage g H) : List (Mark g H) → g.Code → Stage g H → Prop
  | next {cost : Nat} {code' : g.Code} {t : g.State}
      (step : g.step s.module code s.guest = .next cost code' t) :
      Moves code s [] code' ({ s with guest := t }.updateStore fun u => u.spend cost)
  | check {elapsed : Nat} {code' : g.Code} {t : g.State}
      (step : g.step s.module code s.guest = .check elapsed code' t)
      (early : s.store.stop? elapsed = none) :
      Moves code s [] code' ({ s with guest := t }.updateStore fun u => u.advance elapsed)
  | granted {current desired : Nat} {maximum : Option Nat} {code' : g.Code} {t : g.State}
      (step : g.step s.module code s.guest = .growMemory current desired maximum code' t)
      (allowed : (askMemory { s with guest := t } current desired maximum).1 = true) :
      Moves code s [] (g.answer true code')
        (askMemory { s with guest := t } current desired maximum).2
  | refused {current desired : Nat} {maximum : Option Nat} {code' : g.Code} {t : g.State}
      (step : g.step s.module code s.guest = .growMemory current desired maximum code' t)
      (allowed : (askMemory { s with guest := t } current desired maximum).1 = false) :
      Moves code s [.refused desired] (g.answer false code')
        (askMemory { s with guest := t } current desired maximum).2
  | growTable {desired : Nat} {maximum : Option Nat} {code' : g.Code} {t : g.State}
      (step : g.step s.module code s.guest = .growTable desired maximum code' t) :
      Moves code s [] (g.answer (GrowthLimit.askTable desired maximum) code')
        { s with guest := t }
  | answered {index depth : Nat} {args results : List Value} {caller : Caller} {code' : g.Code}
      {t : g.State} {c : SystemCall} {s' : Stage g H}
      (step : g.step s.module code s.guest = .call index args caller depth code' t)
      (bound : s.providers[index]? = some (.system c))
      (answer : ImportCall.system c caller args { s with guest := t } = (.ok results, s')) :
      Moves code s [] (g.resume results code') s'

inductive Halts (code : g.Code) (s : Stage g H) : Ending → Stage g H → Prop
  | finished {results : List Value} {t : g.State}
      (step : g.step s.module code s.guest = .finished results t) :
      Halts code s (.ok results) { s with guest := t }
  | trapped {cause : TrapCause} {t : g.State}
      (step : g.step s.module code s.guest = .trapped cause t) :
      Halts code s (.error (.trapped cause)) { s with guest := t }
  | late {elapsed : Nat} {code' : g.Code} {t : g.State} {h : Halt}
      (step : g.step s.module code s.guest = .check elapsed code' t)
      (late : s.store.stop? elapsed = some h) :
      Halts code s (.error h) ({ s with guest := t }.updateStore fun u => u.advance elapsed)
  | unbound {index depth : Nat} {args : List Value} {caller : Caller} {code' : g.Code}
      {t : g.State} (step : g.step s.module code s.guest = .call index args caller depth code' t)
      (unbound : s.providers[index]? = none) :
      Halts code s (.error (.trapped (.engine "no such import"))) { s with guest := t }
  | barred {index depth : Nat} {args : List Value} {caller : Caller} {code' : g.Code} {t : g.State}
      {c : SystemCall} {h : Halt} {s' : Stage g H}
      (step : g.step s.module code s.guest = .call index args caller depth code' t)
      (bound : s.providers[index]? = some (.system c))
      (answer : ImportCall.system c caller args { s with guest := t } = (.error h, s')) :
      Halts code s (.error h) s'
  | exhausted : Halts code s (.error .outOfFuel) s

/-- What comes about from one stage to another, given who is at work, with its marks. The host
stores octets in one place only: in the buffer that the allocator has just returned to it. -/
inductive Course : Actor g → List (Mark g H) → Stage g H → Stage g H → Prop
  | rest {role : Role} {s : Stage g H} : Course (.host role) [] s s
  | aloof {role : Role} {ms : List (Mark g H)} {s s' s'' : Stage g H}
      (before : Course (.host role) ms s s') (aloof : s'.Aloof s'') : Course (.host role) ms s s''
  | entered {role : Role} {ms ms' : List (Mark g H)} {s s' s₀ s'' : Stage g H} {d : Deed}
      {depth function : Nat} {args : List Value} {r : Ending}
      (before : Course (.host role) ms s s') (entry : s'.Entry role d function args s₀)
      (inside : Course (.guest (g.enter s'.module depth function args) (some r)) ms' s₀ s'') :
      Course (.host role) (ms ++ .entered d :: ms') s s''
  /-- The allocator is asked for a buffer and returns its address, the buffer takes the octets, and
  they are put there. -/
  | stored {role : Role} {ms ms' : List (Mark g H)} {s s' u : Stage g H} {depth : Nat} {b : Bridge}
      {block : Block} {bytes : Bytes} (before : Course (.host role) ms s s')
      (bridge : s'.store.bridge = some b)
      (inside : Course (.guest (g.enter s'.module depth b.alloc [.i32 block.len])
        (some (.ok [.i32 block.ptr]))) ms' (s'.note (.asked block.len)) u)
      (admits : u.Admits b block bytes) :
      Course (.host role) (ms ++ .entered (.asked block.len) :: ms' ++ [.stored u b block bytes]) s
        (u.placed b block bytes)
  | whole {role : Role} {ms : List (Mark g H)} {s s' : Stage g H}
      (before : Course (.host role) ms s s') : Course (.amid role) ms s s'
  | within {role : Role} {ms ms' : List (Mark g H)} {s s' s₀ s'' : Stage g H} {d : Deed}
      {depth function : Nat} {args : List Value} (before : Course (.host role) ms s s')
      (entry : s'.Entry role d function args s₀)
      (inside : Course (.guest (g.enter s'.module depth function args) none) ms' s₀ s'') :
      Course (.amid role) (ms ++ .entered d :: ms') s s''
  | moved {ms ms' : List (Mark g H)} {s s' s'' : Stage g H} {code code' : g.Code}
      {r : Option Ending} (moves : Moves code s ms code' s')
      (after : Course (.guest code' r) ms' s' s'') : Course (.guest code r) (ms ++ ms') s s''
  | halted {s s' : Stage g H} {code : g.Code} {r : Ending} (halts : Halts code s r s') :
      Course (.guest code (some r)) [] s s'
  | called {ms ms' : List (Mark g H)} {s s' s'' : Stage g H} {code code' : g.Code}
      {r : Option Ending} {n index depth : Nat} {args results : List Value} {caller : Caller}
      {t : g.State} {p : Provider H}
      (step : g.step s.module code s.guest = .call index args caller depth code' t)
      (bound : s.providers[index]? = some p)
      (returned : ImportCall.provider (runner s.module n depth) p caller args
        { s with guest := t } = (.ok results, s'))
      (answer : Course (.host .answering) ms { s with guest := t } s')
      (after : Course (.guest (g.resume results code') r) ms' s' s'') :
      Course (.guest code r) (ms ++ ms') s s''
  | failed {ms : List (Mark g H)} {s s' : Stage g H} {code code' : g.Code} {h : Halt}
      {n index depth : Nat} {args : List Value} {caller : Caller} {t : g.State} {p : Provider H}
      (step : g.step s.module code s.guest = .call index args caller depth code' t)
      (bound : s.providers[index]? = some p)
      (failed : ImportCall.provider (runner s.module n depth) p caller args
        { s with guest := t } = (.error h, s'))
      (answer : Course (.host .answering) ms { s with guest := t } s') :
      Course (.guest code (some (.error h))) ms s s'
  | left {s : Stage g H} {code : g.Code} : Course (.guest code none) [] s s
  | waiting {ms : List (Mark g H)} {s s' : Stage g H} {code code' : g.Code}
      {index depth : Nat} {args : List Value} {caller : Caller} {t : g.State} {p : Provider H}
      (step : g.step s.module code s.guest = .call index args caller depth code' t)
      (bound : s.providers[index]? = some p)
      (answer : Course (.amid .answering) ms { s with guest := t } s') :
      Course (.guest code none) ms s s'

/-- The host goes on after what it has done. -/
theorem Course.trans {role : Role} {ms ms' : List (Mark g H)} {s s' s'' : Stage g H}
    (h : Course (.host role) ms s s') (h' : Course (.host role) ms' s' s'') :
    Course (.host role) (ms ++ ms') s s'' := by
  generalize ha : Actor.host role = actor at h'
  induction h' with
  | rest =>
    cases ha
    rwa [List.append_nil]
  | aloof before aloof ih =>
    cases ha
    exact .aloof (ih h rfl) aloof
  | entered before entry inside ih =>
    cases ha
    rw [← List.append_assoc]
    exact .entered (ih h rfl) entry inside
  | stored before bridge inside admits ih =>
    cases ha
    simpa only [List.append_assoc] using (ih h rfl).stored bridge inside admits
  | _ => cases ha

/-- What marks tell of the record: that of which buffers are offered back, which exports are entered
and where octets are put. -/
structure Recounts (ms : List (Mark g H)) (ds : List Deed) : Prop where
  returned : Deeds.returned ds = Deeds.returned (entrances ms)
  entries : Deeds.entries ds = Deeds.entries (entrances ms)
  given : Deeds.given ds = stores ms

structure Marked (ms : List (Mark g H)) (s s' : Stage g H) : Prop where
  module : s'.module = s.module
  bridge : s'.store.bridge = s.store.bridge
  refused : s'.store.limit.refused = ((refusals ms).getLast?).or s.store.limit.refused
  told : ∃ ds, s.Did ds s' ∧ Recounts ms ds

theorem Recounts.append {ms ms' : List (Mark g H)} {ds ds' : List Deed} (h : Recounts ms ds)
    (h' : Recounts ms' ds') : Recounts (ms ++ ms') (ds ++ ds') where
  returned := by
    rw [entrances_append, Deeds.returned_append, Deeds.returned_append, h.returned, h'.returned]
  entries := by
    rw [entrances_append, Deeds.entries_append, Deeds.entries_append, h.entries, h'.entries]
  given := by rw [stores_append, Deeds.given_append, h.given, h'.given]

theorem recounts_nil : Recounts ([] : List (Mark g H)) [] := ⟨rfl, rfl, rfl⟩

namespace Marked
variable {ms ms' : List (Mark g H)} {s s' s'' : Stage g H}

theorem of_aloof (h : s.Aloof s') : Marked [] s s' where
  module := h.module
  bridge := h.bridge
  refused := by rw [h.limit]; rfl
  told := by
    obtain ⟨ds, hd, hr, he, hg⟩ := h.quiet
    exact ⟨ds, hd, hr, he, hg⟩

theorem of_unnoted (hm : s'.module = s.module) (hb : s'.store.bridge = s.store.bridge)
    (hl : s'.store.limit = s.store.limit) (hd : s'.deeds = s.deeds) : Marked [] s s' where
  module := hm
  bridge := hb
  refused := by rw [hl]; rfl
  told := ⟨[], hd, recounts_nil⟩

theorem refl (s : Stage g H) : Marked [] s s := of_unnoted rfl rfl rfl rfl

theorem trans (h : Marked ms s s') (h' : Marked ms' s' s'') : Marked (ms ++ ms') s s'' where
  module := h'.module.trans h.module
  bridge := h'.bridge.trans h.bridge
  refused := by
    rw [h'.refused, h.refused, refusals_append, List.getLast?_append, Option.or_assoc]
  told := by
    obtain ⟨ds, hd, ht⟩ := h.told
    obtain ⟨ds', hd', ht'⟩ := h'.told
    exact ⟨_, hd.trans hd', ht.append ht'⟩

theorem guest (s : Stage g H) (t : g.State) : Marked [] s { s with guest := t } :=
  of_unnoted rfl rfl rfl rfl

end Marked

theorem Entry.marked {s s₀ : Stage g H} {role : Role} {d : Deed} {function : Nat}
    {args : List Value} (h : s.Entry role d function args s₀) : Marked [.entered d] s s₀ := by
  cases h <;> exact ⟨rfl, rfl, rfl, _, Did.note _ _, rfl, rfl, rfl⟩

theorem askMemory_marked (s : Stage g H) (current desired : Nat) (maximum : Option Nat) :
    Marked (if (askMemory s current desired maximum).1 then [] else [.refused desired]) s
      (askMemory s current desired maximum).2 := by
  unfold askMemory GrowthLimit.askMemory
  dsimp only
  split
  · exact .of_unnoted rfl rfl rfl rfl
  · exact ⟨rfl, rfl, rfl, [], rfl, rfl, rfl, rfl⟩

theorem system_marked (c : SystemCall) (caller : Caller) (args : List Value) (s : Stage g H) :
    Marked [] s (ImportCall.system c caller args s).2 := by
  obtain h | ⟨memory, written, h⟩ := ImportCall.system_stage c caller args s <;> rw [h]
  · exact .refl s
  · exact .guest s _

theorem Moves.growMemory {code code' : g.Code} {s : Stage g H} {current desired : Nat}
    {maximum : Option Nat} {t : g.State}
    (step : g.step s.module code s.guest = .growMemory current desired maximum code' t) :
    ∃ ms, Moves code s ms
      (g.answer (askMemory { s with guest := t } current desired maximum).1 code')
      (askMemory { s with guest := t } current desired maximum).2 := by
  cases ha : (askMemory { s with guest := t } current desired maximum).1 with
  | true => exact ⟨_, .granted step ha⟩
  | false => exact ⟨_, .refused step ha⟩

theorem Moves.marked {ms : List (Mark g H)} {s s' : Stage g H} {code code' : g.Code}
    (h : Moves code s ms code' s') : Marked ms s s' := by
  cases h with
  | next | check | growTable => exact .of_unnoted rfl rfl rfl rfl
  | granted step allowed | refused step allowed =>
    rename_i current desired maximum code' t
    have ha := askMemory_marked { s with guest := t } current desired maximum
    rw [allowed] at ha
    exact (Marked.guest s t).trans ha
  | answered step bound answer =>
    rename_i index depth args results caller code' t c
    have ha := system_marked c caller args { s with guest := t }
    rw [answer] at ha
    exact (Marked.guest s t).trans ha

theorem Halts.marked {s s' : Stage g H} {code : g.Code} {r : Ending}
    (h : Halts code s r s') : Marked [] s s' := by
  cases h with
  | barred step bound answer =>
    rename_i index depth args caller code' t c stop
    have ha := system_marked c caller args { s with guest := t }
    rw [answer] at ha
    exact (Marked.guest s t).trans ha
  | _ => exact .of_unnoted rfl rfl rfl rfl

theorem placed_marked (u : Stage g H) (b : Bridge) (block : Block) (bytes : Bytes) :
    Marked [.stored u b block bytes] u (u.placed b block bytes) := by
  have ht : (u.store.track block).bridge = u.store.bridge ∧
      (u.store.track block).limit = u.store.limit := by
    unfold Store.track
    split <;> exact ⟨rfl, rfl⟩
  exact ⟨rfl, ht.1, congrArg GrowthLimit.refused ht.2, [.given block], rfl, rfl, rfl, rfl⟩

/-- The last growth that was refused in a course is the one that the limit remembers, and the record
says what is marked. -/
theorem Course.marked {actor : Actor g} {ms : List (Mark g H)} {s s' : Stage g H}
    (h : Course actor ms s s') : Marked ms s s' := by
  induction h with
  | rest => exact .refl _
  | aloof before aloof ih =>
    have hm := ih.trans (.of_aloof aloof)
    rwa [List.append_nil] at hm
  | entered before entry inside ih ih' | within before entry inside ih ih' =>
    exact ih.trans (entry.marked.trans ih')
  | stored before bridge inside admits ih ih' =>
    have hi := ih.trans ((Entry.asked .answering _ _ bridge).marked.trans ih')
    exact hi.trans (placed_marked ..)
  | whole before ih => exact ih
  | moved moves after ih => exact moves.marked.trans ih
  | halted halts => exact halts.marked
  | called step bound returned answer after ih ih' => exact ((Marked.guest ..).trans ih).trans ih'
  | failed step bound failed answer ih => exact (Marked.guest ..).trans ih
  | waiting step bound answer ih => exact (Marked.guest ..).trans ih
  | left => exact .refl _

/-- The host has stored octets in a buffer: the allocator, asked for so many, had ended in the given
stage and returned its address. -/
structure Stored (s u : Stage g H) (b : Bridge) (block : Block) (bytes : Bytes) : Prop where
  admits : u.Admits b block bytes
  allocated : ∃ (depth : Nat) (ms : List (Mark g H)) (v : Stage g H),
    Course (.guest (g.enter s.module depth b.alloc [.i32 block.len])
      (some (.ok [.i32 block.ptr]))) ms (v.note (.asked block.len)) u
  module : u.module = s.module
  bridge : s.store.bridge = some b

theorem Stored.of_marked {ms : List (Mark g H)} {s s' u : Stage g H} {b : Bridge} {block : Block}
    {bytes : Bytes} (h : Marked ms s s') (hs : s'.Stored u b block bytes) :
    s.Stored u b block bytes where
  admits := hs.admits
  allocated := by
    rw [← h.module]
    exact hs.allocated
  module := hs.module.trans h.module
  bridge := h.bridge.symm.trans hs.bridge

/-- Whatever the host stores in a course is put into a buffer in this way. -/
theorem Course.stores {actor : Actor g} {ms : List (Mark g H)} {s s' : Stage g H}
    (h : Course actor ms s s') {u : Stage g H} {b : Bridge} {block : Block} {bytes : Bytes}
    (hm : .stored u b block bytes ∈ ms) : s.Stored u b block bytes := by
  induction h with
  | rest | halted | left => cases hm
  | aloof before aloof ih => exact ih hm
  | entered before entry inside ih ih' | within before entry inside ih ih' =>
    obtain hm | hm := List.mem_append.mp hm
    · exact ih hm
    · have hm' := (List.mem_cons.mp hm).resolve_left nofun
      exact (ih' hm').of_marked (before.marked.trans entry.marked)
  | stored before bridge inside admits ih ih' =>
    rename_i s s' v depth b' block' bytes'
    have hasked := (Entry.asked .answering _ block'.len bridge).marked
    obtain hm | hm := List.mem_append.mp hm
    · obtain hm | hm := List.mem_append.mp hm
      · exact ih hm
      · have hm' := (List.mem_cons.mp hm).resolve_left nofun
        exact (ih' hm').of_marked (before.marked.trans hasked)
    -- The last mark is that of these very octets.
    · obtain ⟨rfl, rfl, rfl, rfl⟩ : u = v ∧ b = b' ∧ block = block' ∧ bytes = bytes' := by
        simpa using hm
      have hi := inside.marked
      have hs : s'.Stored u b block bytes := {
        admits := admits
        allocated := ⟨_, _, _, inside⟩
        module := hi.module
        bridge := hi.bridge.symm.trans admits.bridge }
      exact hs.of_marked before.marked
  | whole before ih => exact ih hm
  | moved moves after ih =>
    obtain hm | hm := List.mem_append.mp hm
    · cases moves <;> simp at hm
    · exact (ih hm).of_marked moves.marked
  | called step bound returned answer after ih ih' =>
    obtain hm | hm := List.mem_append.mp hm
    · exact (ih hm).of_marked (.guest ..)
    · exact (ih' hm).of_marked ((Marked.guest ..).trans answer.marked)
  | failed step bound failed answer ih => exact (ih hm).of_marked (.guest ..)
  | waiting step bound answer ih => exact (ih hm).of_marked (.guest ..)

theorem HostTick.aloof {s s' : Stage g H} (h : HostTick s s') : s.Aloof s' := by
  have hq : ∃ ds, s.Did ds s' ∧ Deeds.returned ds = [] ∧ Deeds.entries ds = [] ∧
      Deeds.given ds = [] := by
    cases h with
    | shared => exact ⟨[], rfl, rfl, rfl, rfl⟩
    | _ => exact ⟨_, Did.note s _, rfl, rfl, rfl⟩
  cases h <;> exact ⟨rfl, rfl, rfl, rfl, hq⟩

end Stage

open Stage

structure Runner.Coursing (run : Runner g H) (F : Fixed g H) : Prop where
  fixed : ∀ function args s, s.fixed = F → (run function args s).2.fixed = F
  course : ∀ function args s, s.fixed = F → ∃ depth ms,
    Course (.guest (g.enter s.module depth function args) (some (run function args s).1)) ms s
      (run function args s).2

namespace Runner.Coursing
variable {run : Runner g H} {F : Fixed g H}

theorem kept (h : run.Coursing F) (role : Role) (s₀ : Stage g H) :
    Kept run fun s => s.fixed = F ∧ ∃ ms, Course (.host role) ms s₀ s where
  fixed := fun _ _ hs hs' => hs'.1.trans hs.1.symm
  host := fun s s' t hs =>
    ⟨(Tick.host s s' t).fixed_eq.trans hs.1, hs.2.imp fun _ hc => .aloof hc t.aloof⟩
  asked := by
    rintro s b len ⟨hf, ms, hc⟩ hb
    obtain ⟨depth, ms', hi⟩ := h.course b.alloc [.i32 len] (s.note (.asked len)) hf
    exact ⟨h.fixed b.alloc [.i32 len] (s.note (.asked len)) hf, _,
      .entered hc (.asked role b len hb) hi⟩
  placed := by
    rintro s s' b block bytes ⟨hf, ms, hc⟩ hr ⟨hf', -⟩ ha
    obtain ⟨depth, ms', hi⟩ := h.course b.alloc [.i32 block.len] (s.note (.asked block.len)) hf
    rw [hr] at hi
    have hb : s.store.bridge = some b :=
      (bridge_of_fixed (hf'.trans hf.symm)).symm.trans ha.bridge
    exact ⟨(Tick.placed s' b block bytes ha).fixed_eq.trans hf', _, .stored hc hb hi ha⟩

/-- An imported function takes its course, unless it is a system call. -/
theorem provider (h : run.Coursing F) {s : Stage g H} (hs : s.fixed = F) (p : Provider H)
    (caller : Caller) (args : List Value) :
    (∃ c, p = .system c) ∨
      ∃ ms, Course (.host .answering) ms s (ImportCall.provider run p caller args s).2 := by
  by_cases hp : ∃ c, p = .system c
  · exact .inl hp
  · obtain ⟨-, hc⟩ := ImportCall.provider_keeps (h.kept .answering s) p caller args
      ⟨hs, [], .rest⟩ fun c hc => absurd ⟨c, hc⟩ hp
    exact .inr hc

end Runner.Coursing

namespace Stage

/-- An imported function runs guest code along its course if all guest code takes one in so many
steps. -/
theorem runner_coursing {n : Nat} (h : ∀ (code : g.Code) (s : Stage g H),
    ∃ ms, Course (.guest code (some (execute n code s).1)) ms s (execute n code s).2)
    (s : Stage g H) (depth : Nat) : (runner s.module n depth : Runner g H).Coursing s.fixed where
  fixed := fun function args s' hf =>
    (execute_ticks n (g.enter s.module depth function args) s').fixed_eq.trans hf
  course := by
    intro function args s' hf
    have hm : s'.module = s.module := congrArg Fixed.module hf
    rw [hm]
    exact ⟨depth, h (g.enter s.module depth function args) s'⟩

/-- Guest code takes its course. -/
theorem execute_course (n : Nat) (code : g.Code) (s : Stage g H) :
    ∃ ms, Course (.guest code (some (execute n code s).1)) ms s (execute n code s).2 := by
  -- Nested runs share the steps that are left, so what an imported function leads to has its
  -- course.
  induction n generalizing code s with
  | zero => exact ⟨_, .halted .exhausted⟩
  | succ n ih =>
    rw [execute_succ]
    split
    · rename_i cost code' t hc
      obtain ⟨ms, h⟩ := ih code' ({ s with guest := t }.updateStore fun u => u.spend cost)
      exact ⟨_, .moved (.next hc) h⟩
    · rename_i elapsed code' t hc
      dsimp only
      cases hl : s.store.stop? elapsed with
      | some h => exact ⟨_, .halted (.late hc hl)⟩
      | none =>
        obtain ⟨ms, h⟩ := ih code' ({ s with guest := t }.updateStore fun u => u.advance elapsed)
        exact ⟨_, .moved (.check hc hl) h⟩
    · rename_i current desired maximum code' t hc
      obtain ⟨ms, hm⟩ := Moves.growMemory hc
      obtain ⟨ms', h⟩ := ih
        (g.answer (askMemory { s with guest := t } current desired maximum).1 code')
        (askMemory { s with guest := t } current desired maximum).2
      exact ⟨_, .moved hm h⟩
    · rename_i desired maximum code' t hc
      obtain ⟨ms, h⟩ := ih (g.answer (GrowthLimit.askTable desired maximum) code')
        { s with guest := t }
      exact ⟨_, .moved (.growTable hc) h⟩
    · rename_i index args caller depth code' t hc
      split
      · rename_i hn
        exact ⟨_, .halted (.unbound hc hn)⟩
      · rename_i p hb
        have hp := (runner_coursing ih s depth).provider (s := { s with guest := t }) rfl p caller
          args
        split
        · rename_i results s' he
          rw [he] at hp
          obtain ⟨ms', h⟩ := ih (g.resume results code') s'
          -- The engine answers a system call by itself; any other function takes a course.
          obtain ⟨c, rfl⟩ | ⟨ms, hp⟩ := hp
          · exact ⟨_, .moved (.answered hc hb he) h⟩
          · exact ⟨_, .called hc hb he hp h⟩
        · rename_i e s' he
          rw [he] at hp
          obtain ⟨c, rfl⟩ | ⟨ms, hp⟩ := hp
          · exact ⟨_, .halted (.barred hc hb he)⟩
          · exact ⟨_, .failed hc hb he hp⟩
    · rename_i results t hc
      exact ⟨_, .halted (.finished hc)⟩
    · rename_i cause t hc
      exact ⟨_, .halted (.trapped hc)⟩

theorem runner_course (n : Nat) (s : Stage g H) (depth : Nat) :
    (runner s.module n depth : Runner g H).Coursing s.fixed :=
  runner_coursing (execute_course n) s depth

/-- The host runs guest code along its course. -/
theorem enter_coursing (F : Fixed g H) : Runner.Coursing (enter : Runner g H) F where
  fixed := fun function args s hf => (enter_ticks function args s).fixed_eq.trans hf
  course := fun function args s _ =>
    ⟨0, execute_course g.stepLimit (g.enter s.module 0 function args) s⟩

theorem Discreet.aloof {s s' : Stage g H} (h : s.Discreet s') : s.Aloof s' :=
  ⟨h.module, h.guest, h.bridge, h.limit, h.quiet⟩

theorem Course.enter {role : Role} {ms : List (Mark g H)} {s s' s₀ : Stage g H} {d : Deed}
    {function : Nat} {args : List Value} (h : Course (.host role) ms s s')
    (entry : s'.Entry role d function args s₀) :
    ∃ ms', Course (.host role) ms' s (Stage.enter function args s₀ : Ending × Stage g H).2 := by
  obtain ⟨ms', hi⟩ := execute_course g.stepLimit (g.enter s'.module 0 function args) s₀
  have he : (Stage.enter function args s₀ : Ending × Stage g H) =
      execute g.stepLimit (g.enter s'.module 0 function args) s₀ := by
    rw [← entry.apart.module]
    rfl
  rw [he]
  exact ⟨_, .entered h entry hi⟩

theorem course_carried (name : String) (s₀ : Stage g H) :
    Carried name fun s : Stage g H => ∃ ms, Course (.host (.calling name)) ms s₀ s where
  discreet := fun _ _ ha hs => hs.imp fun _ hc => hc.aloof ha.aloof
  enter := by
    rintro s s' d function args he ⟨ms, hc⟩
    exact hc.enter he
  placeForCall := by
    intro s b bytes hb hcall hs
    exact (Buffer.placeForCall_keeps ((enter_coursing s.fixed).kept (.calling name) s₀) ⟨rfl, hs⟩ hb
      hcall bytes).2

end Stage

end PluginHost
