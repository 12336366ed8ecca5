import Mathlib.Logic.Relation
import PluginHost.Proofs.Running
/-!
What can happen while guest code runs. A tick is one change of the stage; whatever guest code does,
however it nests imported functions and the allocator, the stages before and after are joined by
ticks. So a property of all runs is shown of the few kinds of ticks.
-/
namespace PluginHost
variable {g : Guest} {H α β : Type}

namespace Stage

inductive HostTick : Stage g H → Stage g H → Prop
  | shared (s : Stage g H) (w : World H) : HostTick s { s with world := w }
  | asked (s : Stage g H) (length : UInt32) : HostTick s (s.note (.asked length))
  | reported (s : Stage g H) (octets : Bytes) (call : s.store.call.isSome) :
      HostTick s ((s.note (.reported octets)).updateStore fun t =>
        { t with guestError := some (Text.Utf8.decodeLossy octets) })
  | assigned (s : Stage g H) (key : String) (value : Bytes) (vars : Variables)
      (set : s.store.vars.set key value = .ok vars) :
      HostTick s ((s.note (.assigned key value true)).updateStore fun t => { t with vars })
  | refused (s : Stage g H) (key : String) (value : Bytes) (e : Failure)
      (set : s.store.vars.set key value = .error e) :
      HostTick s (s.note (.assigned key value false))
  | lookedUp (s : Stage g H) (key : String) :
      HostTick s (s.note (.lookedUp key (s.store.vars.get? key)))
  | served (s : Stage g H) (ns name : String) (input output : Bytes) :
      HostTick s (s.note (.served ns name input output))
  | declined (s : Stage g H) (ns name : String) (input : Bytes) (e : Failure) :
      HostTick s (s.note (.declined ns name input e))

structure Admits (s : Stage g H) (b : Bridge) (block : Block) (bytes : Bytes) : Prop where
  bridge : s.store.bridge = some b
  call : s.store.call.isSome
  ptr : block.ptr ≠ 0
  len : block.len.toNat = bytes.length
  nonempty : bytes ≠ []
  room : block.ptr.toNat + block.len.toNat ≤ s.memorySize b.memory

inductive Tick : Stage g H → Stage g H → Prop
  | host (s s' : Stage g H) (tick : HostTick s s') : Tick s s'
  | placed (s : Stage g H) (b : Bridge) (block : Block) (bytes : Bytes)
      (admits : s.Admits b block bytes) : Tick s (s.placed b block bytes)
  | wrote (s : Stage g H) (memory : Nat) (written : List (Nat × Bytes)) :
      Tick s { s with
        guest := written.foldr (fun (ptr, bytes) t => g.write t memory ptr bytes) s.guest }
  | guest (s : Stage g H) (t : g.State) : Tick s { s with guest := t }
  | spent (s : Stage g H) (cost : Nat) : Tick s (s.updateStore fun t => t.spend cost)
  | advanced (s : Stage g H) (millis : Nat) : Tick s (s.updateStore fun t => t.advance millis)
  | limited (s : Stage g H) (desired : Nat) (maximum : Option Nat) :
      Tick s (s.updateStore fun t => { t with limit := (t.limit.askMemory desired maximum).2 })

abbrev Ticks : Stage g H → Stage g H → Prop := Relation.ReflTransGen Tick

structure Fixed (g : Guest) (H : Type) where
  module : g.Module
  providers : Array (Provider H)
  phase : CallPhase
  bridge : Option Bridge
  timeoutMillis : Option Nat
  deadline : Option Nat
  fuelLimit : Option Nat
  poisoned : Bool
  system : SystemOptions
  maxMemoryBytes : Nat
  calling : Option String

def fixed (s : Stage g H) : Fixed g H where
  module := s.module
  providers := s.providers
  phase := s.store.phase
  bridge := s.store.bridge
  timeoutMillis := s.store.timeoutMillis
  deadline := s.store.deadline
  fuelLimit := s.store.fuelLimit
  poisoned := s.store.poisoned
  system := s.store.system
  maxMemoryBytes := s.store.limit.maxMemoryBytes
  calling := s.store.call.map CallContext.function

theorem map_function_track (t : Store) (b : Block) :
    (t.track b).call.map CallContext.function = t.call.map CallContext.function := by
  unfold Store.track
  split
  · rfl
  · cases t.call <;> rfl

theorem fixed_track (s : Stage g H) (b : Block) :
    (s.updateStore fun t => t.track b).fixed = s.fixed := by
  have h := map_function_track s.store b
  unfold Store.track at h
  unfold Stage.fixed Stage.updateStore Store.track
  split at h <;> split <;> simp_all

theorem askMemory_maxMemoryBytes (l : GrowthLimit) (desired : Nat) (maximum : Option Nat) :
    (l.askMemory desired maximum).2.maxMemoryBytes = l.maxMemoryBytes := by
  unfold GrowthLimit.askMemory
  split <;> rfl

theorem fixed_limit (s : Stage g H) (desired : Nat) (maximum : Option Nat) :
    (s.updateStore fun t =>
      { t with limit := (t.limit.askMemory desired maximum).2 }).fixed = s.fixed := by
  simp [Stage.fixed, Stage.updateStore, askMemory_maxMemoryBytes]

theorem Tick.fixed_eq {s s' : Stage g H} (h : Tick s s') : s'.fixed = s.fixed := by
  cases h with
  | host _ tick => cases tick <;> rfl
  | placed b block bytes => exact fixed_track _ block
  | limited desired maximum => exact fixed_limit s desired maximum
  | _ => rfl

theorem Ticks.fixed_eq {s s' : Stage g H} (h : Ticks s s') : s'.fixed = s.fixed := by
  induction h with
  | refl => rfl
  | tail _ ht ih => rw [ht.fixed_eq, ih]

theorem Ticks.keeps {P : Stage g H → Prop} (ht : ∀ s s', Tick s s' → P s → P s') {s s' : Stage g H}
    (h : Ticks s s') (hs : P s) : P s' := by
  induction h with
  | refl => exact hs
  | tail _ tick ih => exact ht _ _ tick ih

theorem bridge_of_fixed {s s' : Stage g H} (h : s'.fixed = s.fixed) :
    s'.store.bridge = s.store.bridge := congrArg Fixed.bridge h

theorem call_of_fixed {s s' : Stage g H} (h : s'.fixed = s.fixed) (hc : s.store.call.isSome) :
    s'.store.call.isSome := by
  have hf : s'.fixed.calling.isSome = s.fixed.calling.isSome := by rw [h]
  simpa [Stage.fixed, hc] using hf

theorem Ticks.call_isSome {s s' : Stage g H} (h : Ticks s s') (hc : s.store.call.isSome) :
    s'.store.call.isSome := call_of_fixed h.fixed_eq hc

/-- What the host leaves true of the stages of a run, given a way to run the allocator. All of them
agree in what guest code cannot change. -/
structure Kept (run : Runner g H) (P : Stage g H → Prop) : Prop where
  fixed : ∀ s s', P s → P s' → s'.fixed = s.fixed
  host : ∀ s s', HostTick s s' → P s → P s'
  /-- Of all guest code the host runs the allocator alone. -/
  asked : ∀ s (b : Bridge) (len : UInt32), P s → s.store.bridge = some b →
    P (run b.alloc [.i32 len] (s.note (.asked len))).2
  /-- The allocator was asked in `s` and returned in `s'`. -/
  placed : ∀ s s' b block bytes, P s →
    run b.alloc [.i32 block.len] (s.note (.asked block.len)) = (.ok [.i32 block.ptr], s') → P s' →
      s'.Admits b block bytes → P (s'.placed b block bytes)

end Stage

open Stage

def Runner.Ticking (run : Runner g H) : Prop := ∀ function args s, Ticks s (run function args s).2

def Runner.Keeping (run : Runner g H) (P : Stage g H → Prop) : Prop :=
  ∀ function args s, P s → P (run function args s).2

theorem Runner.Ticking.kept {run : Runner g H} (h : run.Ticking) (s : Stage g H) :
    Kept run (Ticks s) where
  fixed := fun _ _ ht ht' => ht'.fixed_eq.trans ht.fixed_eq.symm
  host := fun _ _ tick ht => ht.tail (.host _ _ tick)
  asked := fun s' b len ht _ => (ht.tail (.host _ _ (.asked s' len))).trans (h b.alloc [.i32 len] _)
  placed := fun _ _ _ _ _ _ _ ht ha => ht.tail (.placed _ _ _ _ ha)

namespace Task
variable {P : Stage g H → Prop}

theorem keeps_bind {t : Task g H α} {f : α → Task g H β} {s : Stage g H} (ht : P (t.run s).2)
    (hf : ∀ a s', t.run s = (.ok a, s') → P s' → P ((f a).run s').2) :
    P ((t >>= f).run s).2 := by
  rw [run_bind]
  rcases h : t.run s with ⟨r, s'⟩
  rw [h] at ht
  cases r with
  | ok a => exact hf a s' h ht
  | error e => exact ht

theorem keeps_bind_look {t : Task g H α} {f : α → Task g H β} {s : Stage g H}
    (ht : (t.run s).2 = s) (hs : P s) (hf : ∀ a, t.run s = (.ok a, s) → P ((f a).run s).2) :
    P ((t >>= f).run s).2 := by
  refine keeps_bind (by rw [ht]; exact hs) fun a s' h _ => ?_
  obtain rfl : s = s' := by simpa [h] using ht.symm
  exact hf a h

end Task

variable {run : Runner g H} {P : Stage g H → Prop}

theorem Buffer.placeForCall_keeps (hP : Kept run P) {s : Stage g H} (hs : P s) {b : Bridge}
    (hb : s.store.bridge = some b) (hc : s.store.call.isSome) (bytes : Bytes) :
    P ((placeForCall run b bytes).run s).2 := by
  obtain ⟨r, s', hr⟩ : ∃ r s', (placeForCall run b bytes).run s = (r, s') := ⟨_, _, rfl⟩
  rw [hr]
  cases places_of_placeForCall hr with
  | nothing empty => exact hs
  | long long => exact hs
  | declined ending _ e nonempty short ended declined =>
    have ht := hP.asked s b (UInt32.ofNat bytes.length) hs hb
    rwa [ended] at ht
  | placed block u nonempty ended ptr len room =>
    have ht := hP.asked s b block.len hs hb
    rw [ended] at ht
    have hf := hP.fixed s u hs ht
    exact hP.placed s u b block bytes hs ended ht {
      bridge := (bridge_of_fixed hf).trans hb
      call := call_of_fixed hf hc
      ptr := ptr
      len := len
      nonempty := nonempty
      room := room }

theorem Buffer.placeForCall_ticks (hrun : run.Ticking) {s : Stage g H} {b : Bridge}
    (hb : s.store.bridge = some b) (hc : s.store.call.isSome) (bytes : Bytes) :
    Ticks s ((placeForCall run b bytes).run s).2 :=
  placeForCall_keeps (hrun.kept s) .refl hb hc bytes

theorem Program.exec_keeps (hP : Kept run P) (function : String) (p : Program H α) {s : Stage g H}
    (hs : P s) (hc : s.store.call.isSome) : P (p.exec run function s).2 := by
  induction p generalizing s with
  | done a => exact hs
  | fail e => exact hs
  | panic m => exact hs
  | remember change next ih =>
    exact ih _ (hP.host _ _ (.shared s { s.world with memory := change s.world.memory }) hs) hc
  | exportName next ih => exact ih _ hs hc
  | memorySize next ih => exact ih _ hs hc
  | read ptr len next ih =>
    rw [exec_read]
    cases s.store.bridge with
    | none => exact ih _ hs hc
    | some b => exact ih _ hs hc
  | write bytes next ih =>
    rw [exec_write]
    cases hb : s.store.bridge with
    | none => exact ih _ hs hc
    | some b =>
      have ht : P ((Buffer.placeForCall run b bytes).run s).2 :=
        Buffer.placeForCall_keeps hP hs hb hc bytes
      exact ih _ ht (call_of_fixed (hP.fixed _ _ hs ht) hc)
  | callBack target next ih => exact ih _ (hP.host _ _ (.shared s _) hs) hc

namespace ImportCall

theorem guarded_keeps (hP : Kept run P) (function : String) (p : Program H α) {s : Stage g H}
    (hs : P s) (hc : s.store.call.isSome) : P ((guarded run function p).run s).2 := by
  have ht := p.exec_keeps hP function hs hc
  rw [run_guarded]
  rcases hp : p.exec run function s with ⟨(e | payload) | a, s'⟩ <;> rw [hp] at ht
  · exact ht
  · exact hP.host _ _ (.shared s' _) ht
  · exact ht

theorem serve_keeps (hP : Kept run P) (f : HostFunction H) (body : Bytes → Program H Bytes)
    (input : Bytes) {s : Stage g H} (hs : P s) (hc : s.store.call.isSome) :
    P ((serve run f body input).run s).2 := by
  have hg := guarded_keeps hP f.name (body input) hs hc
  rw [run_serve]
  rcases h : (guarded run f.name (body input)).run s with ⟨e | output, s'⟩ <;> rw [h] at hg
  · exact hP.host _ _ (.declined s' ..) hg
  · exact hP.host _ _ (.served s' ..) hg

theorem invoked_keeps (hP : Kept run P) (f : HostFunction H) {s : Stage g H} (hs : P s) :
    P (invoked f s) := hP.host _ _ (.shared s _) hs

theorem function_keeps (hP : Kept run P) (f : HostFunction H) (args : List Value) {s : Stage g H}
    (hs : P s) : P ((function run f args).run s).2 := by
  cases hc : s.store.call with
  | none =>
    rw [run_function_outside run f args hc]
    exact hs
  | some c =>
    have hsome : s.store.call.isSome := by simp [hc]
    have hi : P (invoked f s) := invoked_keeps hP f hs
    cases hf : f.callable with
    | raw body =>
      rw [run_function_raw run f args hsome hf]
      exact guarded_keeps hP f.name (body args) hi hsome
    | bytes body =>
      by_cases h : ∃ b ptr len, s.store.bridge = some b ∧ args = [.i32 ptr, .i32 len]
      · obtain ⟨b, ptr, len, hb, rfl⟩ := h
        rw [run_function_bytes run f hsome hf hb]
        refine Task.keeps_bind_look (by rw [Task.run_ofExcept]) hi fun input _ => ?_
        refine Task.keeps_bind (serve_keeps hP f body input hi hsome) fun output s₂ _ h₂ => ?_
        have hx := hP.fixed _ _ hi h₂
        exact Task.keeps_bind
          (Buffer.placeForCall_keeps hP h₂ ((bridge_of_fixed hx).trans hb)
            (call_of_fixed hx hsome) output)
          fun _ _ _ h₃ => h₃
      · rw [run_function_unfit run f args hsome hf h]
        exact hi

theorem readFor_stage (sv : Service) (caller : Caller) (ptr len : UInt32) (s : Stage g H) :
    ((readFor sv caller ptr len).run s).2 = s := by
  rw [readFor_eq]
  split <;> rfl

theorem readKey_stage (sv : Service) (caller : Caller) (ptr len : UInt32) (s : Stage g H) :
    ((readKey sv caller ptr len).run s).2 = s := by
  have hs := readFor_stage sv caller ptr len s
  unfold readKey
  rw [Task.run_bind]
  rcases h : (readFor sv caller ptr len).run s with ⟨e | bytes, s'⟩ <;> rw [h] at hs
  · exact hs
  · dsimp only
    split <;> exact hs

theorem service_keeps (hP : Kept run P) (sv : Service) (caller : Caller) (args : List Value)
    {s : Stage g H} (hs : P s) : P ((service run sv caller args).run s).2 := by
  unfold service
  split
  · -- A message: only during a call.
    rename_i ptr len
    rw [Task.run_bind_ok (Task.run_get s)]
    cases hc : s.store.call with
    | none => exact hs
    | some c =>
      refine Task.keeps_bind_look (readFor_stage _ caller ptr len s) hs fun bytes _ => ?_
      have hl : P (s.log (.guestError s.store.currentFunction (Text.Utf8.decodeLossy bytes))) :=
        hP.host _ _ (.shared s _) hs
      exact hP.host _ _ (.reported _ _ (by simp [Stage.log, hc])) hl
  · -- The value of a variable, in a fresh buffer.
    rename_i ptr len
    rw [Task.run_bind_ok (Task.run_get s)]
    cases hc : s.store.call with
    | none => exact hs
    | some c =>
      refine Task.keeps_bind_look (readKey_stage _ caller ptr len s) hs fun key _ => ?_
      have hl : P (s.note (.lookedUp key (s.store.vars.get? key))) :=
        hP.host _ _ (.lookedUp s key) hs
      rw [Task.run_bind_ok (Task.run_get s)]
      dsimp only
      rw [Task.run_bind_ok (Task.run_modify _ s)]
      cases hv : s.store.vars.get? key with
      | none =>
        rw [hv] at hl
        exact hl
      | some value =>
        rw [hv] at hl
        cases hb : s.store.bridge with
        | none => exact hl
        | some b =>
          exact Task.keeps_bind
            (Buffer.placeForCall_keeps hP hl hb (by simp [Stage.note, hc]) value)
            fun _ _ _ h => h
  · -- A variable is set, or not.
    rename_i keyPtr keyLen ptr len
    refine Task.keeps_bind_look (readKey_stage _ caller keyPtr keyLen s) hs fun key _ => ?_
    refine Task.keeps_bind_look (readFor_stage _ caller ptr len s) hs fun value _ => ?_
    rw [Task.run_bind_ok (Task.run_get s), Task.run_bind_ok (Task.run_modify _ s)]
    cases hv : s.store.vars.set key value with
    | error e => exact hP.host _ _ (.refused s key value e hv) hs
    | ok vars =>
      exact hP.host _ _ (.shared _ _) (hP.host _ _ (.assigned s key value vars hv) hs)
  · -- A line of the log.
    rename_i level ptr len
    refine Task.keeps_bind_look (readFor_stage _ caller ptr len s) hs fun bytes _ => ?_
    exact hP.host _ _ (.shared s _) hs
  · exact hs

/-- All that a system call changes is guest memory. -/
theorem system_stage (c : SystemCall) (caller : Caller) (args : List Value) (s : Stage g H) :
    (system c caller args s).2 = s ∨
      ∃ (memory : Nat) (written : List (Nat × Bytes)), (system c caller args s).2 = { s with
        guest := written.foldr (fun (ptr, bytes) t => g.write t memory ptr bytes) s.guest } := by
  rw [run_system]
  cases memory? caller s with
  | none => exact .inl rfl
  | some memory => exact .inr ⟨memory, _, rfl⟩

theorem system_ticks (c : SystemCall) (caller : Caller) (args : List Value) (s : Stage g H) :
    Ticks s (system c caller args s).2 := by
  obtain h | ⟨memory, written, h⟩ := system_stage c caller args s
  · rw [h]
  · rw [h]
    exact .single (.wrote s memory written)

theorem raising_keeps {t : Task g H (List Value)} {s : Stage g H} (ht : P (t.run s).2)
    (signature : Signature) (caller : Caller) : P (raising signature caller t s).2 := by
  rw [run_raising]
  rcases h : t.run s with ⟨e | results, s'⟩ <;> rwa [h] at ht

/-- Whatever an import leads to, unless it is a system call: the host changes the stage by its own
ticks, and runs no guest code but the allocator. -/
theorem provider_keeps (hP : Kept run P) (p : Provider H) (caller : Caller) (args : List Value)
    {s : Stage g H} (hs : P s) (hsystem : ∀ c, p = .system c → P (system c caller args s).2) :
    P (provider run p caller args s).2 := by
  cases p with
  | function f => exact raising_keeps (function_keeps hP f args hs) f.signature caller
  | service sv => exact raising_keeps (service_keeps hP sv caller args hs) sv.signature caller
  | unresolved ns name signature => exact hs
  | system c => exact hsystem c rfl
  | noSystem name signature => exact hs

theorem provider_ticks (hrun : run.Ticking) (p : Provider H) (caller : Caller)
    (args : List Value) (s : Stage g H) : Ticks s (provider run p caller args s).2 :=
  provider_keeps (hrun.kept s) p caller args .refl fun c _ => system_ticks c caller args s

end ImportCall

namespace Stage

def runner (m : g.Module) (n depth : Nat) : Runner g H := fun function args s =>
  execute n (g.enter m depth function args) s

/-- One step of guest code, with what it asks the host for. -/
theorem execute_succ (n : Nat) (code : g.Code) (s : Stage g H) :
    execute (n + 1) code s =
      match g.step s.module code s.guest with
      | .next cost code t =>
        execute n code ({ s with guest := t }.updateStore fun u => u.spend cost)
      | .check elapsed code t =>
        let s' : Stage g H := { s with guest := t }.updateStore fun u => u.advance elapsed
        match s.store.stop? elapsed with
        | some h => (.error h, s')
        | none => execute n code s'
      | .growMemory current desired maximum code t =>
        let (allowed, s') := askMemory { s with guest := t } current desired maximum
        execute n (g.answer allowed code) s'
      | .growTable desired maximum code t =>
        execute n (g.answer (GrowthLimit.askTable desired maximum) code) { s with guest := t }
      | .call index args caller depth code t =>
        match s.providers[index]? with
        | none => (.error (.trapped (.engine "no such import")), { s with guest := t })
        | some p =>
          match ImportCall.provider (runner s.module n depth) p caller args
              { s with guest := t } with
          | (.ok results, s') => execute n (g.resume results code) s'
          | (.error h, s') => (.error h, s')
      | .finished results t => (.ok results, { s with guest := t })
      | .trapped cause t => (.error (.trapped cause), { s with guest := t }) := by
  obtain ⟨⟨module, providers, guest, store⟩, world, deeds⟩ := s
  rfl

theorem askMemory_ticks (s : Stage g H) (current desired : Nat) (maximum : Option Nat) :
    Ticks s (askMemory s current desired maximum).2 := by
  have hl : Tick s (s.updateStore fun t =>
    { t with limit := (t.limit.askMemory desired maximum).2 }) := .limited s desired maximum
  unfold askMemory
  dsimp only
  split
  · exact .single hl
  · exact .tail (.single hl) (.host _ _ (.shared _ _))

/-- What stays true while guest code runs: `P` of the stage, and `Q` of the stage together with the
code that is about to run. -/
structure Sustained (P : Stage g H → Prop) (Q : g.Code → Stage g H → Prop) : Prop where
  host : ∀ s s', HostTick s s' → P s → P s'
  system : ∀ c caller args s, P s → P (ImportCall.system c caller args s).2
  placed : ∀ s b block bytes, s.Admits b block bytes → P s → P (s.placed b block bytes)
  weaken : ∀ code s, Q code s → P s
  enter : ∀ depth function args s, P s → Q (g.enter s.module depth function args) s
  next : ∀ code s cost code' t, Q code s → g.step s.module code s.guest = .next cost code' t →
    Q code' ({ s with guest := t }.updateStore fun u => u.spend cost)
  check : ∀ code s elapsed code' t, Q code s →
    g.step s.module code s.guest = .check elapsed code' t →
      Q code' ({ s with guest := t }.updateStore fun u => u.advance elapsed)
  growMemory : ∀ code s current desired maximum code' t, Q code s →
    g.step s.module code s.guest = .growMemory current desired maximum code' t →
      Q (g.answer (askMemory { s with guest := t } current desired maximum).1 code')
        (askMemory { s with guest := t } current desired maximum).2
  growTable : ∀ code s desired maximum code' t, Q code s →
    g.step s.module code s.guest = .growTable desired maximum code' t →
      Q (g.answer (GrowthLimit.askTable desired maximum) code') { s with guest := t }
  call : ∀ code s index args caller depth code' t, Q code s →
    g.step s.module code s.guest = .call index args caller depth code' t →
      P { s with guest := t } ∧
        ∀ results s', s'.fixed = s.fixed → P s' → Q (g.resume results code') s'
  finished : ∀ code s results t, Q code s → g.step s.module code s.guest = .finished results t →
    P { s with guest := t }
  trapped : ∀ code s cause t, Q code s → g.step s.module code s.guest = .trapped cause t →
    P { s with guest := t }

namespace Sustained
variable {P : Stage g H → Prop} {Q : g.Code → Stage g H → Prop} (h : Sustained P Q)
include h

theorem kept {run : Runner g H} {F : Fixed g H} (hrun : run.Keeping fun s => s.fixed = F ∧ P s) :
    Kept run fun s => s.fixed = F ∧ P s where
  fixed := fun _ _ hs hs' => hs'.1.trans hs.1.symm
  host := fun s s' t hs => ⟨(Tick.host s s' t).fixed_eq.trans hs.1, h.host s s' t hs.2⟩
  asked := fun s b len hs _ => hrun b.alloc [.i32 len] _ ⟨hs.1, h.host _ _ (.asked s len) hs.2⟩
  placed := fun _ s' b block bytes _ _ hs' ha =>
    ⟨(Tick.placed s' b block bytes ha).fixed_eq.trans hs'.1, h.placed s' b block bytes ha hs'.2⟩

/-- What an imported function leaves true where guest code that it leads to does. -/
theorem provider {run : Runner g H} {F : Fixed g H} (hrun : run.Keeping fun s => s.fixed = F ∧ P s)
    (p : Provider H) (caller : Caller) (args : List Value) {s : Stage g H} (hf : s.fixed = F)
    (hs : P s) :
    (ImportCall.provider run p caller args s).2.fixed = F ∧
      P (ImportCall.provider run p caller args s).2 := by
  refine ImportCall.provider_keeps (h.kept hrun) p caller args ⟨hf, hs⟩ fun c _ => ⟨?_, ?_⟩
  · exact (ImportCall.system_ticks c caller args s).fixed_eq.trans hf
  · exact h.system c caller args s hs

theorem enter_of_fixed {s s' : Stage g H} (hf : s'.fixed = s.fixed) (depth function : Nat)
    (args : List Value) (hs : P s') : Q (g.enter s.module depth function args) s' := by
  have hm : s'.module = s.module := congrArg Fixed.module hf
  rw [← hm]
  exact h.enter depth function args s' hs

end Sustained

/-- Whatever guest code does, it leaves true what each of its steps sustains, and what it cannot
change. -/
theorem execute_keeps {P : Stage g H → Prop} {Q : g.Code → Stage g H → Prop}
    (h : Sustained P Q) (n : Nat) (code : g.Code) {s : Stage g H} (hs : Q code s) :
    (execute n code s).2.fixed = s.fixed ∧ P (execute n code s).2 := by
  -- Nested runs of the allocator share the steps that are left, so the hypothesis is there for
  -- them.
  induction n generalizing code s with
  | zero => exact ⟨rfl, h.weaken code s hs⟩
  | succ n ih =>
    rw [execute_succ]
    split
    · rename_i cost code' t hc
      exact ih _ (h.next _ _ _ _ _ hs hc)
    · rename_i elapsed code' t hc
      have ht := h.check _ _ _ _ _ hs hc
      dsimp only
      split
      · exact ⟨rfl, h.weaken _ _ ht⟩
      · exact ih _ ht
    · rename_i current desired maximum code' t hc
      obtain ⟨hf, hp⟩ := ih _ (h.growMemory _ _ _ _ _ _ _ hs hc)
      exact ⟨hf.trans (askMemory_ticks _ current desired maximum).fixed_eq, hp⟩
    · rename_i desired maximum code' t hc
      exact ih _ (h.growTable _ _ _ _ _ _ hs hc)
    · rename_i index args caller depth code' t hc
      obtain ⟨ht, hn⟩ := h.call _ _ _ _ _ _ _ _ hs hc
      split
      · exact ⟨rfl, ht⟩
      · rename_i p _
        have hrun : (runner s.module n depth : Runner g H).Keeping
            fun s' => s'.fixed = s.fixed ∧ P s' := by
          rintro function args s' ⟨hf, hs'⟩
          obtain ⟨hf', hp⟩ := ih _ (h.enter_of_fixed hf depth function args hs')
          exact ⟨hf'.trans hf, hp⟩
        have hp := h.provider hrun p caller args (s := { s with guest := t }) rfl ht
        split
        · rename_i results s' hr
          rw [hr] at hp
          obtain ⟨hf, hq⟩ := ih _ (hn results s' hp.1 hp.2)
          exact ⟨hf.trans hp.1, hq⟩
        · rename_i e s' hr
          rwa [hr] at hp
    · rename_i results t hc
      exact ⟨rfl, h.finished _ _ _ _ hs hc⟩
    · rename_i cause t hc
      exact ⟨rfl, h.trapped _ _ _ _ hs hc⟩

theorem Sustained.runner_keeping {P : Stage g H → Prop} {Q : g.Code → Stage g H → Prop}
    (h : Sustained P Q) (s : Stage g H) (n depth : Nat) :
    (runner s.module n depth : Runner g H).Keeping fun s' => s'.fixed = s.fixed ∧ P s' := by
  rintro function args s' ⟨hf, hs'⟩
  obtain ⟨hf', hp⟩ := execute_keeps h n _ (h.enter_of_fixed hf depth function args hs')
  exact ⟨hf'.trans hf, hp⟩

theorem sustained_of_ticks {P : Stage g H → Prop} (ht : ∀ s s', Tick s s' → P s → P s') :
    Sustained P fun _ => P where
  host := fun s s' h => ht s s' (.host s s' h)
  system := fun c caller args s h => (ImportCall.system_ticks c caller args s).keeps ht h
  placed := fun s b block bytes h => ht _ _ (.placed s b block bytes h)
  weaken := fun _ _ h => h
  enter := fun _ _ _ _ h => h
  next := fun _ s cost _ t h _ => ht _ _ (.spent _ cost) (ht _ _ (.guest s t) h)
  check := fun _ s elapsed _ t h _ => ht _ _ (.advanced _ elapsed) (ht _ _ (.guest s t) h)
  growMemory := by
    intro _ s current desired maximum _ t h _
    have hl := ht _ _ (.limited _ desired maximum) (ht _ _ (.guest s t) h)
    unfold askMemory
    dsimp only
    split
    · exact hl
    · exact ht _ _ (.host _ _ (.shared _ _)) hl
  growTable := fun _ s _ _ _ t h _ => ht _ _ (.guest s t) h
  call := fun _ s _ _ _ _ _ t h _ => ⟨ht _ _ (.guest s t) h, fun _ _ _ h' => h'⟩
  finished := fun _ s _ t h _ => ht _ _ (.guest s t) h
  trapped := fun _ s _ t h _ => ht _ _ (.guest s t) h

/-- Guest code only ticks. -/
theorem execute_ticks (n : Nat) (code : g.Code) (s : Stage g H) :
    Ticks s (execute n code s).2 :=
  (execute_keeps (sustained_of_ticks fun _ _ ht h => h.tail ht) n code .refl).2

theorem runner_ticks (m : g.Module) (n depth : Nat) : (runner m n depth : Runner g H).Ticking :=
  fun _ _ s => execute_ticks n _ s

theorem enter_ticks : Runner.Ticking (enter : Runner g H) := fun _ _ s => execute_ticks _ _ s

end Stage

end PluginHost
