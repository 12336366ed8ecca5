import PluginHost.Proofs.Lifetime
/-!
The moments in the life of a plugin, those included at which guest code or a host function is in
the midst of its work: while a module is opened, between calls, and in a call, from the allocator
that runs for the input to the deallocator that runs at the end. What every step sustains holds at
every moment.
-/
namespace PluginHost
variable {g : Guest} {H α β : Type}

inductive Activity (g : Guest) (H : Type) where
  | running (code : g.Code)
  | stopped
  | working (f : HostFunction H)
  | waiting

abbrev Runs (g : Guest) (H : Type) :=
  (function : Nat) → List Value → Stage g H → Activity g H → Stage g H → Prop

structure Buffer.During (inside : Runs g H) (b : Bridge) (bytes : Bytes) (s : Stage g H)
    (a : Activity g H) (m : Stage g H) : Prop where
  nonempty : bytes ≠ []
  short : bytes.length ≤ maxLength
  allocating : inside b.alloc [.i32 (UInt32.ofNat bytes.length)]
    (s.note (.asked (UInt32.ofNat bytes.length))) a m

def Program.During (run : Runner g H) (inside : Runs g H) (f : HostFunction H)
    (p : Program H α) (s : Stage g H) (a : Activity g H) (m : Stage g H) : Prop :=
  match p with
  | .done _ => a = .working f ∧ m = s
  | .fail _ => a = .working f ∧ m = s
  | .panic _ => a = .working f ∧ m = s
  | .remember change next =>
    (a = .working f ∧ m = s) ∨
      (next s.world.memory).During run inside f
        { s with world := { s.world with memory := change s.world.memory } } a m
  | .exportName next => (next s.store.currentFunction).During run inside f s a m
  | .memorySize next =>
    (next ((s.store.bridge.map fun b => s.memorySize b.memory).getD 0)).During run inside f s a m
  | .read ptr len next =>
    match s.store.bridge with
    | some b => (next (s.read b.memory ptr len)).During run inside f s a m
    | none => (next (.error (noBridge f.name))).During run inside f s a m
  | .write bytes next =>
    (a = .working f ∧ m = s) ∨
      match s.store.bridge with
      | some b =>
        Buffer.During inside b bytes s a m ∨
          let (r, s') := (Buffer.placeForCall run b bytes).run s
          (next r).During run inside f s' a m
      | none => (next (.error (noBridge f.name))).During run inside f s a m
  | .callBack target next =>
    (a = .working f ∧ m = s) ∨
      (next (.reentrancy target)).During run inside f
        (s.log (.reentryRejected f.name target s.store.phase)) a m

inductive ImportCall.During (run : Runner g H) (inside : Runs g H) (s : Stage g H)
    (caller : Caller) : Provider H → List Value → Activity g H → Stage g H → Prop
  | values (f : HostFunction H) (body : List Value → Program H (List Value)) (args : List Value)
      (a : Activity g H) (m : Stage g H) (calling : s.store.call.isSome)
      (raw : f.callable = .raw body)
      (during : (body args).During run inside f (invoked f s) a m) :
      During run inside s caller (.function f) args a m
  | octets (f : HostFunction H) (body : Bytes → Program H Bytes) (b : Bridge) (ptr len : UInt32)
      (input : Bytes) (a : Activity g H) (m : Stage g H) (calling : s.store.call.isSome)
      (octets : f.callable = .bytes body) (bridge : s.store.bridge = some b)
      (read : s.read b.memory ptr len = .ok input)
      (during : (body input).During run inside f (invoked f s) a m) :
      During run inside s caller (.function f) [.i32 ptr, .i32 len] a m
  /-- The allocator runs for octets that are handed to guest code. -/
  | answering (p : Provider H) (args : List Value) (b : Bridge) (output : Bytes) (s₁ : Stage g H)
      (a : Activity g H) (m : Stage g H) (answers : Answers run s b caller p args output s₁)
      (during : Buffer.During inside b output s₁ a m) :
      During run inside s caller p args a m

namespace Stage

def During : (steps : Nat) → g.Code → Stage g H → Activity g H → Stage g H → Prop
  | 0, _, s, a, m => a = .stopped ∧ m = s
  | n + 1, code, s, a, m =>
    (a = .running code ∧ m = s) ∨
      match g.step s.module code s.guest with
      | .next cost code t =>
        During n code ({ s with guest := t }.updateStore fun u => u.spend cost) a m
      | .check elapsed code t =>
        let s' : Stage g H := { s with guest := t }.updateStore fun u => u.advance elapsed
        match s.store.stop? elapsed with
        | some _ => a = .stopped ∧ m = s'
        | none => During n code s' a m
      | .growMemory current desired maximum code t =>
        let (allowed, s') := askMemory { s with guest := t } current desired maximum
        During n (g.answer allowed code) s' a m
      | .growTable desired maximum code t =>
        During n (g.answer (GrowthLimit.askTable desired maximum) code) { s with guest := t } a m
      | .call index args caller depth code t =>
        match s.providers[index]? with
        | none => a = .stopped ∧ m = { s with guest := t }
        | some p =>
          ImportCall.During (runner s.module n depth)
              (fun function args s' => During n (g.enter s.module depth function args) s')
              { s with guest := t } caller p args a m ∨
            match ImportCall.provider (runner s.module n depth) p caller args
                { s with guest := t } with
            | (.ok results, s') => During n (g.resume results code) s' a m
            | (.error _, s') => a = .stopped ∧ m = s'
      | .finished _ t => a = .stopped ∧ m = { s with guest := t }
      | .trapped _ t => a = .stopped ∧ m = { s with guest := t }

def entered : Runs g H := fun function args s =>
  During g.stepLimit (g.enter s.module 0 function args) s

def released (b : Bridge) (name : String) (block : Block) (s : Stage g H) : Stage g H :=
  match (Buffer.release enter b block).run s with
  | (.ok _, s') => s'
  | (.error e, s') => s'.log (.releaseFailed name block e)

def Releasing (b : Bridge) (name : String) : List Block → Stage g H → Activity g H → Stage g H →
    Prop
  | [], _, _, _ => False
  | block :: blocks, s, a, m =>
    (block.isEmpty = false ∧
        entered b.dealloc [.i32 block.ptr, .i32 block.len] (s.note (.returned block)) a m) ∨
      Releasing b name blocks (s.released b name block) a m

inductive InCall (s : Stage g H) (name : String) :
    {α : Type} → Task g H α → Activity g H → Stage g H → Prop
  | supplying (b : Bridge) (function : Nat) (input : Bytes) (a : Activity g H) (m : Stage g H)
      (during : Buffer.During entered b input (s.begun name) a m) :
      InCall s name (exchange b name function input) a m
  | exporting (b : Bridge) (function : Nat) (input : Bytes) (block : Block) (s₁ : Stage g H)
      (a : Activity g H) (m : Stage g H) (bridge : s.store.bridge = some b)
      (supplied : (Buffer.placeForCall enter b input).run (s.begun name) = (.ok block, s₁))
      (during : entered function [.i32 block.ptr, .i32 block.len]
        (s₁.entering function [.i32 block.ptr, .i32 block.len]) a m) :
      InCall s name (exchange b name function input) a m
  | exportingValues (function : Nat) (args : List Value) (a : Activity g H) (m : Stage g H)
      (during : entered function args ((s.begun name).entering function args) a m) :
      InCall s name (exchangeValues name function args) a m
  | releasing {α : Type} (body : Task g H α) (r : Except Failure α) (s₁ : Stage g H) (b : Bridge)
      (a : Activity g H) (m : Stage g H) (ran : body.run (s.begun name) = (r, s₁))
      (bridge : s.store.bridge = some b)
      (during : Releasing b name s₁.tracked (s₁.leaving (surface name s₁.store.guestError r))
        a m) :
      InCall s name body a m

end Stage

inductive Plugin.Moment (m : g.Module) (settings : Settings) : Activity g H → Stage g H → Prop
  /-- The start computation runs, whatever comes of it. -/
  | starting (registry : Registry H) (providers : List (Provider H)) (w w' : World H)
      (a : Activity g H) (s : Stage g H)
      (bound : (Opening.bind registry settings (g.info m)).run w = (.ok providers, w'))
      (during : Stage.During g.stepLimit (g.start m).2
        (Opening.starting m providers settings w') a s) :
      Moment m settings a s
  | waiting (p : Plugin g H) (i : Instance g H) (w : World H) (opened : p.Opened)
      (origin : p.origin = (m, settings)) (live : p.live = some i) :
      Moment m settings .waiting ⟨i, w, []⟩
  | calling {α : Type} (p : Plugin g H) (i : Instance g H) (w : World H) (name : String)
      (t body : Task g H α) (a : Activity g H) (s : Stage g H) (opened : p.Opened)
      (origin : p.origin = (m, settings)) (live : p.live = some i)
      (accepts : Stage.Accepts ⟨i, w, []⟩ name t body)
      (during : Stage.InCall ⟨i, w, []⟩ name body a s) :
      Moment m settings a s

def Runs.Keeping (inside : Runs g H) (P : Stage g H → Prop) : Prop :=
  ∀ function args s a m, P s → inside function args s a m → P m

section Keeping
open Stage

variable {run : Runner g H} {inside : Runs g H} {P : Stage g H → Prop} {s m : Stage g H}
  {a : Activity g H}

theorem Buffer.During.keeps (hP : Kept run P) (hin : inside.Keeping P) {b : Bridge} {bytes : Bytes}
    (hs : P s) (h : During inside b bytes s a m) : P m :=
  hin _ _ _ _ _ (hP.host _ _ (.asked s _) hs) h.allocating

theorem Program.During.keeps (hP : Kept run P) (hin : inside.Keeping P) {f : HostFunction H}
    {p : Program H α} (hs : P s) (hc : s.store.call.isSome)
    (h : p.During run inside f s a m) : P m := by
  induction p generalizing s with
  | done v =>
    obtain ⟨-, rfl⟩ := h
    exact hs
  | fail e =>
    obtain ⟨-, rfl⟩ := h
    exact hs
  | panic e =>
    obtain ⟨-, rfl⟩ := h
    exact hs
  | remember change next ih =>
    rcases h with ⟨-, rfl⟩ | h
    · exact hs
    · let s' : Stage g H := { s with world := { s.world with memory := change s.world.memory } }
      have hs' : P s' := hP.host _ _ (.shared s _) hs
      exact ih _ hs' hc h
  | exportName next ih => exact ih _ hs hc h
  | memorySize next ih => exact ih _ hs hc h
  | read ptr len next ih =>
    unfold During at h
    split at h
    · exact ih _ hs hc h
    · exact ih _ hs hc h
  | write bytes next ih =>
    unfold During at h
    rcases h with ⟨-, rfl⟩ | h
    · exact hs
    · split at h
      · rename_i b hb
        rcases h with h | h
        · exact h.keeps hP hin hs
        · have ht := Buffer.placeForCall_keeps hP hs hb hc bytes
          exact ih _ ht (call_of_fixed (hP.fixed _ _ hs ht) hc) h
      · exact ih _ hs hc h
  | callBack target next ih =>
    rcases h with ⟨-, rfl⟩ | h
    · exact hs
    · have hs' : P (s.log (.reentryRejected f.name target s.store.phase)) :=
        hP.host _ _ (.shared s _) hs
      exact ih _ hs' hc h

theorem ImportCall.Answers.keeps (hP : Kept run P) {b : Bridge} {caller : Caller}
    {p : Provider H} {args : List Value} {output : Bytes} {s₁ : Stage g H}
    (h : Answers run s b caller p args output s₁) (hs : P s) : P s₁ := by
  cases h with
  | result f body ptr len input _ _ calling octets bridge read done =>
    have hg := serve_keeps hP f body input (invoked_keeps hP f hs) calling
    rwa [done] at hg
  | «variable» ptr len key _ calling bridge named found =>
    have hl := hP.host _ _ (.lookedUp s key) hs
    rwa [found] at hl

theorem ImportCall.During.keeps (hP : Kept run P) (hin : inside.Keeping P) {caller : Caller}
    {p : Provider H} {args : List Value} (hs : P s)
    (h : During run inside s caller p args a m) : P m := by
  cases h with
  | values f body args a m calling raw during =>
    exact during.keeps hP hin (invoked_keeps hP f hs) calling
  | octets f body b ptr len input a m calling octets bridge read during =>
    exact during.keeps hP hin (invoked_keeps hP f hs) calling
  | answering p args b output s₁ a m answers during =>
    exact during.keeps hP hin (answers.keeps hP hs)

end Keeping

namespace Stage
variable {P : Stage g H → Prop} {Q : g.Code → Stage g H → Prop}

/-- What guest code sustains holds whenever it runs. -/
theorem During.keeps (h : Sustained P Q) {n : Nat} {code : g.Code} {s m : Stage g H}
    {a : Activity g H} (hs : Q code s) (hd : During n code s a m) :
    m.fixed = s.fixed ∧ P m := by
  -- Moments of an imported function are moments of the allocator, which has fewer steps left.
  induction n generalizing code s m a with
  | zero =>
    obtain ⟨-, rfl⟩ := hd
    exact ⟨rfl, h.weaken _ _ hs⟩
  | succ n ih =>
    unfold During at hd
    rcases hd with ⟨-, rfl⟩ | hd
    · exact ⟨rfl, h.weaken _ _ hs⟩
    · split at hd
      · rename_i cost code' t hc
        have hk := ih (h.next _ _ _ _ _ hs hc) hd
        exact hk
      · rename_i elapsed code' t hc
        have ht := h.check _ _ _ _ _ hs hc
        dsimp only at hd
        split at hd
        · obtain ⟨-, rfl⟩ := hd
          exact ⟨rfl, h.weaken _ _ ht⟩
        · have hk := ih ht hd
          exact hk
      · rename_i current desired maximum code' t hc
        obtain ⟨hf, hp⟩ := ih (h.growMemory _ _ _ _ _ _ _ hs hc) hd
        exact ⟨hf.trans (askMemory_ticks _ current desired maximum).fixed_eq, hp⟩
      · rename_i desired maximum code' t hc
        have hk := ih (h.growTable _ _ _ _ _ _ hs hc) hd
        exact hk
      · rename_i index args caller depth code' t hc
        obtain ⟨ht, hn⟩ := h.call _ _ _ _ _ _ _ _ hs hc
        split at hd
        · obtain ⟨-, rfl⟩ := hd
          exact ⟨rfl, ht⟩
        · rename_i p _
          have hrun := h.runner_keeping s n depth
          have hguest : ({ s with guest := t } : Stage g H).fixed = s.fixed ∧
              P { s with guest := t } := ⟨rfl, ht⟩
          rcases hd with hd | hd
          · refine hd.keeps (h.kept hrun) (fun function args s' a m hs' hd' => ?_) hguest
            obtain ⟨hf, hp⟩ := ih (h.enter_of_fixed hs'.1 depth function args hs'.2) hd'
            exact ⟨hf.trans hs'.1, hp⟩
          · have hp := h.provider hrun p caller args (s := { s with guest := t }) rfl ht
            split at hd
            · rename_i results s' hr
              rw [hr] at hp
              obtain ⟨hf, hq⟩ := ih (hn results s' hp.1 hp.2) hd
              exact ⟨hf.trans hp.1, hq⟩
            · rename_i e s' hr
              rw [hr] at hp
              obtain ⟨-, rfl⟩ := hd
              exact hp
      · rename_i results t hc
        obtain ⟨-, rfl⟩ := hd
        exact ⟨rfl, h.finished _ _ _ _ hs hc⟩
      · rename_i cause t hc
        obtain ⟨-, rfl⟩ := hd
        exact ⟨rfl, h.trapped _ _ _ _ hs hc⟩

/-- What the host does to an instance between two runs of guest code: nothing that has to do with
the guest, its variables, its allocator and the limit of its memory, and nothing that takes off the
record. -/
structure Apart (s s' : Stage g H) : Prop where
  module : s'.module = s.module
  guest : s'.guest = s.guest
  vars : s'.store.vars = s.store.vars
  bridge : s'.store.bridge = s.store.bridge
  limit : s'.store.limit = s.store.limit
  uses : Deeds.uses s'.record = Deeds.uses s.record
  did : ∃ ds, s.Did ds s'

structure Discreet (s s' : Stage g H) : Prop extends s.Apart s' where
  quiet : ∃ ds, s.Did ds s' ∧ Deeds.returned ds = [] ∧ Deeds.entries ds = [] ∧ Deeds.given ds = []

inductive Role where
  | answering
  | calling (name : String)

/-- Where the host enters guest code: what it puts on record, the function with its arguments, and
the stage that guest code starts from. An imported function leads to the allocator alone. -/
inductive Entry (s : Stage g H) : Role → Deed → Nat → List Value → Stage g H → Prop
  | asked (role : Role) (b : Bridge) (len : UInt32) (bridge : s.store.bridge = some b) :
      Entry s role (.asked len) b.alloc [.i32 len] (s.note (.asked len))
  | exported (name : String) (function : Nat) (signature : Signature) (args : List Value)
      (found : g.function? s.module name = some (function, signature)) :
      Entry s (.calling name) (.entered function args) function args (s.entering function args)
  | offered (name : String) (b : Bridge) (block : Block) (bridge : s.store.bridge = some b)
      (nonempty : block.isEmpty = false) :
      Entry s (.calling name) (.returned block) b.dealloc [.i32 block.ptr, .i32 block.len]
        (s.note (.returned block))

/-- What is carried through calls of an export: guest code that the host enters leaves it true, and
so do the buffers that the host fills, and it has nothing to do with what the host does in between.
-/
structure Carried (name : String) (P : Stage g H → Prop) : Prop where
  discreet : ∀ s s' : Stage g H, s.Discreet s' → P s → P s'
  enter : ∀ (s s₀ : Stage g H) d function args, s.Entry (.calling name) d function args s₀ → P s →
    P (Stage.enter function args s₀ : Ending × Stage g H).2
  placeForCall : ∀ (s : Stage g H) (b : Bridge) (bytes : Bytes), s.store.bridge = some b →
    s.store.call.isSome → P s → P ((Buffer.placeForCall Stage.enter b bytes).run s).2

/-- What lasts through a call: guest code and imported functions sustain it, and it has nothing to
do with what the host does between two runs of guest code. -/
structure Lasting (P : Stage g H → Prop) (Q : g.Code → Stage g H → Prop) : Prop where
  sustained : Sustained P Q
  apart : ∀ s s' : Stage g H, s.Apart s' → P s → P s'
  begun : ∀ (s : Stage g H) name, P s → P (s.begun name)

namespace Apart
variable {s s' s'' : Stage g H}

theorem trans (h : s.Apart s') (h' : s'.Apart s'') : s.Apart s'' where
  module := h'.module.trans h.module
  guest := h'.guest.trans h.guest
  vars := h'.vars.trans h.vars
  bridge := h'.bridge.trans h.bridge
  limit := h'.limit.trans h.limit
  uses := h'.uses.trans h.uses
  did := by
    obtain ⟨ds, hd⟩ := h.did
    obtain ⟨ds', hd'⟩ := h'.did
    exact ⟨ds ++ ds', hd.trans hd'⟩

theorem noted (s : Stage g H) {d : Deed} (hd : d.use? = none) : s.Apart (s.note d) where
  module := rfl
  guest := rfl
  vars := rfl
  bridge := rfl
  limit := rfl
  uses := by
    rw [(Did.note s d).record_eq, Deeds.uses_append]
    simp [Deeds.uses, hd]
  did := ⟨[d], Did.note s d⟩

theorem entering (s : Stage g H) (function : Nat) (args : List Value) :
    s.Apart (s.entering function args) := by
  have h : s.Apart ((s.enterPhase .argsMarshaled).enterPhase .invoking) :=
    ⟨rfl, rfl, rfl, rfl, rfl, rfl, [], rfl⟩
  exact h.trans (noted _ rfl)

end Apart

theorem Entry.apart {s s₀ : Stage g H} {role : Role} {d : Deed} {function : Nat} {args : List Value}
    (h : s.Entry role d function args s₀) : s.Apart s₀ := by
  cases h with
  | asked | offered => exact .noted s rfl
  | exported => exact .entering s _ _

namespace Discreet

theorem of_same {s s' : Stage g H} (hi : s'.module = s.module ∧ s'.guest = s.guest)
    (hs : s'.store.vars = s.store.vars ∧ s'.store.bridge = s.store.bridge ∧
      s'.store.limit = s.store.limit) (hd : s'.deeds = s.deeds) : s.Discreet s' where
  module := hi.1
  guest := hi.2
  vars := hs.1
  bridge := hs.2.1
  limit := hs.2.2
  uses := by rw [record, hd, record]
  did := ⟨[], hd⟩
  quiet := ⟨[], hd, rfl, rfl, rfl⟩

theorem log (s : Stage g H) (e : Log.Event) : s.Discreet (s.log e) :=
  of_same ⟨rfl, rfl⟩ ⟨rfl, rfl, rfl⟩ rfl

theorem kept (s : Stage g H) (block : Block) (e : Failure) (event : Log.Event) :
    s.Discreet ((s.note (.kept block e)).log event) where
  toApart := (Apart.noted s rfl).trans (log _ event).toApart
  quiet := ⟨[.kept block e], rfl, rfl, rfl, rfl⟩

theorem adopted (s : Stage g H) (out : Block) :
    s.Discreet ((s.updateStore fun t => adopt t out).enterPhase .resultMarshaled) := by
  obtain ⟨hv, hb, hl⟩ : (adopt s.store out).vars = s.store.vars ∧
      (adopt s.store out).bridge = s.store.bridge ∧
        (adopt s.store out).limit = s.store.limit := by
    unfold adopt Store.track
    split
    · exact ⟨rfl, rfl, rfl⟩
    · split <;> exact ⟨rfl, rfl, rfl⟩
  exact of_same ⟨rfl, rfl⟩ ⟨hv, hb, hl⟩ rfl

theorem leaving (s : Stage g H) (r : Except Failure α) : s.Discreet (s.leaving r) := by
  cases r <;> exact of_same ⟨rfl, rfl⟩ ⟨rfl, rfl, rfl⟩ rfl

theorem ended (s : Stage g H) (name : String) (r : Except Failure α) (cleanup : Option Failure) :
    s.Discreet (s.ended name r cleanup) := by
  cases cleanup <;> exact of_same ⟨rfl, rfl⟩ ⟨rfl, rfl, rfl⟩ rfl

end Discreet

/-- What no tick changes, whatever the guest is, lasts through calls. -/
theorem lasting_of_ticks (ht : ∀ s s', Tick s s' → P s → P s')
    (ha : ∀ s s' : Stage g H, s.Apart s' → P s → P s')
    (hb : ∀ (s : Stage g H) name, P s → P (s.begun name)) : Lasting P fun _ => P where
  sustained := sustained_of_ticks ht
  apart := ha
  begun := hb

theorem releaseAll_snd (b : Bridge) (name : String) (block : Block) (blocks : List Block)
    (s : Stage g H) :
    (releaseAll b name (block :: blocks) s).2 =
      (releaseAll b name blocks (s.released b name block)).2 := by
  rw [releaseAll_cons, released]
  rcases (Buffer.release enter b block).run s with ⟨e | u, s'⟩ <;> rfl

theorem released_steady (b : Bridge) (name : String) (block : Block) (s : Stage g H) :
    (s.released b name block).steady = s.steady := by
  have hs := release_steady b block s
  unfold released
  rcases hr : (Buffer.release enter b block).run s with ⟨e | u, s'⟩ <;> rw [hr] at hs <;> exact hs

theorem foldl_released_steady (b : Bridge) (name : String) (blocks : List Block)
    (s : Stage g H) :
    (blocks.foldl (fun u c => u.released b name c) s).steady = s.steady := by
  induction blocks generalizing s with
  | nil => rfl
  | cons block blocks ih => exact (ih _).trans (released_steady b name block s)

theorem bridge_of_steady {s s' : Stage g H} (h : s'.steady = s.steady) :
    s'.store.bridge = s.store.bridge := congrArg Fixed.bridge h

namespace Carried
variable {s : Stage g H} {name : String} (h : Carried name P)
include h

theorem supplied {b : Bridge} (hb : s.store.bridge = some b) (hc : s.store.call.isSome)
    {function : Nat} {signature : Signature}
    (found : g.function? s.module name = some (function, signature)) {input : Bytes} {block : Block}
    {s₁ : Stage g H}
    (hr : (Buffer.placeForCall Stage.enter b input).run s = (.ok block, s₁)) (hs : P s₁) :
    P ((Stage.exchange b name function input).run s).2 := by
  have ht := Buffer.placeForCall_ticks enter_ticks hb hc input
  rw [hr] at ht
  have hm : s₁.module = s.module := congrArg Fixed.module ht.fixed_eq
  rw [← hm] at found
  have he := h.enter s₁ _ _ _ _
    (.exported name function signature [.i32 block.ptr, .i32 block.len] found) hs
  rw [run_exchange, hr]
  dsimp only
  rcases hx : (Stage.enter function [.i32 block.ptr, .i32 block.len] : Action g H Ending)
    (s₁.entering function [.i32 block.ptr, .i32 block.len]) with ⟨r, s₂⟩
  rw [hx] at he
  dsimp only
  cases packed r with
  | error e => exact he
  | ok word =>
    dsimp only
    cases s₂.output b word with
    | error e => exact he
    | ok v => exact h.discreet _ _ (.adopted s₂ (Block.unpack word)) he

theorem exchange {b : Bridge} (hb : s.store.bridge = some b) (hc : s.store.call.isSome)
    {function : Nat} {signature : Signature}
    (found : g.function? s.module name = some (function, signature)) (input : Bytes) (hs : P s) :
    P ((Stage.exchange b name function input).run s).2 := by
  have hp := h.placeForCall s b input hb hc hs
  rcases hr : (Buffer.placeForCall Stage.enter b input).run s with ⟨e | block, s₁⟩ <;>
    rw [hr] at hp
  · rw [run_exchange, hr]
    exact hp
  · exact h.supplied hb hc found hr hp

theorem exchangeValues {function : Nat} {signature : Signature}
    (found : g.function? s.module name = some (function, signature)) (args : List Value)
    (hs : P s) : P ((Stage.exchangeValues name function args).run s).2 := by
  have he := h.enter s _ _ _ _ (.exported name function signature args found) hs
  rw [run_exchangeValues]
  rcases hx : (Stage.enter function args : Action g H Ending) (s.entering function args) with
    ⟨e | results, s₁⟩ <;> rw [hx] at he
  · exact he
  · exact h.discreet s₁ _ (.of_same ⟨rfl, rfl⟩ ⟨rfl, rfl, rfl⟩ rfl) he

theorem released {b : Bridge} (hb : s.store.bridge = some b) (block : Block) (hs : P s) :
    P (s.released b name block) := by
  unfold Stage.released
  cases he : block.isEmpty with
  | true =>
    have hr : (Buffer.release Stage.enter b block).run s = (.ok (), s) := by
      unfold Buffer.release
      rw [he]
      rfl
    rw [hr]
    exact hs
  | false =>
    have hp := h.enter s _ _ _ _ (.offered name b block hb he) hs
    rw [Buffer.run_release Stage.enter b he]
    rcases hx : (Stage.enter b.dealloc [.i32 block.ptr, .i32 block.len] : Action g H Ending)
      (s.note (.returned block)) with ⟨e | results, s'⟩ <;> rw [hx] at hp
    · exact h.discreet _ _ (.kept s' block _ _) hp
    · exact hp

theorem releaseAll {b : Bridge} (hb : s.store.bridge = some b) (blocks : List Block) (hs : P s) :
    P (Stage.releaseAll b name blocks s).2 := by
  induction blocks generalizing s with
  | nil => exact hs
  | cons block blocks ih =>
    rw [releaseAll_snd]
    exact ih ((bridge_of_steady (released_steady b name block s)).trans hb)
      (h.released hb block hs)

theorem body {t body : Task g H α} (ha : s.Accepts name t body) (hs : P (s.begun name)) :
    P (body.run (s.begun name)).2 := by
  cases ha with
  | octets function b input idle found bridge =>
    exact h.exchange (s := s.begun name) bridge rfl found input hs
  | values function signature args idle found typed =>
    exact h.exchangeValues (s := s.begun name) found args hs

/-- What is true when the body of a call has ended is true when the call has. -/
theorem finish {t body : Task g H α} (ha : s.Accepts name t body) {r : Except Failure α}
    {s₁ : Stage g H} (hb : body.run (s.begun name) = (r, s₁)) (hs : P s₁) : P (t.run s).2 := by
  obtain ⟨A, adopted, hw⟩ := ha.worked
  rw [hb] at hw
  have hl := h.discreet _ _ (.leaving s₁ (surface name s₁.store.guestError r)) hs
  rw [ha.run_leaving hb]
  refine h.discreet _ _ (.ended _ name _ _) ?_
  cases hbridge : s.store.bridge with
  | none => exact hl
  | some b => exact h.releaseAll ((hw.leaving_bridge _).trans hbridge) _ hl

theorem call {t body : Task g H α} (ha : s.Accepts name t body) (hs : P (s.begun name)) :
    P (t.run s).2 := h.finish ha (Prod.eta _).symm (h.body ha hs)

end Carried

namespace Lasting
variable {s m : Stage g H} {a : Activity g H} (h : Lasting P Q)
include h

theorem enter (function : Nat) (args : List Value) (hs : P s) :
    P (Stage.enter function args s : Ending × Stage g H).2 :=
  (execute_keeps h.sustained g.stepLimit _ (h.sustained.enter 0 function args s hs)).2

theorem carried (name : String) : Carried name P where
  discreet := fun s s' ha hs => h.apart s s' ha.toApart hs
  enter := fun s s₀ d function args he hs => h.enter function args (h.apart s s₀ he.apart hs)
  placeForCall s b bytes hb hc hs := by
    have hr : Runner.Keeping (Stage.enter : Runner g H) fun s' => s'.fixed = s.fixed ∧ P s' := by
      rintro function args s' ⟨hf, hs'⟩
      exact ⟨(enter_ticks function args s').fixed_eq.trans hf,
        (execute_keeps h.sustained g.stepLimit _ (h.sustained.enter 0 function args s' hs')).2⟩
    exact (Buffer.placeForCall_keeps (h.sustained.kept hr) ⟨rfl, hs⟩ hb hc bytes).2

theorem entered {function : Nat} {args : List Value} (hs : P s)
    (hd : Stage.entered function args s a m) : P m :=
  (Stage.During.keeps h.sustained (h.sustained.enter 0 function args s hs) hd).2

theorem releasing {b : Bridge} {name : String} {blocks : List Block}
    (hb : s.store.bridge = some b) (hs : P s) (hd : Releasing b name blocks s a m) : P m := by
  induction blocks generalizing s with
  | nil => cases hd
  | cons block blocks ih =>
    rcases hd with ⟨-, hd⟩ | hd
    · exact h.entered (h.apart _ _ (.noted s rfl) hs) hd
    · exact ih ((bridge_of_steady (released_steady b name block s)).trans hb)
        ((h.carried name).released hb block hs) hd

/-- What lasts is as true after a call as before. -/
theorem call {name : String} {t body : Task g H α} (ha : s.Accepts name t body) (hs : P s) :
    P (t.run s).2 := (h.carried name).call ha (h.begun s name hs)

theorem inCall {name : String} {t body : Task g H α} (ha : s.Accepts name t body) (hs : P s)
    (hd : s.InCall name body a m) : P m := by
  have hb := h.begun s name hs
  cases hd with
  | supplying b function input _ _ during =>
    exact h.entered (h.apart _ _ (.noted _ rfl) hb) during.allocating
  | exporting b function input block s₁ _ _ bridge supplied during =>
    have hp := (h.carried name).placeForCall (s.begun name) b input bridge rfl hb
    rw [supplied] at hp
    exact h.entered (h.apart _ _ (.entering s₁ function _) hp) during
  | exportingValues function args _ _ during =>
    exact h.entered (h.apart _ _ (.entering _ function args) hb) during
  | releasing body r s₁ b _ _ ran bridge during =>
    have hp := (h.carried name).body ha hb
    obtain ⟨A, adopted, hw⟩ := ha.worked
    rw [ran] at hp hw
    exact h.releasing ((hw.leaving_bridge _).trans bridge)
      (h.apart _ _ (Discreet.leaving s₁ _).toApart hp) during

end Lasting

/-- What lasts through the life of a plugin: also setting and removing variables from outside leaves
it true, and it has nothing to do with what plugins share, with the record and with what becomes
known of a module's allocator once it has started. -/
structure Enduring (P : Stage g H → Prop) (Q : g.Code → Stage g H → Prop) : Prop extends
    Lasting P Q where
  opened : ∀ (s : Stage g H) bridge, P s → P (s.updateStore fun t => { t.disarmed with bridge })
  anew : ∀ (i : Instance g H) w ds w', P ⟨i, w, ds⟩ → P ⟨i, w', []⟩
  assigned : ∀ (s : Stage g H) key value vars, s.store.vars.set key value = .ok vars → P s →
    P (s.updateStore fun t => { t with vars })
  cleared : ∀ s : Stage g H, P s → P (s.updateStore fun t => { t with vars := t.vars.clear })

end Stage

namespace Plugin
open Stage

variable {P : Stage g H → Prop} {Q : g.Code → Stage g H → Prop} {m : g.Module}
  {settings : Settings}

theorem keeps_calling (h : Enduring P Q) {name : String} {t : Task g H α}
    (ht : Calling name t) {p : Plugin g H} (hp : ∀ i w, p.live = some i → P ⟨i, w, []⟩)
    (w : World H) {j : Instance g H} (hj : ((calling name t).run (p, w)).2.1.live = some j)
    (w' : World H) : P ⟨j, w', []⟩ := by
  cases hl : p.live with
  | none =>
    rw [run_calling_closed name t hl, hl] at hj
    cases hj
  | some i =>
    have hi := hp i w hl
    obtain ⟨rfl, -⟩ := live_of_calling hl hj
    rcases ht ⟨i, w, []⟩ with ⟨body, ha⟩ | ⟨e, he⟩
    · exact h.anew _ _ _ w' (h.call ha hi)
    · rw [he.run_eq]
      exact h.anew _ _ _ w' hi

/-- What lasts holds of every open plugin. -/
theorem Opened.keeps (h : Enduring P Q)
    (hstart : ∀ providers (w : World H), Q (g.start m).2 (Opening.starting m providers settings w))
    {p : Plugin g H} (hp : p.Opened) (ho : p.origin = (m, settings)) (i : Instance g H)
    (w : World H) (hi : p.live = some i) : P ⟨i, w, []⟩ := by
  induction hp generalizing i w with
  | opened registry m' settings' w₀ w₁ j made =>
    obtain ⟨rfl, rfl⟩ := Prod.mk.inj ho
    obtain rfl := Option.some.inj hi
    -- The instance is what the start computation left, but for its allocator.
    obtain ⟨providers, i₀, bridge, w₂, w₃, w₄, -, -, hb, -, rfl⟩ := Opening.of_instantiate made
    obtain ⟨results, s, he, rfl, rfl⟩ := Opening.of_begin hb
    have hs := (execute_keeps h.sustained g.stepLimit _ (hstart providers w₃)).2
    rw [he] at hs
    exact h.opened ⟨s.toInstance, w, []⟩ bridge (h.anew _ _ _ w hs)
  | called p before name input w₀ ih =>
    rw [show ((call name input).run (p, w₀)).2.1.origin = p.origin from calling_origin ..] at ho
    exact keeps_calling h (call_calling name input) (fun i w hi => ih ho i w hi) w₀ hi w
  | calledValues p before name args w₀ ih =>
    have hcalled : ((callValues name args).run (p, w₀)).2.1.origin = p.origin :=
      calling_origin ..
    rw [hcalled] at ho
    exact keeps_calling h (callValues_calling name args) (fun i w hi => ih ho i w hi) w₀ hi w
  | closed p before w₀ ih =>
    obtain ⟨m', settings', live⟩ := p
    cases live <;> cases hi
  | variableSet p before key value ih =>
    obtain ⟨m', settings', live⟩ := p
    cases live with
    | none => cases hi
    | some j =>
      simp only [setVariable] at hi ho
      cases hv : j.store.vars.set key value with
      | ok vars =>
        rw [hv] at hi ho
        obtain rfl := Option.some.inj hi
        exact h.assigned ⟨j, w, []⟩ key value vars hv (ih ho j w rfl)
      | error e =>
        rw [hv] at hi ho
        exact ih ho i w hi
  | variablesCleared p before ih =>
    obtain ⟨m', settings', live⟩ := p
    cases live with
    | none => cases hi
    | some j =>
      obtain rfl := Option.some.inj hi
      exact h.cleared ⟨j, w, []⟩ (ih ho j w rfl)

theorem Moment.keeps (h : Enduring P Q)
    (hstart : ∀ providers (w : World H), Q (g.start m).2 (Opening.starting m providers settings w))
    {a : Activity g H} {s : Stage g H} (hm : Moment m settings a s) : P s := by
  cases hm with
  | starting registry providers w w' _ _ bound during =>
    exact (Stage.During.keeps h.sustained (hstart providers w') during).2
  | waiting p i w opened origin live => exact opened.keeps h hstart origin i w live
  | calling p i w name t body _ _ opened origin live accepts during =>
    exact h.inCall accepts (opened.keeps h hstart origin i w live) during

/-- The module and the limit of its memory are always those that the plugin was opened with. -/
theorem Moment.of_origin {a : Activity g H} {s : Stage g H} (hm : Moment m settings a s) :
    s.module = m ∧ s.store.limit.maxMemoryBytes = settings.maxMemoryBytes := by
  let P (s : Stage g H) : Prop :=
    s.module = m ∧ s.store.limit.maxMemoryBytes = settings.maxMemoryBytes
  have ht : ∀ s s', Tick s s' → P s → P s' := by
    intro s s' t hs
    have hf := t.fixed_eq
    exact ⟨(congrArg Fixed.module hf).trans hs.1, (congrArg Fixed.maxMemoryBytes hf).trans hs.2⟩
  have ha : ∀ s s' : Stage g H, s.Apart s' → P s → P s' := fun s s' h hs =>
    ⟨h.module.trans hs.1, (congrArg GrowthLimit.maxMemoryBytes h.limit).trans hs.2⟩
  have h : Enduring P fun _ => P :=
    { lasting_of_ticks ht ha fun _ _ hs => hs with
      opened := fun _ _ hs => hs
      anew := fun _ _ _ _ hs => hs
      assigned := fun _ _ _ _ _ hs => hs
      cleared := fun _ hs => hs }
  exact hm.keeps h fun _ _ => ⟨rfl, rfl⟩

end Plugin

end PluginHost
