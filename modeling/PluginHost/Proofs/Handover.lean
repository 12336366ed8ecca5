import PluginHost.Proofs.Context
import PluginHost.Proofs.Reading
/-!
What a host function on octets exchanges with the guest code that calls it. It gets the octets of
the range that it is called with as they are at that time, and what it returns goes into one fresh
buffer, which the guest is given. Where the range goes beyond memory, or there is no buffer, guest
code is ended, and with it the call as far as nothing else has a say in its answer.
-/
namespace PluginHost
variable {g : Guest} {H α : Type}

structure HostFunction.OnOctets (f : HostFunction H) (callable : Bytes → Program H Bytes) :
    Prop where
  callable : f.callable = .bytes callable
  signature : f.signature = .bytes

namespace ImportCall
open Stage

inductive Delivers (run : Runner g H) (b : Bridge) (output : Bytes) (u : Stage g H) :
    Ending → Stage g H → Prop
  | nothing (empty : output = []) : Delivers run b output u (.ok [.i64 0]) u
  /-- The allocator is asked once, for just so many octets as there are. They are in the buffer that
  it returns, and the buffer belongs to the call. -/
  | placed (block : Block) (s m : Stage g H) (nonempty : output ≠ [])
      (exact : block.len.toNat = output.length)
      (ended : run b.alloc [.i32 block.len] (u.note (.asked block.len)) =
        (.ok [.i32 block.ptr], s))
      (placed : m = s.placed b block output)
      (holds : window (g.octets m.guest b.memory) block.ptr.toNat output.length = .ok output)
      (tracked : block ∈ m.tracked) : Delivers run b output u (.ok [.i64 block.pack]) m
  | long (long : Buffer.maxLength < output.length) :
      Delivers run b output u (.error (.raised (.outOfMemory output.length))) u
  | declined (len : UInt32) (r : Ending) (m : Stage g H) (e : Failure)
      (exact : len.toNat = output.length)
      (ended : run b.alloc [.i32 len] (u.note (.asked len)) = (r, m))
      (declines : Buffer.Declines m b output.length r e) :
      Delivers run b output u (.error (.raised e)) m

structure Serves (run : Runner g H) (v : Stage g H) (b : Bridge) (f : HostFunction H)
    (callable : Bytes → Program H Bytes) (caller : Caller) (ptr len : UInt32) : Prop where
  /-- Beyond memory the function does not run: but for a line in the log nothing changes. -/
  outside : ∀ e, window (g.octets v.guest b.memory) ptr.toNat len.toNat = .error e →
    provider run (.function f) caller [.i32 ptr, .i32 len] v = (.error (.raised e), invoked f v)
  /-- Otherwise it runs on what the range holds before anything else happens, and what it returns is
  delivered. -/
  returned : ∀ input output s,
    window (g.octets v.guest b.memory) ptr.toNat len.toNat = .ok input →
    (callable input).exec run f.name (invoked f v) = (.ok output, s) →
      ∃ r m, provider run (.function f) caller [.i32 ptr, .i32 len] v = (r, m) ∧
        Delivers run b output (s.note (.served f.ns f.name input output)) r m

theorem window_beyond (hg : g.Flat) (s : Stage g H) {memory ptr len : Nat}
    (h : s.memorySize memory < ptr + len) :
    window (g.octets s.guest memory) ptr len =
      .error (.outOfBounds ptr len (s.memorySize memory)) := by
  have hl : (g.octets s.guest memory).length = s.memorySize memory := hg.length_octets ..
  rw [window, hl, if_neg (Nat.not_le_of_lt h)]

/-- A buffer that has been filled holds the octets. -/
theorem window_placed (hg : g.Flat) (s : Stage g H) (b : Bridge) {block : Block} {output : Bytes}
    (hr : block.ptr.toNat + output.length ≤ s.memorySize b.memory) :
    window (g.octets (s.placed b block output).guest b.memory) block.ptr.toNat output.length =
      .ok output := by
  have hl : block.ptr.toNat + output.length ≤ (g.octets s.guest b.memory).length := by
    rwa [hg.length_octets]
  change window (g.octets (g.write s.guest b.memory block.ptr.toNat output) b.memory) _ _ = _
  rw [hg.octets_write _ _ _ _ hr, window, patched]
  have ht : ((g.octets s.guest b.memory).take block.ptr.toNat).length = block.ptr.toNat := by
    rw [List.length_take]
    omega
  rw [if_pos (by simp only [List.length_append, ht]; omega), List.append_assoc,
    List.drop_left' ht, List.take_left' rfl]

def handed : Except Failure Block → Ending
  | .ok block => .ok [.i64 block.pack]
  | .error e => .error (.raised e)

theorem delivers_of_placeForCall (hg : g.Flat) {run : Runner g H} (hrun : run.Ticking)
    {b : Bridge} {output : Bytes} {u m : Stage g H} (hc : u.store.call.isSome)
    {r : Except Failure Block} (h : (Buffer.placeForCall run b output).run u = (r, m)) :
    Delivers run b output u (handed r) m := by
  cases Buffer.places_of_placeForCall h with
  | nothing empty => exact .nothing empty
  | long long => exact .long long
  | declined r _ e nonempty short ended declined =>
    exact .declined _ r m e (Buffer.length_toNat short) ended declined
  | placed block s nonempty ended ptr exact room =>
    have ht := hrun b.alloc [.i32 block.len] (u.note (.asked block.len))
    rw [ended] at ht
    have he : block.isEmpty = false := by
      have hl : block.len ≠ 0 := by
        intro hl
        rw [hl] at exact
        exact nonempty (List.length_eq_zero_iff.mp exact.symm)
      simp [Block.isEmpty, ptr, hl]
    have hm := tracked_track (s := (s.note (.given block)).write b.memory block.ptr output)
      (ht.call_isSome hc) he
    rw [exact] at room
    refine .placed block s _ nonempty exact ended rfl (window_placed hg s b room) ?_
    exact hm ▸ List.mem_cons_self

/-- A function on octets serves whatever guest code calls it. -/
theorem serves (hg : g.Flat) {run : Runner g H} (hrun : run.Ticking) {v : Stage g H} {b : Bridge}
    {f : HostFunction H} {callable : Bytes → Program H Bytes} (hf : f.OnOctets callable)
    (hc : v.store.call.isSome) (hb : v.store.bridge = some b) (caller : Caller)
    (ptr len : UInt32) : Serves run v b f callable caller ptr len where
  outside := by
    intro e hw
    change raising _ _ _ v = _
    rw [run_raising, run_function_bytes run f hc hf.callable hb, read_window hg, hw]
    rfl
  returned := by
    intro input output s hw hx
    have hr : v.read b.memory ptr len = .ok input := by rw [read_window hg, hw]
    have hs : (serve run f callable input).run (invoked f v) =
        (.ok output, s.note (.served f.ns f.name input output)) := by
      rw [run_serve, run_guarded, hx]
    have ht : Ticks v s := by
      have hk := (callable input).exec_keeps (hrun.kept v) f.name
        (invoked_keeps (hrun.kept v) f .refl) hc
      rwa [hx] at hk
    obtain ⟨r, m, hp⟩ : ∃ r m, (Buffer.placeForCall run b output).run
      (s.note (.served f.ns f.name input output)) = (r, m) := ⟨_, _, rfl⟩
    have hcs : (s.note (.served f.ns f.name input output)).store.call.isSome := ht.call_isSome hc
    refine ⟨_, m, ?_, delivers_of_placeForCall hg hrun hcs hp⟩
    change raising _ _ _ v = _
    rw [run_raising, run_function_read run f hc hf.callable hb hr, hs]
    dsimp only
    rw [hp, hf.signature]
    cases r <;> rfl

end ImportCall

namespace Stage

inductive Falls (left : Nat) (code : g.Code) (s : Stage g H) (f : HostFunction H) (e : Failure)
    (m : Stage g H) : Prop
  | calling {args : List Value} {caller : Caller} {depth : Nat} {v : Stage g H}
      (calls : s.Calls code (.function f) caller args depth v)
      (failed : ImportCall.provider (runner s.module left depth) (.function f) caller args v =
        (.error (.raised e), m))

theorem Falls.execute_eq {left : Nat} {code : g.Code} {s m : Stage g H} {f : HostFunction H}
    {e : Failure} (h : s.Falls left code f e m) :
    execute (left + 1) code s = (.error (.raised e), m) := by
  obtain ⟨calls, failed⟩ := h
  exact calls.execute_eq failed

section Call
variable {s s₀ s₁ u m : Stage g H} {name : String} {t body : Task g H α} {purpose : Purpose}
  {function depth left : Nat} {args : List Value} {code : g.Code} {e : Failure}

/-- Where guest code is ended before cleanup, the call fails with that failure, unless it is a trap
and the guest has left a message. -/
theorem Reaches.answer_eq (h : s.Reaches name body purpose depth left code u)
    (ha : s.Accepts name t body) (hp : purpose ≠ .releasing)
    (he : execute left code u = (.error (.raised e), m))
    (hd : depth = 0 ∨ m.store.limit.denied = false) :
    (t.run s).1 = surface name m.store.guestError (.error e) := by
  obtain ⟨e', ds, hbody, -, hs⟩ := h.body_eq hp he
  obtain rfl := hs.eq_of_granted hd
  rw [ha.run_leaving hbody]
  exact answer_surface_error ..

/-- A call answers with the first failure, of what came before cleanup or else of the
deallocator. -/
theorem Accepts.answer_eq (ha : s.Accepts name t body) (hs : s.deeds = []) {r : Except Failure α}
    (hb : body.run (s.begun name) = (r, s₁)) :
    (t.run s).1 = answer (surface name s₁.store.guestError r)
      (Deeds.failures (t.run s).2.record).head? := by
  obtain ⟨A, adopted, C, cleanup, s₂, hw, hr, hp⟩ := ha.released hb
  have hd := hw.did.trans (hr.did_of_leaving name)
  rw [hp, hd.record_of_begun hs, Deeds.failures_append, hw.failures, List.nil_append, hr.cleanup]

/-- No buffer is offered back before cleanup. -/
theorem Enters.unreturned (h : s.Enters name body purpose function args s₀)
    (hp : purpose ≠ .releasing) (hs : s.deeds = []) {a : Activity g H}
    (hd : entered function args s₀ a m) : Deeds.returned m.record = [] := by
  obtain ⟨ds, hr⟩ := h.ran hp
  obtain ⟨ds', hr', -⟩ := (entered_ticks hd).ran
  have hall := hr.trans hr'
  rw [hall.did.record_of_begun hs, hall.returned]

theorem Accepts.unreturned (ha : s.Accepts name t body) (hs : s.deeds = []) :
    Deeds.returned (body.run (s.begun name)).2.record = [] := by
  obtain ⟨A, adopted, hw⟩ := ha.worked
  rw [hw.did.record_of_begun hs, hw.returned]

theorem Enters.serves (hg : g.Flat) (ha : s.Accepts name t body)
    (h : s.Enters name body purpose function args s₀) (hu : u.fixed = s₀.fixed) {b : Bridge}
    (hb : s.store.bridge = some b) {f : HostFunction H} {callable : Bytes → Program H Bytes}
    (hf : f.OnOctets callable) {caller : Caller} {ptr len : UInt32} {v : Stage g H}
    (hc : u.Calls code (.function f) caller [.i32 ptr, .i32 len] depth v) (n : Nat) :
    ImportCall.Serves (runner u.module n depth) v b f callable caller ptr len := by
  have hs := h.steady ha
  have hv : v.fixed = s₀.fixed := by
    rw [← hu]
    cases hc
    rfl
  have hbridge : v.store.bridge = some b := by
    rw [bridge_of_fixed hv, ← hb]
    exact congrArg Fixed.bridge hs
  have hcalling : v.store.call.map CallContext.function = some name :=
    (congrArg Fixed.calling hv).trans (congrArg Fixed.calling hs)
  have hsome : v.store.call.isSome := by
    obtain ⟨c, hvc, -⟩ := Option.map_eq_some_iff.mp hcalling
    rw [hvc]
    rfl
  exact ImportCall.serves hg (runner_ticks u.module n depth) hf hsome hbridge caller ptr len

end Call

/-- What becomes of the octets of a host function in an accepted call, given its body. -/
structure HandsOver (s : Stage g H) (name : String) (t body : Task g H α) (b : Bridge)
    (f : HostFunction H) (callable : Bytes → Program H Bytes) : Prop where
  memory : g.memory? s.module = some b.memory
  allocator : g.function? s.module Name.alloc = some (b.alloc, Opening.allocType)
  /-- The function serves guest code at every moment of the call. -/
  serves : ∀ code u caller ptr len depth v n, s.InCall name body (.running code) u →
    u.Calls code (.function f) caller [.i32 ptr, .i32 len] depth v →
      ImportCall.Serves (runner u.module n depth) v b f callable caller ptr len
  /-- Until the export has returned, the buffers stay with the guest. -/
  unreturned : ∀ purpose function args s₀ a m, s.Enters name body purpose function args s₀ →
    purpose ≠ .releasing → entered function args s₀ a m → Deeds.returned m.record = []
  exported : Deeds.returned (body.run (s.begun name)).2.record = []
  /-- Guest code that the function fails is ended with that failure, and given nothing. -/
  ended : ∀ left code (u m : Stage g H) e, u.Falls left code f e m →
    execute (left + 1) code u = (.error (.raised e), m)
  /-- Guest code that runs at some moment came there on a way of its own from where the host entered
  guest code, or is in the midst of a host function that has octets written. -/
  led : ∀ code u, s.InCall name body (.running code) u → ∃ purpose function args s₀ left,
    s.Enters name body purpose function args s₀ ∧
      Passes g.stepLimit (g.enter s₀.module 0 function args) s₀ (left + 1) code u
  /-- If it came there on a way of its own, the call fails with the function, before cleanup. -/
  answered : ∀ purpose depth left code u e m,
    s.Reaches name body purpose depth (left + 1) code u → purpose ≠ .releasing →
      u.Falls left code f e m → depth = 0 ∨ m.store.limit.denied = false →
        (t.run s).1 = surface name m.store.guestError (.error e)
  /-- So it does with a range beyond memory. -/
  beyond : ∀ purpose depth left code u caller ptr len nested v,
    s.Reaches name body purpose depth (left + 1) code u → purpose ≠ .releasing →
      u.Calls code (.function f) caller [.i32 ptr, .i32 len] nested v →
        v.memorySize b.memory < ptr.toNat + len.toNat →
          depth = 0 ∨ v.store.limit.denied = false →
            (t.run s).1 =
              .error (.outOfBounds ptr.toNat len.toNat (v.memorySize b.memory))
  /-- In cleanup, the deallocator fails with the function. -/
  kept : ∀ depth left code u e m, s.Reaches name body .releasing depth (left + 1) code u →
    u.Falls left code f e m → depth = 0 ∨ m.store.limit.denied = false →
      e ∈ Deeds.failures (t.run s).2.record
  /-- The call answers with the first failure, of what came before cleanup or else of the
  deallocator. -/
  first : ∀ r s₁, body.run (s.begun name) = (r, s₁) →
    (t.run s).1 = answer (surface name s₁.store.guestError r)
      (Deeds.failures (t.run s).2.record).head?
  /-- In the midst of a host function that has octets written, that function is told. -/
  told : ∀ (β : Type) (f' : HostFunction H) nested bytes
    (next : Except Failure Block → Program H β) depth left left' code code'
    (u u' s' m : Stage g H) e,
    u.Writes left code f' nested bytes next s' depth (left' + 1) code' u' →
      u'.Falls left' code' f e m → m.store.limit.denied = false →
        (Program.write bytes next).turn (runner u.module left nested) f'.name s' =
          some (next (.error e), m)

end Stage

/-! A guest of sixteen octets that does what its module says. -/
namespace Courier

inductive Act where
  | call (index : Nat) (args : List Value)
  | give (results : List Value)
  | trap

structure Orders where
  alloc : Nat → List Act
  dealloc : List Act
  run : List Act

def guest : Guest where
  Module := Orders
  State := Bytes
  Code := List Act
  load := fun _ => .error (.invalidBinary "orders have no binary form")
  imports := fun _ =>
    [⟨Name.defaultNamespace, "f", .function .bytes⟩, ⟨Name.defaultNamespace, "h", .function .bytes⟩,
      ⟨Name.serviceNamespace, Service.setError.name, .function Service.setError.signature⟩]
  exports := fun _ =>
    [⟨Name.memory, .memory 0 ⟨1, none⟩⟩, ⟨Name.alloc, .function 0 Opening.allocType⟩,
      ⟨Name.dealloc, .function 1 Opening.deallocType⟩, ⟨"run", .function 2 .bytes⟩]
  start := fun _ => ([110, 111, 1, 2, 3] ++ List.replicate 11 0, [])
  enter := fun m _ function args =>
    match function, args with
    | 0, [.i32 length] => m.alloc length.toNat
    | 1, _ => m.dealloc
    | _, _ => m.run
  step := fun _ code s =>
    match code with
    | [] => .finished [] s
    | .call index args :: rest => .call index args .guest 0 rest s
    | .give results :: _ => .finished results s
    | .trap :: _ => .trapped (.engine "unreachable") s
  resume := fun _ code => code
  answer := fun _ code => code
  sizes := fun s => [s.length]
  read := fun s _ address length => (s.drop address).take length
  write := fun s memory address bytes => if memory = 0 then patched s address bytes else s
  stepLimit := 100

theorem octets_zero (t : guest.State) : guest.octets t 0 = t := List.take_length

theorem octets_succ (t : guest.State) (memory : Nat) : guest.octets t (memory + 1) = [] := rfl

theorem guest_flat : guest.Flat where
  length_octets
    | t, 0 => by rw [octets_zero]; rfl
    | t, memory + 1 => rfl
  read_eq
    | t, 0, address, length, _ => by rw [octets_zero]; rfl
    | t, memory + 1, address, length, h => by
      have h : address + length ≤ 0 := h
      obtain ⟨rfl, rfl⟩ : address = 0 ∧ length = 0 := by omega
      rfl
  octets_write
    | t, 0, address, bytes, _ => by
      rw [octets_zero, octets_zero]
      rfl
    | t, memory + 1, address, bytes, h => by
      have h : address + bytes.length ≤ 0 := h
      obtain rfl : bytes = [] := List.length_eq_zero_iff.mp (by omega)
      rw [octets_succ, octets_succ, patched]
      simp
  octets_elsewhere
    | t, 0, other + 1, address, bytes, _ => rfl
    | t, 0, 0, address, bytes, hn => absurd rfl hn
    | t, memory + 1, other, address, bytes, _ => rfl

def answering : HostFunction Unit := .ofBytes "f" fun _ => .done [7, 8, 9]

def heedless : HostFunction Unit :=
  .ofBytes "h" fun _ => .write [1, 2, 3, 4, 5, 6, 7] fun _ => .done []

def made (m : Orders) : Instance guest Unit where
  module := m
  providers := #[.function answering, .function heedless, .service .setError]
  guest := [110, 111, 1, 2, 3] ++ List.replicate 11 0
  store := { Store.ofSettings {} with bridge := some ⟨0, 0, 1⟩ }

theorem opened (m : Orders) : (⟨m, {}, some (made m)⟩ : Plugin guest Unit).Opened :=
  .opened ⟨[answering, heedless]⟩ m {} Script.world _ (made m) rfl

theorem accepts (m : Orders) :
    Stage.Accepts ⟨made m, Script.world, []⟩ "run" (Stage.call "run" [1])
      (Stage.exchange ⟨0, 0, 1⟩ "run" 2 [1]) :=
  .octets 2 ⟨0, 0, 1⟩ [1] rfl rfl rfl

def prompt : Orders := ⟨fun _ => [.give [.i32 8]], [], [.call 0 [.i32 2, .i32 3], .give [.i64 0]]⟩

def untidy : Orders := ⟨fun _ => [.give [.i32 8]], [.call 0 [.i32 15, .i32 2]], [.trap]⟩

/-- The allocator, when it is asked for seven octets, sends some from beyond memory; only a function
that does not mind asks for seven. -/
def shielded : Orders where
  alloc length := if length = 7 then [.call 0 [.i32 15, .i32 2]] else [.give [.i32 8]]
  dealloc := []
  run := [.call 1 [.i32 0, .i32 0], .give [.i64 0]]

/-- The export leaves a message before it sends, and the allocator traps when it is asked for three
octets. -/
def complaining : Orders where
  alloc length := if length = 3 then [.trap] else [.give [.i32 8]]
  dealloc := []
  run := [.call 2 [.i32 0, .i32 2], .call 0 [.i32 0, .i32 0]]

def entering (m : Orders) : Stage guest Unit :=
  (((Stage.begun ⟨made m, Script.world, []⟩ "run").note (.asked 1)).placed ⟨0, 0, 1⟩ ⟨8, 1⟩
    [1]).entering 2 [.i32 8, .i32 1]

def asked : Stage guest Unit := (ImportCall.invoked heedless (entering shielded)).note (.asked 7)

def left : Stage guest Unit :=
  (ImportCall.provider (Stage.runner complaining 99 0) (.service .setError) .guest
    [.i32 0, .i32 2] (entering complaining)).2

end Courier

namespace Plugin
open Stage

/-- What goes between guest code and a host function on octets, for whatever guest, range and
function, in an accepted call of a plugin with an allocator. The function gets the octets of the
range as they are when it is called. For what it returns the allocator is asked once, if there is
anything, and the guest is given a buffer that holds it, which stays with the guest until the export
has returned. A range beyond memory, or an allocator that fails, ends the guest code that waits.
Before cleanup that fails the call too, unless a host function has octets written and is told; in
cleanup it fails the deallocator. -/
theorem octets_handed_over (hg : g.Flat) {p : Plugin g H} (hp : p.Opened) {i : Instance g H}
    (hi : p.live = some i) {b : Bridge} (hb : i.store.bridge = some b) {w : World H}
    {name : String} {t body : Task g H α} (ha : Accepts ⟨i, w, []⟩ name t body)
    {f : HostFunction H} {callable : Bytes → Program H Bytes} (hf : f.OnOctets callable) :
    HandsOver ⟨i, w, []⟩ name t body b f callable := by
  have hr := hp.ready i hi
  have hx : Opening.bridge? g i.module = .ok (some b) := by
    rw [hr.module, hr.bridge, hb]
  exact {
    memory := (Opening.exchanges_of_bridge hx).memory?_eq
    allocator := (Opening.exchanges_of_bridge hx).alloc
    serves := by
      intro code u caller ptr len depth v n hu hc
      obtain ⟨purpose, function, args, s₀, he, hd⟩ := (inCall_iff_enters ..).mp hu
      exact he.serves hg ha (entered_fixed hd) hb hf hc n
    unreturned := fun _ _ _ _ _ _ he hn hd => he.unreturned hn rfl hd
    exported := ha.unreturned rfl
    ended := fun _ _ _ _ _ hf => hf.execute_eq
    led := by
      intro code u hu
      obtain ⟨purpose, function, args, s₀, he, hd⟩ := (inCall_iff_enters ..).mp hu
      obtain ⟨left, hl⟩ := During.passes hd
      exact ⟨purpose, function, args, s₀, left, he, hl⟩
    answered := fun _ _ _ _ _ _ _ hu hn hf hd => hu.answer_eq ha hn hf.execute_eq hd
    beyond := by
      intro purpose depth left code u caller ptr len nested v hu hn hc hl hd
      have hs : ImportCall.Serves (runner u.module left nested) v b f callable caller ptr len := by
        obtain ⟨enters, -, comes⟩ := hu
        exact enters.serves hg ha comes.fixed_eq hb hf hc left
      have hf := hs.outside _ (ImportCall.window_beyond hg v hl)
      rw [hu.answer_eq ha hn (hc.execute_eq hf) hd]
      exact (surface_error_eq_iff ..).mpr nofun
    kept := by
      intro depth left code u e m hu hf hd
      obtain ⟨e', hs, hk⟩ := hu.kept ha hf.execute_eq
      obtain rfl := hs.eq_of_granted hd
      exact hk
    first := fun _ _ hb => ha.answer_eq rfl hb
    told := by
      intro β f' nested bytes next depth left left' code code' u u' s' m e hw hf hd
      obtain ⟨e', ht, hs⟩ := hw.turn_eq hf.execute_eq
      obtain rfl := hs.eq_of_granted (.inr hd)
      exact ht }

open Courier in
theorem prompt_courier_handed_over :
    ∃ block m, ImportCall.provider (runner prompt 99 0) (.function answering) .guest
        [.i32 2, .i32 3] (entering prompt) = (.ok [.i64 block.pack], m) ∧
      window (guest.octets m.guest 0) block.ptr.toNat 3 = .ok [7, 8, 9] ∧ block ∈ m.tracked := by
  have hf : answering.OnOctets fun _ => .done [7, 8, 9] := ⟨rfl, rfl⟩
  have hin : Stage.InCall ⟨made prompt, Script.world, []⟩ "run" (exchange ⟨0, 0, 1⟩ "run" 2 [1])
      (.running prompt.run) (entering prompt) :=
    .exporting ⟨0, 0, 1⟩ 2 [1] ⟨8, 1⟩ _ _ _ rfl rfl (.inl ⟨rfl, rfl⟩)
  have hc : Calls (g := guest) prompt.run (entering prompt) (.function answering) .guest
      [.i32 2, .i32 3] 0 (entering prompt) :=
    .call 0 0 _ _ [.give [.i64 0]] _ _ rfl rfl
  obtain ⟨r, m, hp, hd⟩ := ((octets_handed_over guest_flat (opened prompt) rfl rfl
    (accepts prompt) hf).serves _ _ _ _ _ _ _ 99 hin hc).returned [1, 2, 3] [7, 8, 9] _ rfl rfl
  have hr : r = .ok [.i64 (Block.pack ⟨8, 3⟩)] := by
    have hx : (ImportCall.provider (runner prompt 99 0) (.function answering) .guest
        [.i32 2, .i32 3] (entering prompt)).1 = .ok [.i64 (Block.pack ⟨8, 3⟩)] := rfl
    exact (congrArg Prod.fst hp).symm.trans hx
  cases hd with
  | nothing empty => cases empty
  | placed block s _ nonempty exact ended placed holds tracked =>
    exact ⟨block, m, hp, holds, tracked⟩
  | long => cases hr
  | declined => cases hr

open Courier in
/-- Three calls in which a function on octets fails guest code and the call does not answer with
that failure: the call had failed before cleanup, a host function that had octets written did not
mind, or the guest had left a message, which stands in for a trap. -/
theorem failed_couriers_answer_otherwise :
    (∃ u, InCall ⟨made untidy, Script.world, []⟩ "run" (exchange ⟨0, 0, 1⟩ "run" 2 [1])
        (.running untidy.dealloc) u ∧
      u.Calls untidy.dealloc (.function answering) .guest [.i32 15, .i32 2] 0 u ∧
      u.memorySize 0 = 16 ∧
      ((call "run" [1]).run (⟨untidy, {}, some (made untidy)⟩, Script.world)).1 =
        .error (.trap "run" (.engine "unreachable"))) ∧
    (∃ u, InCall ⟨made shielded, Script.world, []⟩ "run" (exchange ⟨0, 0, 1⟩ "run" 2 [1])
        (.running (shielded.alloc 7)) u ∧
      u.Calls (shielded.alloc 7) (.function answering) .guest [.i32 15, .i32 2] 0 u ∧
      u.memorySize 0 = 16 ∧
      ((call "run" [1]).run (⟨shielded, {}, some (made shielded)⟩, Script.world)).1.toOption =
        some []) ∧
    ∃ u, InCall ⟨made complaining, Script.world, []⟩ "run" (exchange ⟨0, 0, 1⟩ "run" 2 [1])
        (.running [.call 0 [.i32 0, .i32 0]]) u ∧
      u.Calls [.call 0 [.i32 0, .i32 0]] (.function answering) .guest [.i32 0, .i32 0] 0 u ∧
      (ImportCall.provider (runner complaining 98 0) (.function answering) .guest
          [.i32 0, .i32 0] u).1 = .error (.raised (.trap Name.alloc (.engine "unreachable"))) ∧
      ((call "run" [1]).run (⟨complaining, {}, some (made complaining)⟩, Script.world)).1 =
        .error (.guest "run" "no") := by
  refine ⟨⟨_, .releasing _ _ _ ⟨0, 0, 1⟩ _ _ rfl rfl (.inl ⟨rfl, .inl ⟨rfl, rfl⟩⟩),
    .call 0 0 _ _ [] _ _ rfl rfl, rfl, rfl⟩, ⟨asked, ?_, ?_, ?_, ?_⟩, ⟨left, ?_, ?_, ?_, ?_⟩⟩
  · exact .exporting ⟨0, 0, 1⟩ 2 [1] ⟨8, 1⟩ _ _ _ rfl rfl
      (.inr (.inl (.octets heedless _ ⟨0, 0, 1⟩ 0 0 [] _ _ rfl rfl rfl rfl
        (.inr (.inl ⟨by decide, by decide, .inl ⟨rfl, rfl⟩⟩)))))
  · exact .call 0 0 _ _ [] _ _ rfl rfl
  · rfl
  · decide +kernel
  · exact .exporting ⟨0, 0, 1⟩ 2 [1] ⟨8, 1⟩ _ _ _ rfl rfl (.inr (.inr (.inl ⟨rfl, rfl⟩)))
  · exact .call 0 0 _ _ [] _ _ rfl rfl
  · rfl
  · rfl

end Plugin

end PluginHost
