import PluginHost.Plugin
/-!
How steps of the host run from a given stage: what comes out and which stage is left behind, without
monads. The equation of a buffer put in place shows that the octets always fit once the allocator's
answer was accepted, so no buffer is ever offered back for want of room.
-/
namespace PluginHost
variable {g : Guest} {H α β : Type}

namespace Block

theorem unpack_pack (b : Block) : unpack b.pack = b := by
  obtain ⟨ptr, len⟩ := b
  unfold unpack pack
  congr 1
  · apply UInt32.toBitVec_inj.mp
    ext i hi
    simp
    grind
  · apply UInt32.toBitVec_inj.mp
    simp

end Block

namespace Task

@[simp] theorem run_pure (a : α) (s : Stage g H) : (pure a : Task g H α).run s = (.ok a, s) := rfl

@[simp] theorem run_throw (e : Failure) (s : Stage g H) :
    (throw e : Task g H α).run s = (.error e, s) := rfl

@[simp] theorem run_get (s : Stage g H) : (get : Task g H _).run s = (.ok s, s) := rfl

@[simp] theorem run_modify (f : Stage g H → Stage g H) (s : Stage g H) :
    (modify f : Task g H _).run s = (.ok (), f s) := rfl

@[simp] theorem run_lift (t : Action g H α) (s : Stage g H) :
    (liftM t : Task g H α).run s = (.ok (t s).1, (t s).2) := rfl

@[simp] theorem run_ofExcept (r : Except Failure α) (s : Stage g H) :
    (MonadExcept.ofExcept r : Task g H α).run s = (r, s) := by
  cases r <;> rfl

theorem run_bind (t : Task g H α) (f : α → Task g H β) (s : Stage g H) :
    (t >>= f).run s = match t.run s with
      | (.ok a, s') => (f a).run s'
      | (.error e, s') => (.error e, s') := by
  change (ExceptT.bindCont f (t.run s).1) (t.run s).2 = _
  obtain ⟨r, s'⟩ := t.run s
  cases r <;> rfl

theorem run_bind_ok {t : Task g H α} {s s' : Stage g H} {a : α} (h : t.run s = (.ok a, s'))
    (f : α → Task g H β) : (t >>= f).run s = (f a).run s' := by
  rw [run_bind, h]

theorem run_bind_error {t : Task g H α} {s s' : Stage g H} {e : Failure}
    (h : t.run s = (.error e, s')) (f : α → Task g H β) :
    (t >>= f).run s = (.error e, s') := by
  rw [run_bind, h]

@[simp] theorem run_outcome (t : Task g H α) (s : Stage g H) :
    t.outcome.run s = (.ok (t.run s).1, (t.run s).2) := rfl

end Task

namespace Action

theorem run_bind (t : Action g H α) (f : α → Action g H β) (s : Stage g H) :
    (t >>= f) s = f (t s).1 (t s).2 := rfl

@[simp] theorem run_pure (a : α) (s : Stage g H) : (pure a : Action g H α) s = (a, s) := rfl

@[simp] theorem run_get (s : Stage g H) : (get : Action g H _) s = (s, s) := rfl

@[simp] theorem run_modify (f : Stage g H → Stage g H) (s : Stage g H) :
    (modify f : Action g H _) s = ((), f s) := rfl

end Action

namespace Stage

def placed (s : Stage g H) (b : Bridge) (block : Block) (bytes : Bytes) : Stage g H :=
  ((s.note (.given block)).write b.memory block.ptr bytes).updateStore fun t => t.track block

theorem toNat_stop (ptr len : UInt32) :
    (ptr.toUInt64 + len.toUInt64).toNat = ptr.toNat + len.toNat := by
  have hp := ptr.toNat_lt
  have hl := len.toNat_lt
  rw [UInt64.toNat_add, UInt32.toNat_toUInt64, UInt32.toNat_toUInt64, Nat.mod_eq_of_lt (by omega)]

theorem bounds_eq (s : Stage g H) (memory : Nat) (ptr len : UInt32) :
    s.bounds memory ptr len =
      if ptr.toNat + len.toNat ≤ s.memorySize memory then .ok ()
      else .error (.outOfBounds ptr.toNat len.toNat (s.memorySize memory)) := by
  simp only [bounds, toNat_stop]

theorem read_eq (s : Stage g H) (memory : Nat) (ptr len : UInt32) :
    s.read memory ptr len =
      if ptr.toNat + len.toNat ≤ s.memorySize memory then
        .ok (g.read s.guest memory ptr.toNat len.toNat)
      else .error (.outOfBounds ptr.toNat len.toNat (s.memorySize memory)) := by
  unfold Stage.read
  rw [bounds_eq]
  split <;> rfl

/-- A range that begins with a 32-bit word and is as long as another one never runs backwards, so it
is only looked at whether memory goes so far. -/
theorem slice?_eq (s : Stage g H) (memory : Nat) (ptr len : UInt32) :
    s.slice? memory ptr.toUInt64 (ptr.toUInt64 + len.toUInt64) =
      if ptr.toNat + len.toNat ≤ s.memorySize memory then
        some (g.read s.guest memory ptr.toNat len.toNat)
      else none := by
  have hs : ptr.toUInt64 ≤ ptr.toUInt64 + len.toUInt64 := by
    rw [UInt64.le_iff_toNat_le, toNat_stop, UInt32.toNat_toUInt64]
    exact Nat.le_add_right ..
  simp only [slice?, hs, true_and, toNat_stop, UInt32.toNat_toUInt64, Nat.add_sub_cancel_left]

end Stage

namespace Buffer

theorem length_toNat {n : Nat} (h : n ≤ maxLength) : (UInt32.ofNat n).toNat = n := by
  have hm : maxLength < 2 ^ 32 := by decide
  rw [UInt32.toNat_ofNat', Nat.mod_eq_of_lt (by omega)]

def accepted (s : Stage g H) (b : Bridge) (length : Nat) (r : Ending) : Except Failure Block :=
  match address r with
  | .error h =>
    .error (if s.store.limit.denied then .outOfMemory length else s.store.classify Name.alloc h)
  | .ok ptr =>
    if ptr = 0 then .error (.outOfMemory length)
    else (s.bounds b.memory ptr (UInt32.ofNat length)).map fun _ => ⟨ptr, UInt32.ofNat length⟩

theorem address_ok_iff (r : Ending) (ptr : UInt32) :
    address r = .ok ptr ↔ r = .ok [.i32 ptr] := by
  unfold address
  split <;> simp_all

theorem accepted_ok_iff (s : Stage g H) (b : Bridge) (length : Nat) (r : Ending) (block : Block) :
    accepted s b length r = .ok block ↔
      r = .ok [.i32 block.ptr] ∧ block.len = UInt32.ofNat length ∧ block.ptr ≠ 0 ∧
        block.ptr.toNat + block.len.toNat ≤ s.memorySize b.memory := by
  obtain ⟨ptr, len⟩ := block
  unfold accepted
  cases h : address r with
  | error e =>
    have hr : r ≠ .ok [.i32 ptr] := fun hr => by
      rw [(address_ok_iff r ptr).mpr hr] at h
      cases h
    simp [hr]
  | ok p =>
    obtain rfl := (address_ok_iff r p).mp h
    by_cases hp : p = 0
    · simp only [hp, if_true]
      grind
    · by_cases hb : p.toNat + (UInt32.ofNat length).toNat ≤ s.memorySize b.memory
      · simp only [hp, if_false, Stage.bounds_eq, hb, if_true, Except.map]
        grind
      · simp only [hp, if_false, Stage.bounds_eq, hb, Except.map]
        grind

inductive Declines (s : Stage g H) (b : Bridge) (length : Nat) : Ending → Failure → Prop
  | null : Declines s b length (.ok [.i32 0]) (.outOfMemory length)
  | outside (ptr : UInt32) (beyond : s.memorySize b.memory < ptr.toNat + length) :
      Declines s b length (.ok [.i32 ptr])
        (.outOfBounds ptr.toNat length (s.memorySize b.memory))
  | refused (r : Ending) (failed : ∀ ptr, r ≠ .ok [.i32 ptr])
      (denied : s.store.limit.denied = true) : Declines s b length r (.outOfMemory length)
  | failed (h : Halt) (granted : s.store.limit.denied = false) :
      Declines s b length (.error h) (s.store.classify Name.alloc h)
  | odd (results : List Value) (odd : ∀ ptr, results ≠ [.i32 ptr])
      (granted : s.store.limit.denied = false) :
      Declines s b length (.ok results) (s.store.classify Name.alloc oddResult)

theorem declines_of_accepted {s : Stage g H} {b : Bridge} {length : Nat} {r : Ending} {e : Failure}
    (hm : length ≤ maxLength) (h : accepted s b length r = .error e) :
    Declines s b length r e := by
  unfold accepted at h
  cases ha : address r with
  | ok ptr =>
    obtain rfl := (address_ok_iff r ptr).mp ha
    rw [ha] at h
    by_cases hp : ptr = 0
    · simp only [hp, if_true] at h
      obtain rfl := Except.error.inj h
      rw [hp]
      exact .null
    · by_cases hb : ptr.toNat + length ≤ s.memorySize b.memory
      · simp only [hp, if_false, Stage.bounds_eq, length_toNat hm, hb, if_true, Except.map] at h
        cases h
      · simp only [hp, if_false, Stage.bounds_eq, length_toNat hm, hb, Except.map] at h
        obtain rfl := Except.error.inj h
        exact .outside ptr (Nat.lt_of_not_le hb)
  | error stop =>
    have hn (ptr : UInt32) : r ≠ .ok [.i32 ptr] := by
      intro hr
      rw [(address_ok_iff r ptr).mpr hr] at ha
      cases ha
    rw [ha] at h
    obtain rfl := Except.error.inj h
    cases hd : s.store.limit.denied with
    | true => exact .refused r hn hd
    | false =>
      unfold address at ha
      split at ha
      · cases ha
      · obtain rfl := Except.error.inj ha
        exact .odd _ (fun ptr hr => hn ptr (by rw [hr])) hd
      · obtain rfl := Except.error.inj ha
        exact .failed _ hd

theorem run_allocate (run : Runner g H) (b : Bridge) {length : Nat} (h₀ : length ≠ 0)
    (hm : length ≤ maxLength) (s : Stage g H) :
    (allocate run b length).run s =
      let (r, s') := run b.alloc [.i32 (UInt32.ofNat length)]
        (s.note (.asked (UInt32.ofNat length)))
      match accepted s' b length r with
      | .ok block => (.ok block, s'.note (.given block))
      | .error e => (.error e, s') := by
  have hm' : ¬ maxLength < length := by omega
  unfold allocate
  simp only [h₀, hm', if_false, Task.run_bind, Task.run_modify, Task.run_lift]
  obtain ⟨r, s'⟩ := run b.alloc [.i32 (UInt32.ofNat length)]
    (s.note (.asked (UInt32.ofNat length)))
  unfold accepted
  dsimp only
  cases address r with
  | error h => simp only [Task.run_bind, Task.run_get, Task.run_throw]
  | ok ptr =>
    by_cases hp : ptr = 0
    · simp only [hp, if_true, Task.run_bind, Task.run_throw]
    · simp only [hp, if_false, Task.run_bind, Task.run_get, Task.run_ofExcept, Task.run_modify,
        Task.run_pure]
      cases s'.bounds b.memory ptr (UInt32.ofNat length) <;> rfl

theorem run_fill (b : Bridge) {bytes : Bytes} (h₀ : bytes ≠ []) (hm : bytes.length ≤ maxLength)
    {s : Stage g H} {ptr : UInt32}
    (hb : ptr.toNat + (UInt32.ofNat bytes.length).toNat ≤ s.memorySize b.memory) :
    (fill b ptr bytes).run s = (.ok (), s.write b.memory ptr bytes) := by
  have he : bytes.isEmpty = false := by simpa using h₀
  have hl : ¬ UInt32.size ≤ bytes.length := by
    have : maxLength < UInt32.size := by decide
    omega
  unfold fill
  simp only [he, Bool.false_eq_true, if_false, hl, Task.run_bind, Task.run_get,
    Stage.bounds_eq, hb, if_true, Task.run_ofExcept, Task.run_modify]

theorem run_placeForCall_nil (run : Runner g H) (b : Bridge) (s : Stage g H) :
    (placeForCall run b []).run s = (.ok Block.empty, s) := by
  have ha : (allocate run b 0).run s = (.ok Block.empty, s) := rfl
  unfold placeForCall place
  simp [Task.run_bind, ha, fill]
  rfl

theorem run_placeForCall_long (run : Runner g H) (b : Bridge) {bytes : Bytes}
    (hm : maxLength < bytes.length) (s : Stage g H) :
    (placeForCall run b bytes).run s = (.error (.outOfMemory bytes.length), s) := by
  have ha : (allocate run b bytes.length).run s = (.error (.outOfMemory bytes.length), s) := by
    have h₀ : bytes.length ≠ 0 := by omega
    unfold allocate
    simp only [h₀, hm, if_true, if_false, Task.run_bind, Task.run_throw]
  unfold placeForCall place
  simp only [Task.run_bind, ha]

/-- What placing octets comes to: the allocator is asked once, and an answer that the host accepts
is filled and handed to the call. The branch that offers the buffer back is never taken. -/
theorem run_placeForCall (run : Runner g H) (b : Bridge) {bytes : Bytes} (h₀ : bytes ≠ [])
    (hm : bytes.length ≤ maxLength) (s : Stage g H) :
    (placeForCall run b bytes).run s =
      let (r, s') := run b.alloc [.i32 (UInt32.ofNat bytes.length)]
        (s.note (.asked (UInt32.ofNat bytes.length)))
      match accepted s' b bytes.length r with
      | .ok block => (.ok block, s'.placed b block bytes)
      | .error e => (.error e, s') := by
  have hl : bytes.length ≠ 0 := by simpa using h₀
  have ha := run_allocate run b hl hm s
  rcases hr : run b.alloc [.i32 (UInt32.ofNat bytes.length)]
    (s.note (.asked (UInt32.ofNat bytes.length))) with ⟨r, s'⟩
  simp only [hr] at ha
  dsimp only
  unfold placeForCall place
  cases hc : accepted s' b bytes.length r with
  | error e =>
    simp only [hc] at ha
    simp only [Task.run_bind, ha]
  | ok block =>
    simp only [hc] at ha
    obtain ⟨-, hlen, -, hb⟩ := (accepted_ok_iff s' b bytes.length r block).mp hc
    rw [hlen] at hb
    have hf := run_fill b h₀ hm (s := s'.note (.given block)) hb
    simp only [Task.run_bind, ha, Task.run_outcome, hf, Task.run_pure, Task.run_modify]
    rfl

inductive Places (run : Runner g H) (b : Bridge) (bytes : Bytes) (s : Stage g H) :
    Except Failure Block → Stage g H → Prop
  | nothing (empty : bytes = []) : Places run b bytes s (.ok Block.empty) s
  | long (long : maxLength < bytes.length) :
      Places run b bytes s (.error (.outOfMemory bytes.length)) s
  | declined (r : Ending) (s' : Stage g H) (e : Failure) (nonempty : bytes ≠ [])
      (short : bytes.length ≤ maxLength)
      (ended : run b.alloc [.i32 (UInt32.ofNat bytes.length)]
        (s.note (.asked (UInt32.ofNat bytes.length))) = (r, s'))
      (declined : Declines s' b bytes.length r e) : Places run b bytes s (.error e) s'
  | placed (block : Block) (s' : Stage g H) (nonempty : bytes ≠ [])
      (ended : run b.alloc [.i32 block.len] (s.note (.asked block.len)) =
        (.ok [.i32 block.ptr], s'))
      (ptr : block.ptr ≠ 0) (len : block.len.toNat = bytes.length)
      (room : block.ptr.toNat + block.len.toNat ≤ s'.memorySize b.memory) :
      Places run b bytes s (.ok block) (s'.placed b block bytes)

theorem places_of_placeForCall {run : Runner g H} {b : Bridge} {bytes : Bytes} {s s' : Stage g H}
    {r : Except Failure Block} (h : (placeForCall run b bytes).run s = (r, s')) :
    Places run b bytes s r s' := by
  by_cases h₀ : bytes = []
  · rw [h₀, run_placeForCall_nil] at h
    obtain ⟨rfl, rfl⟩ := Prod.mk.inj h
    exact .nothing h₀
  · by_cases hm : bytes.length ≤ maxLength
    · rw [run_placeForCall run b h₀ hm] at h
      obtain ⟨ending, u, hr⟩ : ∃ ending u, run b.alloc [.i32 (UInt32.ofNat bytes.length)]
          (s.note (.asked (UInt32.ofNat bytes.length))) = (ending, u) := ⟨_, _, rfl⟩
      rw [hr] at h
      dsimp only at h
      cases ha : accepted u b bytes.length ending with
      | error e =>
        rw [ha] at h
        obtain ⟨rfl, rfl⟩ := Prod.mk.inj h
        exact .declined ending u e h₀ hm hr (declines_of_accepted hm ha)
      | ok block =>
        rw [ha] at h
        obtain ⟨rfl, rfl⟩ := Prod.mk.inj h
        obtain ⟨rfl, hlen, hp, hroom⟩ := (accepted_ok_iff u b bytes.length ending block).mp ha
        rw [← hlen] at hr
        exact .placed block u h₀ hr hp (by rw [hlen, length_toNat hm]) hroom
    · have hl : maxLength < bytes.length := Nat.lt_of_not_le hm
      rw [run_placeForCall_long run b hl] at h
      obtain ⟨rfl, rfl⟩ := Prod.mk.inj h
      exact .long hl

section Answered
variable {run : Runner g H} {b : Bridge} {bytes : Bytes} {s u : Stage g H}

theorem placeForCall_accepted (h₀ : bytes ≠ []) (hm : bytes.length ≤ maxLength) {ptr : UInt32}
    (ended : run b.alloc [.i32 (UInt32.ofNat bytes.length)]
      (s.note (.asked (UInt32.ofNat bytes.length))) = (.ok [.i32 ptr], u))
    (nonzero : ptr ≠ 0) (room : ptr.toNat + bytes.length ≤ u.memorySize b.memory) :
    (placeForCall run b bytes).run s = (.ok ⟨ptr, UInt32.ofNat bytes.length⟩,
      u.placed b ⟨ptr, UInt32.ofNat bytes.length⟩ bytes) := by
  have ha : accepted u b bytes.length (.ok [.i32 ptr]) =
      .ok ⟨ptr, UInt32.ofNat bytes.length⟩ := by
    rw [accepted_ok_iff, length_toNat hm]
    exact ⟨rfl, rfl, nonzero, room⟩
  rw [run_placeForCall run b h₀ hm, ended]
  dsimp only
  rw [ha]

theorem placeForCall_declined (h₀ : bytes ≠ []) (hm : bytes.length ≤ maxLength) {r : Ending}
    (ended : run b.alloc [.i32 (UInt32.ofNat bytes.length)]
      (s.note (.asked (UInt32.ofNat bytes.length))) = (r, u))
    (unfit : ∀ ptr, r = .ok [.i32 ptr] → ptr ≠ 0 →
      u.memorySize b.memory < ptr.toNat + bytes.length) :
    ∃ e, Declines u b bytes.length r e ∧ (placeForCall run b bytes).run s = (.error e, u) := by
  rw [run_placeForCall run b h₀ hm, ended]
  dsimp only
  cases ha : accepted u b bytes.length r with
  | error e => exact ⟨e, declines_of_accepted hm ha, rfl⟩
  | ok block =>
    obtain ⟨hr, hlen, hp, hroom⟩ := (accepted_ok_iff u b bytes.length r block).mp ha
    rw [hlen, length_toNat hm] at hroom
    exact absurd hroom (Nat.not_le_of_lt (unfit _ hr hp))

end Answered

theorem run_release (run : Runner g H) (b : Bridge) {block : Block} (he : block.isEmpty = false)
    (s : Stage g H) :
    (release run b block).run s =
      let (r, s') := run b.dealloc [.i32 block.ptr, .i32 block.len] (s.note (.returned block))
      match r with
      | .ok _ => (.ok (), s')
      | .error h =>
        let e := s'.store.classify Name.dealloc h
        (.error e, s'.note (.kept block e)) := by
  unfold release
  simp only [he, Bool.false_eq_true, if_false, Task.run_bind, Task.run_modify, Task.run_lift]
  obtain ⟨r, s'⟩ := run b.dealloc [.i32 block.ptr, .i32 block.len] (s.note (.returned block))
  cases r with
  | ok vs => rfl
  | error h => simp only [Task.run_bind, Task.run_get, Task.run_modify, Task.run_throw]

end Buffer

namespace Program

theorem exec_read (run : Runner g H) (function : String) (ptr len : UInt32)
    (next : Except Failure Bytes → Program H α) (s : Stage g H) :
    (Program.read ptr len next).exec run function s =
      match s.store.bridge with
      | some b => (next (s.read b.memory ptr len)).exec run function s
      | none => (next (.error (noBridge function))).exec run function s := by
  cases hb : s.store.bridge <;> simp only [Program.exec, Action.run_bind, Action.run_get, hb]

theorem exec_write (run : Runner g H) (function : String) (bytes : Bytes)
    (next : Except Failure Block → Program H α) (s : Stage g H) :
    (Program.write bytes next).exec run function s =
      match s.store.bridge with
      | some b =>
        let (r, s') := (Buffer.placeForCall run b bytes).run s
        (next r).exec run function s'
      | none => (next (.error (noBridge function))).exec run function s := by
  cases hb : s.store.bridge with
  | none => simp only [Program.exec, Action.run_bind, Action.run_get, hb]
  | some b =>
    simp only [Program.exec, Action.run_bind, Action.run_get, hb]
    rfl

end Program

namespace ImportCall
variable (run : Runner g H)

theorem run_guarded (function : String) (p : Program H α)
    (s : Stage g H) :
    (guarded run function p).run s =
      match p.exec run function s with
      | (.ok a, s') => (.ok a, s')
      | (.error (.error e), s') => (.error (e.toFailure function), s')
      | (.error (.panic payload), s') =>
        (.error (.hostFunction function ("panicked: " ++ payload.message)),
          s'.log (.functionPanicked function payload.message)) := by
  have he : (ExceptT.mk (Except.ok <$> p.exec run function) : Task g H _).run s =
      (.ok (p.exec run function s).1, (p.exec run function s).2) := rfl
  unfold guarded
  rw [Task.run_bind, he]
  rcases p.exec run function s with ⟨(e | payload) | a, s'⟩
  · rfl
  · simp only [Task.run_bind, Task.run_modify, Task.run_throw]
  · rfl

theorem run_serve (f : HostFunction H) (body : Bytes → Program H Bytes) (input : Bytes)
    (s : Stage g H) :
    (serve run f body input).run s =
      match (guarded run f.name (body input)).run s with
      | (.ok output, s') => (.ok output, s'.note (.served f.ns f.name input output))
      | (.error e, s') => (.error e, s'.note (.declined f.ns f.name input e)) := by
  unfold serve
  rw [Task.run_bind, Task.run_outcome]
  rcases (guarded run f.name (body input)).run s with ⟨e | output, s'⟩ <;> rfl

def invoked (f : HostFunction H) (s : Stage g H) : Stage g H :=
  s.log (.functionInvoked f.qualifiedName s.store.currentFunction)

theorem run_function_outside (f : HostFunction H) (args : List Value) {s : Stage g H}
    (hc : s.store.call = none) :
    (function run f args).run s = (.error (outsideCall f.name), s) := by
  unfold function
  simp only [Task.run_bind, Task.run_get, hc, Option.isNone_none, if_true, Task.run_throw]

theorem run_function_raw (f : HostFunction H) (args : List Value) {s : Stage g H}
    (hc : s.store.call.isSome) {body : List Value → Program H (List Value)}
    (hf : f.callable = .raw body) :
    (function run f args).run s = (guarded run f.name (body args)).run (invoked f s) := by
  have hn : s.store.call.isNone = false := by rw [← Option.not_isSome, hc]; rfl
  unfold function
  simp only [Task.run_bind, Task.run_get, hn, Bool.false_eq_true, if_false, Task.run_modify, hf]
  rfl

theorem run_function_bytes (f : HostFunction H) {s : Stage g H}
    (hc : s.store.call.isSome) {body : Bytes → Program H Bytes} (hf : f.callable = .bytes body)
    {b : Bridge} (hb : s.store.bridge = some b) (ptr len : UInt32) :
    (function run f [.i32 ptr, .i32 len]).run s =
      (do
        let input ← MonadExcept.ofExcept (s.read b.memory ptr len)
        let output ← serve run f body input
        let block ← Buffer.placeForCall run b output
        return [Value.i64 block.pack] : Task g H _).run (invoked f s) := by
  have hn : s.store.call.isNone = false := by rw [← Option.not_isSome, hc]; rfl
  unfold function
  simp only [Task.run_bind, Task.run_get, hn, Bool.false_eq_true, if_false, Task.run_modify, hf, hb]
  rfl

/-- A function on octets that can read its input: it runs, and what it returns is put in place. -/
theorem run_function_read (f : HostFunction H) {s : Stage g H} (hc : s.store.call.isSome)
    {body : Bytes → Program H Bytes} (hf : f.callable = .bytes body) {b : Bridge}
    (hb : s.store.bridge = some b) {ptr len : UInt32} {input : Bytes}
    (hr : s.read b.memory ptr len = .ok input) :
    (function run f [.i32 ptr, .i32 len]).run s =
      match (serve run f body input).run (invoked f s) with
      | (.error e, s') => (.error e, s')
      | (.ok output, s') =>
        match (Buffer.placeForCall run b output).run s' with
        | (.error e, s'') => (.error e, s'')
        | (.ok block, s'') => (.ok [.i64 block.pack], s'') := by
  rw [run_function_bytes run f hc hf hb, hr, Task.run_bind, Task.run_ofExcept]
  dsimp only
  rw [Task.run_bind]
  rcases (serve run f body input).run (invoked f s) with ⟨e | output, s'⟩
  · rfl
  · dsimp only
    rw [Task.run_bind]
    rcases (Buffer.placeForCall run b output).run s' with ⟨e | block, s''⟩ <;> rfl

def unfit (f : HostFunction H) : Option Bridge → Failure
  | none => .hostFunction f.name ("guest does not export `" ++ Name.memory ++ "`, `" ++
      Name.alloc ++ "` and `" ++ Name.dealloc ++ "`")
  | some _ => .hostFunction f.name "expected (ptr: i32, len: i32) arguments"

theorem run_function_unfit (f : HostFunction H) (args : List Value) {s : Stage g H}
    (hc : s.store.call.isSome) {body : Bytes → Program H Bytes} (hf : f.callable = .bytes body)
    (h : ¬ ∃ b ptr len, s.store.bridge = some b ∧ args = [.i32 ptr, .i32 len]) :
    (function run f args).run s = (.error (unfit f s.store.bridge), invoked f s) := by
  have hn : s.store.call.isNone = false := by rw [← Option.not_isSome, hc]; rfl
  unfold function
  simp only [Task.run_bind, Task.run_get, hn, Bool.false_eq_true, if_false, Task.run_modify, hf]
  split
  · rename_i hb
    rw [hb]
    rfl
  · rename_i b ptr len hb
    exact absurd ⟨b, ptr, len, hb, rfl⟩ h
  · rename_i b hb _
    rw [hb]
    rfl

omit run in
theorem readFor_eq (sv : Service) (caller : Caller) (ptr len : UInt32) (s : Stage g H) :
    (readFor sv caller ptr len).run s =
      match memory? caller s with
      | some memory => (s.read memory ptr len, s)
      | none =>
        (.error (.hostFunction sv.failureName ("guest does not export `" ++ Name.memory ++ "`")),
          s) := by
  unfold readFor
  rw [Task.run_bind_ok (Task.run_get s)]
  cases memory? caller s with
  | none => rfl
  | some memory =>
    dsimp only
    rw [Stage.slice?_eq, Stage.read_eq]
    by_cases h : ptr.toNat + len.toNat ≤ s.memorySize memory <;>
      simp [h, UInt32.toNat_toUInt64]

omit run in
theorem run_raising (signature : Signature) (caller : Caller) (t : Task g H (List Value))
    (s : Stage g H) :
    raising signature caller t s =
      match t.run s with
      | (.ok results, s') =>
        (if fits signature.results results then .ok results
          else .error (.trapped
            (caller.trap "function attempted to return an incompatible value")), s')
      | (.error e, s') => (.error (.raised e), s') := by
  unfold raising
  rw [Action.run_bind]
  rcases t.run s with ⟨e | results, s'⟩
  · rfl
  · by_cases hf : fits signature.results results = true <;> simp [hf]

omit run in
theorem run_system (c : SystemCall) (caller : Caller) (args : List Value) (s : Stage g H) :
    system c caller args s =
      match memory? caller s with
      | none => (.error (.trapped (caller.trap "missing required memory export")), s)
      | some memory =>
        let (answer, view) := c.run s.store.system (s.store.clock * 1000000) (args.map number)
          ⟨s.memorySize memory, g.read s.guest memory, []⟩
        (match answer with
          | .ok errno => .ok (if c.signature.results.isEmpty then [] else [.i32 errno])
          | .error cause => .error (.trapped cause),
          { s with
            guest := view.written.foldr (fun (ptr, bytes) t => g.write t memory ptr bytes)
              s.guest }) := by
  unfold system
  rw [Action.run_bind, Action.run_get]
  cases memory? caller s with
  | none => rfl
  | some memory =>
    dsimp only
    rcases c.run s.store.system (s.store.clock * 1000000) (args.map number)
      ⟨s.memorySize memory, g.read s.guest memory, []⟩ with ⟨e | errno, view⟩ <;> rfl

end ImportCall

end PluginHost
