import PluginHost.Proofs.Course
import PluginHost.Proofs.Success
/-!
What the host stores in guest memory, on whichever way octets come there: the input of a call, the
result of a function on octets, what a host function writes, the value of a variable. Each time the
allocator has just returned a buffer for them, they go there, and nowhere else anything changes.
-/
namespace PluginHost
variable {g : Guest} {H α : Type}

namespace Stage

/-- The host puts octets into a buffer: the module's allocator, asked for so many, has just returned
its address, and memory holds the octets there and all others as the allocator left them. -/
structure Marshals (u : Stage g H) (m : g.Module) (b : Bridge) (block : Block) (bytes : Bytes) :
    Prop where
  allocator : g.function? m Name.alloc = some (b.alloc, Opening.allocType)
  memory : g.memory? m = some b.memory
  allocated : ∃ (depth : Nat) (ms : List (Mark g H)) (v : Stage g H),
    Course (.guest (g.enter m depth b.alloc [.i32 block.len]) (some (.ok [.i32 block.ptr]))) ms
      (v.note (.asked block.len)) u
  ptr : block.ptr ≠ 0
  len : block.len.toNat = bytes.length
  room : block.ptr.toNat + bytes.length ≤ (g.octets u.guest b.memory).length
  octets : ∀ i, (g.octets (u.placed b block bytes).guest b.memory)[i]? =
    if block.ptr.toNat ≤ i ∧ i < block.ptr.toNat + bytes.length then
      bytes[i - block.ptr.toNat]?
    else (g.octets u.guest b.memory)[i]?
  elsewhere : ∀ other, other ≠ b.memory →
    g.octets (u.placed b block bytes).guest other = g.octets u.guest other

theorem Stored.marshals (hg : g.Flat) {s u : Stage g H} {b : Bridge} {block : Block}
    {bytes : Bytes} (h : s.Stored u b block bytes)
    (hx : Opening.bridge? g s.module = .ok s.store.bridge) :
    u.Marshals s.module b block bytes := by
  rw [h.bridge] at hx
  have hroom : block.ptr.toNat + bytes.length ≤ g.size u.guest b.memory := by
    rw [← h.admits.len]
    exact h.admits.room
  have hlen := hg.length_octets u.guest b.memory
  exact {
    allocator := (Opening.exchanges_of_bridge hx).alloc
    memory := (Opening.exchanges_of_bridge hx).memory?_eq
    allocated := h.allocated
    ptr := h.admits.ptr
    len := h.admits.len
    room := by rwa [hlen]
    octets := by
      intro i
      change (g.octets (g.write u.guest b.memory block.ptr.toNat bytes) b.memory)[i]? = _
      rw [hg.octets_write _ _ _ _ hroom, getElem?_patched (by rwa [hlen])]
    elsewhere := fun other hn => hg.octets_elsewhere u.guest b.memory other _ bytes hn }

end Stage

namespace Buffer
open Stage

/-- Octets always fit into the buffer that was allocated for them, so the buffer is never given back
for want of room. -/
theorem fill_of_allocate {run : Runner g H} {b : Bridge} {bytes : Bytes} {s s' : Stage g H}
    {block : Block} (h : (allocate run b bytes.length).run s = (.ok block, s')) :
    ∃ s'', (fill b block.ptr bytes).run s' = (.ok (), s'') := by
  by_cases h₀ : bytes = []
  · rw [h₀]
    exact ⟨s', rfl⟩
  · by_cases hm : bytes.length ≤ maxLength
    · have hn : bytes.length ≠ 0 := fun hn => h₀ (List.length_eq_zero_iff.mp hn)
      rw [run_allocate run b hn hm] at h
      obtain ⟨r, u, hr⟩ : ∃ r u, run b.alloc [.i32 (UInt32.ofNat bytes.length)]
          (s.note (.asked (UInt32.ofNat bytes.length))) = (r, u) := ⟨_, _, rfl⟩
      rw [hr] at h
      dsimp only at h
      cases ha : accepted u b bytes.length r with
      | error e =>
        rw [ha] at h
        cases h
      | ok given =>
        rw [ha] at h
        obtain ⟨hb, hs⟩ := Prod.mk.inj h
        obtain rfl := Except.ok.inj hb
        obtain ⟨-, hlen, -, hroom⟩ := (accepted_ok_iff u b bytes.length r given).mp ha
        rw [hlen] at hroom
        rw [← hs]
        exact ⟨_, run_fill b h₀ hm hroom⟩
    · have hn : ¬ bytes.length = 0 := fun hn => h₀ (List.length_eq_zero_iff.mp hn)
      have hl : maxLength < bytes.length := Nat.lt_of_not_le hm
      unfold allocate at h
      simp only [hn, hl, if_false, if_true] at h
      cases h

theorem placed_of_placeForCall {run : Runner g H} {b : Bridge} {bytes : Bytes} {s s' : Stage g H}
    {block : Block} (h : (placeForCall run b bytes).run s = (.ok block, s')) (h₀ : bytes ≠ []) :
    ∃ u, run b.alloc [.i32 block.len] (s.note (.asked block.len)) = (.ok [.i32 block.ptr], u) ∧
      s' = u.placed b block bytes := by
  cases places_of_placeForCall h with
  | nothing empty => exact absurd empty h₀
  | placed block u nonempty ended => exact ⟨u, ended, rfl⟩

/-- Octets for which the allocator has returned a buffer are stored there, and nothing else is. -/
theorem course_of_placeForCall {role : Role} {b : Bridge} {bytes : Bytes} {s s' : Stage g H}
    {block : Block} (hb : s.store.bridge = some b) (hc : s.store.call.isSome)
    (h : (placeForCall enter b bytes).run s = (.ok block, s')) (h₀ : bytes ≠ []) :
    ∃ ms u, Course (.host role) (ms ++ [.stored u b block bytes]) s s' := by
  cases places_of_placeForCall h with
  | nothing empty => exact absurd empty h₀
  | placed block u nonempty ended ptr len room =>
    have hf : u.fixed = s.fixed := by
      have ht := enter_ticks b.alloc [.i32 block.len] (s.note (.asked block.len))
      rw [ended] at ht
      exact ht.fixed_eq
    obtain ⟨depth, ms, hi⟩ := (enter_coursing s.fixed).course b.alloc [.i32 block.len]
      (s.note (.asked block.len)) rfl
    rw [ended] at hi
    have ha : u.Admits b block bytes := {
      bridge := (bridge_of_fixed hf).trans hb
      call := call_of_fixed hf hc
      ptr := ptr
      len := len
      nonempty := nonempty
      room := room }
    exact ⟨_, u, .stored .rest hb hi ha⟩

end Buffer

namespace Stage

/-- A call takes its course, or the host refuses it and does nothing. -/
theorem course_of_calling {name : String} {t : Task g H α} (ht : Calling name t)
    (s : Stage g H) :
    (∃ e, t.run s = (.error e, s)) ∨
      ∃ ms, Course (.host (.calling name)) ms (s.begun name) (t.run s).2 := by
  obtain ⟨body, ha⟩ | ⟨e, he⟩ := ht s
  · exact .inr ((course_carried name (s.begun name)).call ha ⟨[], .rest⟩)
  · exact .inl ⟨e, he.run_eq⟩

theorem course_of_supplied {s s₁ : Stage g H} {name : String} {function : Nat} {b : Bridge}
    {input : Bytes} {block : Block} (idle : s.store.phase = .idle)
    (found : g.function? s.module name = some (function, .bytes))
    (bridge : s.store.bridge = some b) (h₀ : input ≠ [])
    (supplied : (Buffer.placeForCall enter b input).run (s.begun name) = (.ok block, s₁)) :
    ∃ ms u, Course (.host (.calling name)) ms (s.begun name) ((call name input).run s).2 ∧
      .stored u b block input ∈ ms := by
  have ha : s.Accepts name (call name input) (exchange b name function input) :=
    .octets function b input idle found bridge
  have hb : (s.begun name).store.bridge = some b := bridge
  obtain ⟨ms, u, hs⟩ := Buffer.course_of_placeForCall hb rfl supplied h₀
  have hl := course_carried name s₁
  obtain ⟨ms', hc⟩ := hl.finish ha (Prod.eta _).symm
    (hl.supplied (s := s.begun name) bridge rfl found supplied ⟨[], .rest⟩)
  exact ⟨_, u, hs.trans hc, by simp⟩

end Stage

namespace Plugin
open Stage

/-- The host writes guest memory in fresh buffers only, whatever guest and host functions do in a
call. Unless it is refused, the call takes a course in which guest memory is changed by the steps of
guest code and the system calls that it asks for, and otherwise by what is marked as stored; each of
these puts octets into the buffer that the module's allocator has just returned for them, and
changes nothing else. The input is stored so once there is a buffer for it. On every way to the
guest it is the octets handed over that are stored, and once the allocator's answer is accepted that
does not fail. -/
theorem host_stores_in_fresh_buffers (hg : g.Flat) {p : Plugin g H} (hp : p.Opened)
    {i : Instance g H} (hi : p.live = some i) {name : String} {t : Task g H α}
    (ht : Calling name t) (w : World H) :
    let s : Stage g H := ⟨i, w, []⟩
    ((∃ e, t.run s = (.error e, s)) ∨
        ∃ ms, Course (.host (.calling name)) ms (s.begun name) (t.run s).2) ∧
      (∀ s' ms, Course (.host (.calling name)) ms (s.begun name) s' →
        ∀ u b block bytes, .stored u b block bytes ∈ ms → u.Marshals p.module b block bytes) ∧
      (∀ function b input block s₁, g.function? p.module name = some (function, .bytes) →
        i.store.bridge = some b → input ≠ [] →
        (Buffer.placeForCall enter b input).run (s.begun name) = (.ok block, s₁) →
          ∃ ms u,
            Course (.host (.calling name)) ms (s.begun name) ((Stage.call name input).run s).2 ∧
            .stored u b block input ∈ ms) ∧
      ∀ (run : Runner g H) (b : Bridge) (bytes : Bytes) (s s' : Stage g H) (block : Block),
        ((Buffer.placeForCall run b bytes).run s = (.ok block, s') → bytes ≠ [] →
          ∃ u, run b.alloc [.i32 block.len] (s.note (.asked block.len)) =
            (.ok [.i32 block.ptr], u) ∧ s' = u.placed b block bytes) ∧
        ((Buffer.allocate run b bytes.length).run s = (.ok block, s') →
          ∃ s'', (Buffer.fill b block.ptr bytes).run s' = (.ok (), s'')) := by
  intro s
  have hr := hp.ready i hi
  have hm : s.module = p.module := hr.module
  have hx : Opening.bridge? g s.module = .ok s.store.bridge := by
    rw [hm]
    exact hr.bridge
  refine ⟨course_of_calling ht s, fun s' ms hc u b block bytes hu => ?_,
    fun function b input block s₁ found bridge h₀ supplied => ?_,
    fun run b bytes s s' block => ⟨Buffer.placed_of_placeForCall, Buffer.fill_of_allocate⟩⟩
  · rw [← hm]
    exact (hc.stores hu).marshals hg hx
  · rw [← hm] at found
    exact course_of_supplied hr.idle found bridge h₀ supplied

open Wasm in
theorem echo_stores_in_fresh_buffers :
    ∃ (i : Instance engine Unit) (w : World Unit),
      (Opening.instantiate Registry.empty echo {} : HostTask Unit (Instance engine Unit)).run
          echoing.world = (.ok i, w) ∧
        let s : Stage engine Unit := ⟨i, w, []⟩
        ∃ ms u, Course (.host (.calling "echo")) ms (s.begun "echo")
            ((Stage.call "echo" [1, 2, 3]).run s).2 ∧
          .stored u ⟨0, 0, 1⟩ ⟨1024, 3⟩ [1, 2, 3] ∈ ms ∧
            u.Marshals echo ⟨0, 0, 1⟩ ⟨1024, 3⟩ [1, 2, 3] := by
  let opened := (Opening.instantiate Registry.empty echo {} :
    HostTask Unit (Instance engine Unit)).run echoing.world
  have hc : (opened.1.toOption.any fun i =>
      let s : Stage engine Unit := ⟨i, opened.2, []⟩
      decide (i.store.bridge = some ⟨0, 0, 1⟩ ∧
        ((Buffer.placeForCall enter ⟨0, 0, 1⟩ [1, 2, 3]).run (s.begun "echo")).1.toOption =
          some ⟨1024, 3⟩)) = true := by
    decide +kernel
  rcases ho : opened with ⟨e | i, w⟩ <;> rw [ho] at hc
  · cases hc
  obtain ⟨bridge, hs⟩ := of_decide_eq_true hc
  have hp : Opened (⟨echo, {}, some i⟩ : Plugin engine Unit) := .opened _ _ _ _ _ _ ho
  obtain ⟨-, hall, hput, -⟩ := host_stores_in_fresh_buffers engine_flat hp rfl
    (call_calling "echo" [1, 2, 3]) w
  rcases hb : (Buffer.placeForCall enter ⟨0, 0, 1⟩ [1, 2, 3]).run
    ((⟨i, w, []⟩ : Stage engine Unit).begun "echo") with ⟨e | block, s₁⟩ <;> rw [hb] at hs
  · cases hs
  obtain rfl := Option.some.inj hs
  obtain ⟨ms, u, hcourse, hu⟩ := hput 2 _ [1, 2, 3] _ _ rfl bridge nofun hb
  exact ⟨i, w, ho, ms, u, hcourse, hu, hall _ ms hcourse u _ _ _ hu⟩

end Plugin

end PluginHost
