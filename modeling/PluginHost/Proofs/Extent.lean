import PluginHost.Proofs.Context
/-!
How large guest memory is, as two ways of asking tell it. A host function asks through the allocator
of the call that it runs for, the host through the exports of the module; where the module exports a
memory but not both functions of an allocator, only the host is told.
-/
namespace PluginHost
variable {g : Guest} {H α β : Type}

namespace Guest

def Paged (g : Guest) : Prop := ∀ (t : g.State) (memory : Nat), pageSize ∣ g.size t memory

def hasAllocator (g : Guest) (m : g.Module) : Bool :=
  (g.function? m Name.alloc).isSome && (g.function? m Name.dealloc).isSome

end Guest

namespace Opening

/-- Through the allocator the exported memory is found, but only where there is an allocator. -/
theorem memory_of_bridge {m : g.Module} {bridge : Option Bridge}
    (h : bridge? g m = .ok bridge) :
    bridge.map Bridge.memory = if g.hasAllocator m then g.memory? m else none := by
  unfold bridge? at h
  unfold Guest.memory? Guest.hasAllocator
  split at h
  · rename_i hm
    obtain rfl := Except.ok.inj h
    simp [hm]
  · rename_i memory type hm
    split at h
    · rename_i ha hd
      split at h
      · cases h
      · split at h
        · cases h
        · obtain rfl := Except.ok.inj h
          simp [hm, ha, hd]
    · rename_i hn
      obtain rfl := Except.ok.inj h
      cases ha : g.function? m Name.alloc with
      | none => rfl
      | some alloc =>
        cases hd : g.function? m Name.dealloc with
        | none => simp
        | some dealloc => exact absurd hd (hn _ _ _ _ ha)
  · cases h

theorem hasAllocator_of_bridge {m : g.Module} {bridge : Option Bridge}
    (h : bridge? g m = .ok bridge) (hb : bridge.isSome) : g.hasAllocator m = true := by
  have hm := memory_of_bridge h
  cases ha : g.hasAllocator m with
  | true => rfl
  | false =>
    rw [ha, if_neg Bool.false_ne_true, Option.map_eq_none_iff] at hm
    rw [hm] at hb
    cases hb

end Opening

namespace Stage

def extent (s : Stage g H) : Nat := Plugin.memoryBytes s.toInstance

def told (s : Stage g H) : Nat := (s.store.bridge.map fun b => s.memorySize b.memory).getD 0

theorem told_eq {s : Stage g H} {m : g.Module} (hm : s.module = m)
    (hb : Opening.bridge? g m = .ok s.store.bridge) :
    s.told = if g.hasAllocator m then s.extent else 0 := by
  have h := congrArg (fun k => (k.map (g.size s.guest)).getD 0) (Opening.memory_of_bridge hb)
  simp only [Option.map_map] at h
  unfold extent Plugin.memoryBytes
  rw [hm]
  refine h.trans ?_
  split <;> rfl

theorem Accepts.keeps_bridge {s u : Stage g H} {name : String} {t body : Task g H α}
    {a : Activity g H} (h : s.Accepts name t body) (hu : s.InCall name body a u) :
    u.module = s.module ∧ u.store.bridge = s.store.bridge := by
  obtain ⟨purpose, function, args, s₀, he, hd⟩ := (inCall_iff_enters ..).mp hu
  have hf : u.steady = s₀.steady := steady_of_fixed (entered_fixed hd)
  have hs := hf.trans (he.steady h)
  exact ⟨congrArg Fixed.module hs, congrArg Fixed.bridge hs⟩

end Stage

namespace Plugin
open Stage

structure Measures (p : Plugin g H) (f : HostFunction H) (octets pages : Nat) : Prop where
  told : octets = if g.hasAllocator p.module then pageSize * pages else 0
  agree : octets = pageSize * pages ↔ g.hasAllocator p.module ∨ pages = 0
  zero : octets = 0 ↔ pages = 0 ∨ ¬ g.hasAllocator p.module
  /-- Who takes octets is told all of it. -/
  onBytes : ∀ body, f.callable = .bytes body → octets = pageSize * pages
  /-- Without an exported memory there are no pages. -/
  unexported : g.memory? p.module = none → pages = 0

theorem measures_of_bridge (paged : g.Paged) {p : Plugin g H} {s : Stage g H}
    (hm : s.module = p.module) (hb : Opening.bridge? g p.module = .ok s.store.bridge)
    {f : HostFunction H} (hf : ∀ body, f.callable = .bytes body → s.store.bridge.isSome) :
    p.Measures f s.told (s.extent / pageSize) := by
  have htold := told_eq hm hb
  have hpages : pageSize * (s.extent / pageSize) = s.extent := by
    refine Nat.mul_div_cancel' ?_
    unfold extent memoryBytes
    cases g.memory? s.toInstance.module with
    | none => exact Nat.dvd_zero _
    | some memory => exact paged _ _
  have hzero : s.extent / pageSize = 0 ↔ s.extent = 0 := by
    constructor
    · intro h
      rw [← hpages, h, Nat.mul_zero]
    · intro h
      rw [h, Nat.zero_div]
  constructor
  · rw [hpages, htold]
  · rw [hpages, htold, hzero]
    cases g.hasAllocator p.module <;> simp [eq_comm]
  · rw [htold, hzero]
    cases g.hasAllocator p.module <;> simp
  · intro body hc
    rw [hpages, htold, if_pos (Opening.hasAllocator_of_bridge hb (hf body hc))]
  · intro hn
    refine hzero.mpr ?_
    unfold extent memoryBytes
    rw [hm, hn]
    rfl

/-- Wherever a host function asks in a call how large guest memory is, it is told of the pages that
the plugin reports if the module exports both functions of an allocator, and of none if not. -/
theorem memory_size_told (paged : g.Paged) {p : Plugin g H} {i : Instance g H} {w : World H}
    {name : String} {t body : Task g H α} (opened : p.Opened) (live : p.live = some i)
    (accepts : Accepts ⟨i, w, []⟩ name t body) {code : g.Code} {u v s₁ s' : Stage g H}
    {f : HostFunction H} {caller : Caller} {args : List Value} {depth n : Nat}
    {q : Program H β} {next : Nat → Program H β}
    (during : InCall ⟨i, w, []⟩ name body (.running code) u)
    (calls : u.Calls code (.function f) caller args depth v)
    (starts : ImportCall.Starts v f args q s₁)
    (asks : q.Gets (runner v.module n depth) f.name s₁ (.memorySize next) s') :
    ∃ octets pages,
      q.exec (runner v.module n depth) f.name s₁ =
        (next octets).exec (runner v.module n depth) f.name s' ∧
      ({ p with live := some s'.toInstance } : Plugin g H).memoryPages = .ok pages ∧
      p.Measures f octets pages := by
  have hready := opened.ready i live
  have hf := starts.fixed_eq asks
  have hv : s'.store.bridge = v.store.bridge := congrArg Fixed.bridge hf
  obtain ⟨hm, hb⟩ : s'.module = p.module ∧ s'.store.bridge = i.store.bridge := by
    obtain ⟨hm, hb⟩ := accepts.keeps_bridge during
    cases calls
    exact ⟨((congrArg Fixed.module hf).trans hm).trans hready.module, hv.trans hb⟩
  refine ⟨s'.told, s'.extent / pageSize, asks.exec_eq, rfl, ?_⟩
  refine measures_of_bridge paged hm (by rw [hb]; exact hready.bridge) fun body hc => ?_
  rw [hv]
  cases starts with
  | values body' args calling raw =>
    rw [raw] at hc
    cases hc
  | octets body' b ptr len input calling octets bridge read =>
    rw [bridge]
    rfl

end Plugin

theorem Wasm.engine_paged : Wasm.engine.Paged := by
  intro t memory
  change pageSize ∣ (t.memories.toList.map Wasm.Memory.size).getD memory 0
  rw [List.getD_eq_getElem?_getD, List.getElem?_map]
  cases t.memories.toList[memory]? with
  | none => exact Nat.dvd_zero _
  | some m => exact Nat.dvd_mul_left ..

namespace Errand

theorem guest_paged : guest.Paged := by
  intro t memory
  cases memory with
  | zero => exact Nat.dvd_refl _
  | succ memory => exact Nat.dvd_zero _

def measure : Program Unit (List Value) :=
  .memorySize fun octets => if octets = 0 then .fail (.other ["no memory"]) else .done []

def sparse : Guest :=
  { guest with exports := fun _ =>
      [⟨Name.memory, .memory 0 ⟨1, none⟩⟩, ⟨"run", .function 2 ⟨[], [.i64]⟩⟩] }

def bare : Instance sparse Unit where
  module := ()
  providers := #[.function (function measure)]
  guest := ()
  store := Store.ofSettings {}

end Errand

namespace Plugin
open Stage Errand

theorem errand_memory_size_told :
    measure.exec (runner (g := guest) () 99 0) "f" (asked measure) = (.ok [], asked measure) ∧
      ({ plugin measure with live := some (asked measure).toInstance } :
        Plugin guest Unit).memoryPages = .ok 1 ∧
      (plugin measure).Measures (function measure) 65536 1 := by
  have hin : InCall ⟨made measure, Script.world, []⟩ "run" (exchange ⟨0, 0, 1⟩ "run" 2 [1])
      (.running Act.ask) ((supplied measure).entering 2 [.i32 8, .i32 1]) :=
    .exporting ⟨0, 0, 1⟩ 2 [1] ⟨8, 1⟩ (supplied measure) _ _ rfl rfl (.inl ⟨rfl, rfl⟩)
  have hcalls : Calls (g := guest) Act.ask ((supplied measure).entering 2 [.i32 8, .i32 1])
      (.function (function measure)) .guest [] 0 ((supplied measure).entering 2 [.i32 8, .i32 1]) :=
    @Calls.call guest Unit Act.ask _ 0 0 [] .guest (Act.give [.i64 0]) () _ rfl rfl
  obtain ⟨octets, pages, hx, hp, hm⟩ := memory_size_told guest_paged (opened measure) rfl
    (accepts measure) hin hcalls (.values (fun _ => measure) [] rfl rfl) (n := 99) (.here ..)
  obtain rfl : 1 = pages := Except.ok.inj hp
  obtain rfl : octets = 65536 := hm.told
  exact ⟨hx, rfl, hm⟩

/-- Without an allocator a function is told of no memory, although the plugin reports a page. -/
theorem sparse_memory_size_untold :
    ∃ u s : Stage sparse Unit,
      let p : Plugin sparse Unit := ⟨(), {}, some bare⟩
      p.Opened ∧
        Accepts ⟨bare, Script.world, []⟩ "run" (Stage.callValues "run" [])
          (exchangeValues "run" 2 []) ∧
        InCall ⟨bare, Script.world, []⟩ "run" (exchangeValues "run" 2 []) (.running Act.ask) u ∧
        u.Calls Act.ask (.function (function measure)) .guest [] 0 u ∧
        ImportCall.Starts u (function measure) [] measure s ∧
        measure.turn (runner () 99 0) "f" s = some (.fail (.other ["no memory"]), s) ∧
        ({ p with live := some s.toInstance } : Plugin sparse Unit).memoryPages = .ok 1 ∧
        ((callValues "run" []).run (p, Script.world)).1 =
          .error (.hostFunction "f" "no memory") := by
  let u : Stage sparse Unit := (Stage.begun ⟨bare, Script.world, []⟩ "run").entering 2 []
  refine ⟨u, ImportCall.invoked (function measure) u, ?_, ?_, ?_, ?_, ?_, rfl, ?_, rfl⟩
  · exact .opened ⟨[function measure]⟩ () {} Script.world _ bare rfl
  · exact .values 2 ⟨[], [.i64]⟩ [] rfl rfl rfl
  · exact .exportingValues 2 [] _ _ (.inl ⟨rfl, rfl⟩)
  · exact @Calls.call sparse Unit Act.ask _ 0 0 [] .guest (Act.give [.i64 0]) () _ rfl rfl
  · exact .values (fun _ => measure) [] rfl rfl
  · change Except.ok (65536 / 65536) = _
    rfl

end Plugin
end PluginHost
