import PluginHost.Proofs.Loading
/-!
The exports through which octets pass: a memory and an allocator with its deallocator. What is
exported under the name of the memory is always looked at; the types of the two functions only where
all three exports are there. So a module that lacks one of them is opened whatever the types of the
others.
-/
namespace PluginHost
variable {g : Guest} {H : Type}

namespace Guest
variable (g) (m : g.Module)

def NamesMemory : Prop :=
  ∀ e ∈ g.exports m, e.name = Name.memory → ∃ index type, e.kind = .memory index type

structure Exchanges : Prop where
  memory : ∃ index type, ⟨Name.memory, .memory index type⟩ ∈ g.exports m
  alloc : ∃ index signature, ⟨Name.alloc, .function index signature⟩ ∈ g.exports m
  dealloc : ∃ index signature, ⟨Name.dealloc, .function index signature⟩ ∈ g.exports m

structure Allocates : Prop where
  alloc : ∀ index signature, ⟨Name.alloc, .function index signature⟩ ∈ g.exports m →
    signature = Opening.allocType
  dealloc : ∀ index signature, ⟨Name.dealloc, .function index signature⟩ ∈ g.exports m →
    signature = Opening.deallocType

variable {g m}

theorem Distinct.export?_eq_some_iff (h : g.Distinct m) (name : String) (kind : ExportKind) :
    g.export? m name = some kind ↔ ⟨name, kind⟩ ∈ g.exports m := by
  unfold export?
  rw [Option.map_eq_some_iff]
  constructor
  · rintro ⟨e, he, rfl⟩
    obtain rfl : e.name = name := by simpa using List.find?_some he
    exact List.mem_of_find?_eq_some he
  · intro he
    exact ⟨_, h.find?_of_mem he, rfl⟩

theorem Distinct.kind_eq (h : g.Distinct m) {name : String} {k k' : ExportKind}
    (hk : ⟨name, k⟩ ∈ g.exports m) (hk' : ⟨name, k'⟩ ∈ g.exports m) : k = k' :=
  Option.some.inj
    (((h.export?_eq_some_iff ..).mpr hk).symm.trans ((h.export?_eq_some_iff ..).mpr hk'))

theorem export?_eq_none_iff (name : String) :
    g.export? m name = none ↔ ∀ e ∈ g.exports m, e.name ≠ name := by
  simp [export?]

theorem Distinct.function?_eq_none_iff (h : g.Distinct m) (name : String) :
    g.function? m name = none ↔
      ¬ ∃ index signature, ⟨name, .function index signature⟩ ∈ g.exports m := by
  constructor
  · rintro hn ⟨index, signature, he⟩
    rw [(h.function?_eq_some_iff ..).mpr he] at hn
    cases hn
  · intro hn
    cases hf : g.function? m name with
    | none => rfl
    | some f => exact absurd ⟨f.1, f.2, (h.function?_eq_some_iff ..).mp hf⟩ hn

theorem Distinct.namesMemory (h : g.Distinct m) {index : Nat} {type : MemoryType}
    (hm : ⟨Name.memory, .memory index type⟩ ∈ g.exports m) : g.NamesMemory m := by
  rintro ⟨name, kind⟩ he rfl
  exact ⟨index, type, h.kind_eq he hm⟩

theorem Distinct.allocates (h : g.Distinct m) {alloc dealloc : Nat}
    (ha : ⟨Name.alloc, .function alloc Opening.allocType⟩ ∈ g.exports m)
    (hd : ⟨Name.dealloc, .function dealloc Opening.deallocType⟩ ∈ g.exports m) :
    g.Allocates m where
  alloc _ _ he := (ExportKind.function.inj (h.kind_eq he ha)).2
  dealloc _ _ he := (ExportKind.function.inj (h.kind_eq he hd)).2

end Guest

namespace Opening
variable {m : g.Module}

/-- What looking for memory and allocator comes to, for each combination of exports. -/
inductive Finds (m : g.Module) : Except Failure (Option Bridge) → Prop
  | bridge (b : Bridge) (type : MemoryType)
      (memory : ⟨Name.memory, .memory b.memory type⟩ ∈ g.exports m)
      (alloc : ⟨Name.alloc, .function b.alloc allocType⟩ ∈ g.exports m)
      (dealloc : ⟨Name.dealloc, .function b.dealloc deallocType⟩ ∈ g.exports m) :
      Finds m (.ok (some b))
  | nothing (named : g.NamesMemory m) (lacks : ¬ g.Exchanges m) : Finds m (.ok none)
  | memoryKind (misnamed : ¬ g.NamesMemory m) : Finds m (.error (.opening .memoryKind))
  | allocType (named : g.NamesMemory m) (has : g.Exchanges m) (index : Nat) (signature : Signature)
      (alloc : ⟨Name.alloc, .function index signature⟩ ∈ g.exports m)
      (other : signature ≠ allocType) :
      Finds m (.error (.opening (.allocatorType Name.alloc)))
  | deallocType (named : g.NamesMemory m) (has : g.Exchanges m) (index : Nat)
      (signature : Signature) (dealloc : ⟨Name.dealloc, .function index signature⟩ ∈ g.exports m)
      (other : signature ≠ deallocType) :
      Finds m (.error (.opening (.allocatorType Name.dealloc)))

theorem finds (distinct : g.Distinct m) : Finds m (bridge? g m) := by
  unfold bridge?
  cases hm : g.export? m Name.memory with
  | none =>
    have hn := (Guest.export?_eq_none_iff _).mp hm
    refine .nothing (fun e he h => absurd h (hn e he)) fun hx => ?_
    obtain ⟨index, type, he⟩ := hx.memory
    exact hn _ he rfl
  | some kind =>
    have he := (distinct.export?_eq_some_iff ..).mp hm
    cases kind with
    | memory memory type =>
      have hn : g.NamesMemory m := distinct.namesMemory he
      cases ha : g.function? m Name.alloc with
      | none => exact .nothing hn fun hx => (distinct.function?_eq_none_iff _).mp ha hx.alloc
      | some alloc =>
        cases hd : g.function? m Name.dealloc with
        | none => exact .nothing hn fun hx => (distinct.function?_eq_none_iff _).mp hd hx.dealloc
        | some dealloc =>
          have ha := (distinct.function?_eq_some_iff ..).mp ha
          have hd := (distinct.function?_eq_some_iff ..).mp hd
          have hx : g.Exchanges m := ⟨⟨_, _, he⟩, ⟨_, _, ha⟩, ⟨_, _, hd⟩⟩
          dsimp only
          split
          · exact .allocType hn hx _ _ ha ‹_›
          · split
            · exact .deallocType hn hx _ _ hd ‹_›
            · rename_i hta htd
              rw [not_not.mp hta] at ha
              rw [not_not.mp htd] at hd
              exact .bridge ⟨memory, alloc.1, dealloc.1⟩ type he ha hd
    | function | other =>
      refine .memoryKind fun hn => ?_
      obtain ⟨index, type, hk⟩ := hn _ he rfl
      cases hk

structure Fit (m : g.Module) : Prop where
  memory : g.NamesMemory m
  allocator : g.Exchanges m → g.Allocates m

theorem Finds.fit (distinct : g.Distinct m) {b : Option Bridge} (h : Finds m (.ok b)) :
    Fit m ∧ (b.isSome ↔ g.Exchanges m) := by
  cases h with
  | bridge b type memory alloc dealloc =>
    have hx : g.Exchanges m := ⟨⟨_, _, memory⟩, ⟨_, _, alloc⟩, ⟨_, _, dealloc⟩⟩
    exact ⟨⟨distinct.namesMemory memory, fun _ => distinct.allocates alloc dealloc⟩,
      fun _ => hx, fun _ => rfl⟩
  | nothing named lacks =>
    exact ⟨⟨named, fun hx => absurd hx lacks⟩, nofun, fun hx => absurd hx lacks⟩

theorem Finds.not_fit {e : Failure} (h : Finds m (.error e)) :
    ¬ Fit m ∧ ∃ fault, e = .opening fault := by
  cases h with
  | memoryKind misnamed => exact ⟨fun hf => misnamed hf.memory, _, rfl⟩
  | allocType named has index signature alloc other =>
    exact ⟨fun hf => other ((hf.allocator has).alloc _ _ alloc), _, rfl⟩
  | deallocType named has index signature dealloc other =>
    exact ⟨fun hf => other ((hf.allocator has).dealloc _ _ dealloc), _, rfl⟩

structure Screened (m : g.Module) : Prop where
  opened : ∀ {H : Type} (p : Plugin g H) (i : Instance g H), p.Opened → p.module = m →
    p.live = some i → g.NamesMemory m ∧ (g.Exchanges m → g.Allocates m)
  /-- Calls with octets are taken exactly if memory and allocator are exported. -/
  taken : ∀ {H : Type} (p : Plugin g H) (i : Instance g H), p.Opened → p.module = m →
    p.live = some i → (i.store.bridge.isSome ↔ g.Exchanges m) ∧
      ∀ name ∈ p.info.bytesNames, ∀ input w,
        p.Takes w name (Stage.call name input) ↔ g.Exchanges m
  refused : ¬ Fit m → ∀ {H : Type} (registry : Registry H) (settings : Settings) (w : World H),
    ∃ e w', (instantiate registry m settings).run w = (.error e, w')
  /-- Once the start computation is over, the exports alone decide. -/
  decided : ∀ {H : Type} (settings : Settings) (ps : List (Provider H)) (w w' : World H)
    (i : Instance g H), (begin m ps (.ofSettings settings)).run w = (.ok i, w') →
      (Fit m → ∃ j u, (complete m settings ps).run w = (.ok j, u)) ∧
      (¬ Fit m → ∃ fault, (complete m settings ps).run w = (.error (.opening fault), w'))

theorem screened (distinct : g.Distinct m) : Screened m := by
  have hf := finds distinct
  have hready {H : Type} (p : Plugin g H) (i : Instance g H) (hp : p.Opened) (hm : p.module = m)
      (hi : p.live = some i) : Fit m ∧ (i.store.bridge.isSome ↔ g.Exchanges m) := by
    have hb := (hp.ready i hi).bridge
    rw [hm] at hb
    rw [hb] at hf
    exact hf.fit distinct
  constructor
  · intro H p i hp hm hi
    obtain ⟨hfit, -⟩ := hready p i hp hm hi
    exact ⟨hfit.memory, hfit.allocator⟩
  · intro H p i hp hm hi
    obtain ⟨-, hb⟩ := hready p i hp hm hi
    refine ⟨hb, fun name hn input w => ?_⟩
    have hd : g.Distinct p.module := hm ▸ distinct
    have hx : p.functionExists name = true := by
      obtain ⟨function, hf⟩ := (hd.mem_bytesNames_iff name).mp hn
      rw [Plugin.functionExists_eq hd, hf]
      rfl
    rw [(Plugin.call_decided hd hi (hp.ready i hi) input w).taken, ← hb]
    simp [hx, hn, Option.isSome_iff_ne_none]
  · intro hn H registry settings w
    rcases hr : (instantiate registry m settings).run w with ⟨e | i, w'⟩
    · exact ⟨e, w', rfl⟩
    · exact absurd (hready _ i (.opened _ _ _ _ _ _ hr) rfl rfl).1 hn
  · intro H settings ps w w' i hb
    have hc := run_complete m settings ps w
    rw [hb] at hc
    cases hg : bridge? g m with
    | ok bridge =>
      rw [hg] at hc hf
      obtain ⟨u, hc⟩ := hc
      exact ⟨fun _ => ⟨_, u, hc⟩, fun hn => absurd (hf.fit distinct).1 hn⟩
    | error e =>
      rw [hg] at hc hf
      obtain ⟨hn, fault, rfl⟩ := hf.not_fit
      exact ⟨fun h => absurd h hn, fun _ => ⟨fault, hc⟩⟩

end Opening

namespace Wasm
open Typing Opening

/-- A loaded module is opened only if it exports nothing but a memory under the name of one and,
where all three exports are there, functions of the right types; the three are what calls with
octets need. A module that lacks one of them is not asked for the types of the others. -/
theorem loaded_exports_screened {bytes : Bytes} {m : Program} (loaded : engine.load bytes = .ok m) :
    Screened (g := engine) m := screened (engine_distinct loaded)

namespace Trio

/-- A module with a memory, an allocator that always gives the address eight, a deallocator, and
`zero`, which takes octets and answers with none. -/
def bytes : Bytes :=
  [0, 97, 115, 109, 1, 0, 0, 0, 1, 17, 3, 96, 1, 127, 1, 127, 96, 2, 127, 127, 0, 96, 2, 127,
    127, 1, 126, 3, 4, 3, 0, 1, 2, 5, 3, 1, 0, 1, 7, 49, 4, 6, 109, 101, 109, 111, 114, 121, 2, 0,
    12, 112, 108, 117, 103, 105, 110, 95, 97, 108, 108, 111, 99, 0, 0, 14, 112, 108, 117, 103,
    105, 110, 95, 100, 101, 97, 108, 108, 111, 99, 0, 1, 4, 122, 101, 114, 111, 0, 2, 10, 14, 3,
    4, 0, 65, 8, 11, 2, 0, 11, 4, 0, 66, 0, 11]

def types : List SubType :=
  [functionType [.i32] [.i32], functionType [.i32, .i32] [], functionType [.i32, .i32] [.i64]]

def module : Module where
  types := types.toArray
  groups := [⟨1, false⟩, ⟨1, false⟩, ⟨1, false⟩]
  functions := #[0, 1, 2]
  memories := [⟨⟨1, none⟩, false, false, none⟩]
  exports := [⟨Name.memory, .memory, 0⟩, ⟨Name.alloc, .function, 0⟩, ⟨Name.dealloc, .function, 1⟩,
    ⟨"zero", .function, 2⟩]
  bodies := #[⟨[], [.const (.i32 8), .end_]⟩, ⟨[], [.end_]⟩, ⟨[], [.const (.i64 0), .end_]⟩]

def program : Program := .ofModule module

theorem checkModule_eq (features : Features) (h : features = .all ∨ features = .engine) :
    checkModule features module = .ok () := by
  have hd : distinct (module.exports.map ModuleExport.name) = true :=
    (distinct_iff _).mpr (by decide)
  have hp : ∀ s ∈ types, Types.Plain s := by
    simp only [types, List.forall_mem_cons]
    exact ⟨⟨rfl, rfl, fun _ => rfl⟩, ⟨rfl, rfl, fun _ => rfl⟩, ⟨rfl, rfl, fun _ => rfl⟩, by simp⟩
  obtain ⟨seen, ht⟩ := Types.addGroups_plain hp (by decide)
  have ht : Types.addGroups {} module.types module.groups = _ := ht
  unfold checkModule moduleType addTypes
  rw [show Types.restart {} = {} from rfl, ht, hd]
  rcases h with rfl | rfl <;> rfl

theorem loads : engine.load bytes = .ok program :=
  (load_eq_ok_iff ..).mpr
    ⟨module, rfl, checkModule_eq _ (.inl rfl), checkModule_eq _ (.inr rfl), rfl⟩

end Trio

/-- All three exports are there under their types, so `zero` is called with octets. -/
theorem trio_screened :
    ∃ (i : Instance engine Unit) (w : World Unit),
      let p : Plugin engine Unit := ⟨Trio.program, {}, some i⟩
      engine.load Trio.bytes = .ok Trio.program ∧ p.Opened ∧ engine.Exchanges Trio.program ∧
        engine.Allocates Trio.program ∧ i.store.bridge.isSome ∧
        p.Takes w "zero" (Stage.call "zero" [1]) := by
  have hs := loaded_exports_screened Trio.loads
  obtain ⟨i, w, ho⟩ := @of_isOk engine Unit Registry.empty Trio.program {} echoing.world
    (by decide +kernel)
  have hp : (⟨Trio.program, {}, some i⟩ : Plugin engine Unit).Opened := .opened _ _ _ _ _ _ ho
  have hx : engine.Exchanges Trio.program := {
    memory := ⟨0, ⟨1, none⟩, by decide +kernel⟩
    alloc := ⟨0, Opening.allocType, by decide +kernel⟩
    dealloc := ⟨1, Opening.deallocType, by decide +kernel⟩ }
  obtain ⟨-, ha⟩ := hs.opened _ i hp rfl rfl
  obtain ⟨hb, ht⟩ := hs.taken _ i hp rfl rfl
  have hn : "zero" ∈ (engine.info Trio.program).bytesNames := by decide +kernel
  exact ⟨i, w, Trio.loads, hp, hx, ha hx, hb.mpr hx, (ht "zero" hn [1] w).mpr hx⟩

namespace Lone

/-- A module that exports nothing but a function under the name of the allocator, which takes
nothing and gives nothing. -/
def bytes : Bytes :=
  [0, 97, 115, 109, 1, 0, 0, 0, 1, 4, 1, 96, 0, 0, 3, 2, 1, 0, 7, 16, 1, 12, 112, 108, 117, 103,
    105, 110, 95, 97, 108, 108, 111, 99, 0, 0, 10, 4, 1, 2, 0, 11]

def types : List SubType := [functionType [] []]

def module : Module where
  types := types.toArray
  groups := [⟨1, false⟩]
  functions := #[0]
  exports := [⟨Name.alloc, .function, 0⟩]
  bodies := #[⟨[], [.end_]⟩]

def program : Program := .ofModule module

theorem checkModule_eq (features : Features) (h : features = .all ∨ features = .engine) :
    checkModule features module = .ok () := by
  have hd : distinct (module.exports.map ModuleExport.name) = true :=
    (distinct_iff _).mpr (by decide)
  have hp : ∀ s ∈ types, Types.Plain s := by
    simp only [types, List.forall_mem_cons]
    exact ⟨⟨rfl, rfl, fun _ => rfl⟩, by simp⟩
  obtain ⟨seen, ht⟩ := Types.addGroups_plain hp (by decide)
  have ht : Types.addGroups {} module.types module.groups = _ := ht
  unfold checkModule moduleType addTypes
  rw [show Types.restart {} = {} from rfl, ht, hd]
  rcases h with rfl | rfl <;> rfl

theorem loads : engine.load bytes = .ok program :=
  (load_eq_ok_iff ..).mpr
    ⟨module, rfl, checkModule_eq _ (.inl rfl), checkModule_eq _ (.inr rfl), rfl⟩

end Lone

/-- The allocator has another type than an allocator, and the module is opened all the same. -/
theorem lone_allocator_opens :
    engine.load Lone.bytes = .ok Lone.program ∧
      ⟨Name.alloc, .function 0 ⟨[], []⟩⟩ ∈ engine.exports Lone.program ∧
      (⟨[], []⟩ : Signature) ≠ Opening.allocType ∧
      ∃ (i : Instance engine Unit) (w : World Unit),
        (Opening.instantiate Registry.empty Lone.program {}).run echoing.world = (.ok i, w) :=
  ⟨Lone.loads, by decide +kernel, by decide, of_isOk (by decide +kernel)⟩

end Wasm
end PluginHost
