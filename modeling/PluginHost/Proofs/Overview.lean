import PluginHost.Proofs.Loading
/-!
The memories in the overview of a module. The overview is made of imports and exports, so it shows
an imported memory once and any memory once more for each name under which it is exported, then as
one that the module has itself.
-/
namespace PluginHost.Wasm
variable {H : Type}

namespace Typing

theorem mapM_ok {α β : Type} {l : List α} {f : α → Except Fault β} {bs : List β}
    (h : l.mapM f = .ok bs) : ∀ a ∈ l, ∃ b, f a = .ok b := by
  induction l generalizing bs with
  | nil => simp
  | cons a l ih =>
    rw [List.mapM_cons] at h
    obtain ⟨b, hb, h⟩ := of_bind_ok h
    obtain ⟨bs', hbs, -⟩ := of_bind_ok h
    exact List.forall_mem_cons.mpr ⟨⟨b, hb⟩, ih hbs⟩

end Typing

def MemType.shown (t : MemType) : MemoryType := ⟨t.limits.minimum, t.limits.maximum⟩

namespace Module
variable (m : Module)

def exportedMemories : List Nat :=
  m.exports.filterMap fun e => if e.sort = .memory then some e.index else none

def shownMemories : List (Nat × Bool) :=
  (List.range m.importedMemories.length).map (·, true) ++ m.exportedMemories.map (·, false)

def memoryEntry? (x : Nat × Bool) : Option MemoryEntry :=
  (m.allMemories[x.1]?).map fun t => ⟨t.shown, x.2⟩

def memoryEntries : List MemoryEntry :=
  m.importedMemories.map (fun t => ⟨t.shown, true⟩) ++ m.memories.map fun t => ⟨t.shown, false⟩

structure ExportsOnce : Prop where
  imported : ∀ k < m.importedMemories.length, m.exportedMemories.count k = 0
  own : ∀ k, m.importedMemories.length ≤ k → k < m.allMemories.length →
    m.exportedMemories.count k = 1

structure Shows (entries : List MemoryEntry) : Prop where
  listed : entries = m.shownMemories.filterMap m.memoryEntry?
  /-- Each entry stands for a memory. -/
  places : ∀ x ∈ m.shownMemories, x.1 < m.allMemories.length
  /-- An imported memory has one entry, and each memory one more for each name of an export. -/
  count : ∀ k, (m.shownMemories.map Prod.fst).count k =
    (if k < m.importedMemories.length then 1 else 0) + m.exportedMemories.count k
  single : (∀ k < m.allMemories.length, (m.shownMemories.map Prod.fst).count k = 1) ↔ m.ExportsOnce
  complete : m.ExportsOnce → entries.Perm m.memoryEntries

variable {m}

theorem filterMap_middle {α β : Type} (f : α → β) (before l after : List α) :
    (List.range' before.length l.length).filterMap
      (fun k => ((before ++ l ++ after)[k]?).map f) = l.map f := by
  induction l generalizing before with
  | nil => rfl
  | cons a l ih =>
    have ht := ih (before ++ [a])
    rw [List.length_append, List.length_singleton, List.append_assoc before [a] l,
      List.singleton_append] at ht
    simp only [List.append_assoc, List.cons_append] at ht
    simp [List.range'_succ, ht]

theorem count_shown (k : Nat) : (m.shownMemories.map Prod.fst).count k =
    (if k < m.importedMemories.length then 1 else 0) + m.exportedMemories.count k := by
  simp [shownMemories, Function.comp_def, List.count_range]

theorem length_allMemories :
    m.allMemories.length = m.importedMemories.length + m.memories.length :=
  List.length_append

theorem single_iff :
    (∀ k < m.allMemories.length, (m.shownMemories.map Prod.fst).count k = 1) ↔
      m.ExportsOnce := by
  constructor
  · intro h
    constructor
    · intro k hk
      have hc := h k (by rw [length_allMemories]; omega)
      rw [count_shown, if_pos hk] at hc
      omega
    · intro k hk hl
      have hc := h k hl
      rw [count_shown, if_neg (Nat.not_lt.mpr hk)] at hc
      omega
  · intro h k hl
    rw [count_shown]
    by_cases hk : k < m.importedMemories.length
    · rw [if_pos hk, h.imported k hk]
    · rw [if_neg hk, h.own k (Nat.le_of_not_lt hk) hl]

/-- Where each memory of its own is exported once, a module exports just these, in some order. -/
theorem ExportsOnce.perm (h : m.ExportsOnce)
    (hb : ∀ k ∈ m.exportedMemories, k < m.allMemories.length) :
    m.exportedMemories.Perm (List.range' m.importedMemories.length m.memories.length) := by
  rw [List.perm_iff_count]
  intro k
  rw [(List.nodup_range' ..).count]
  by_cases hk : k < m.importedMemories.length
  · rw [h.imported k hk, if_neg]
    simp only [List.mem_range'_1]
    omega
  · by_cases hl : k < m.allMemories.length
    · rw [h.own k (Nat.le_of_not_lt hk) hl, if_pos]
      rw [length_allMemories] at hl
      simp only [List.mem_range'_1]
      omega
    · rw [List.count_eq_zero_of_not_mem fun hm => hl (hb k hm), if_neg]
      rw [length_allMemories] at hl
      simp only [List.mem_range'_1]
      omega

theorem imported_entries :
    ((List.range m.importedMemories.length).map (·, true)).filterMap m.memoryEntry? =
      m.importedMemories.map fun t => ⟨t.shown, true⟩ := by
  have h := filterMap_middle (fun t : MemType => (⟨t.shown, true⟩ : MemoryEntry)) []
    m.importedMemories m.memories
  rw [List.filterMap_map, ← h, List.range_eq_range']
  rfl

theorem own_entries :
    ((List.range' m.importedMemories.length m.memories.length).map (·, false)).filterMap
      m.memoryEntry? = m.memories.map fun t => ⟨t.shown, false⟩ := by
  have h := filterMap_middle (fun t : MemType => (⟨t.shown, false⟩ : MemoryEntry))
    m.importedMemories m.memories []
  rw [List.append_nil] at h
  rw [List.filterMap_map, ← h]
  rfl

theorem ExportsOnce.complete (h : m.ExportsOnce)
    (hb : ∀ k ∈ m.exportedMemories, k < m.allMemories.length) :
    (m.shownMemories.filterMap m.memoryEntry?).Perm m.memoryEntries := by
  unfold shownMemories memoryEntries
  rw [List.filterMap_append, imported_entries, ← own_entries]
  exact (((h.perm hb).map _).filterMap _).append_left _

end Module

namespace Program
variable {m : Module}

theorem info_memories (m : Module) :
    (engine.info (ofModule m)).memories = m.shownMemories.filterMap m.memoryEntry? := by
  have hi : (m.imports.map fun i => (⟨i.ns, i.name, importKind m i.type⟩ : Import)).filterMap
      ModuleInfo.importedMemory? =
      m.importedMemories.map fun t => (⟨t.shown, true⟩ : MemoryEntry) := by
    unfold Module.importedMemories
    rw [List.filterMap_map, List.map_filterMap]
    congr 1
    funext i
    obtain ⟨ns, name, type⟩ := i
    cases type <;> rfl
  have he : (m.exports.map fun e => (⟨e.name, exportKind m e⟩ : Export)).filterMap
      ModuleInfo.exportedMemory? =
        (m.exportedMemories.map (·, false)).filterMap m.memoryEntry? := by
    unfold Module.exportedMemories
    rw [List.filterMap_map, List.map_filterMap, List.filterMap_filterMap]
    congr 1
    funext e
    obtain ⟨name, sort, index⟩ := e
    cases sort with
    | memory =>
      change ModuleInfo.exportedMemory? ⟨name, exportKind m ⟨name, .memory, index⟩⟩ =
        m.memoryEntry? (index, false)
      unfold exportKind Module.memoryEntry?
      cases m.allMemories[index]? <;> rfl
    | _ => rfl
  unfold Module.shownMemories
  rw [List.filterMap_append, Module.imported_entries, ← hi, ← he]
  rfl

end Program

namespace Loads
variable {bytes : Bytes} {m : Module} {p : Program}

theorem exportedMemories_lt (h : Loads bytes m p) :
    ∀ k ∈ m.exportedMemories, k < m.allMemories.length := by
  intro k hk
  obtain ⟨t, ht⟩ := Typing.moduleType_of_checkModule h.plain
  obtain ⟨types, exports, he, -⟩ := Typing.moduleType_exports ht
  obtain ⟨e, hm, hke⟩ := List.mem_filterMap.mp hk
  obtain ⟨x, hx⟩ := Typing.mapM_ok he e hm
  split at hke
  · rename_i hs
    obtain rfl := Option.some.inj hke
    unfold Typing.exportType at hx
    rw [hs] at hx
    simp only [Typing.externAt?, Typing.scope] at hx
    by_contra hn
    simp [Nat.le_of_not_lt hn] at hx
  · cases hke

end Loads

/-- The overview of a loaded module shows an imported memory once and each memory once more for each
name that it is exported under; so it shows all memories as they are if the module exports each of
its own under one name and none that it imports. -/
theorem memories_shown {bytes : Bytes} {p : Program} (loaded : engine.load bytes = .ok p) :
    ∃ m, Loads bytes m p ∧ m.Shows (engine.info p).memories := by
  obtain ⟨m, h⟩ := (load_eq_ok_iff bytes p).mp loaded
  have hb := h.exportedMemories_lt
  have hl : (engine.info p).memories = m.shownMemories.filterMap m.memoryEntry? := by
    rw [h.running]
    exact Program.info_memories m
  refine ⟨m, h, hl, ?_, Module.count_shown, Module.single_iff, fun ho => ?_⟩
  · intro x hx
    rcases List.mem_append.mp hx with hx | hx
    · obtain ⟨k, hk, rfl⟩ := List.mem_map.mp hx
      exact Nat.lt_of_lt_of_le (List.mem_range.mp hk) (by rw [Module.length_allMemories]; omega)
    · obtain ⟨k, hk, rfl⟩ := List.mem_map.mp hx
      exact hb k hk
  · rw [hl]
    exact ho.complete hb

namespace Single

def module (names : List String) : Module where
  memories := [⟨⟨1, some 4⟩, false, false, none⟩]
  exports := names.map fun name => ⟨name, .memory, 0⟩

def bytes : Bytes := [0, 97, 115, 109, 1, 0, 0, 0, 5, 4, 1, 1, 1, 4]

def exportingBytes : Bytes := bytes ++ [7, 10, 1, 6, 109, 101, 109, 111, 114, 121, 2, 0]

theorem checkModule_eq (features : Features) (hf : features = .all ∨ features = .engine)
    (names : List String) (hn : names = [] ∨ names = [Name.memory]) :
    Typing.checkModule features (module names) = .ok () := by
  have hd : Typing.distinct ((module names).exports.map ModuleExport.name) = true := by
    refine (Typing.distinct_iff _).mpr ?_
    rcases hn with rfl | rfl <;> decide
  unfold Typing.checkModule Typing.moduleType
  rw [hd]
  rcases hf with rfl | rfl <;> rcases hn with rfl | rfl <;> rfl

theorem loads : Loads bytes (module []) (.ofModule (module [])) where
  written := rfl
  valid := checkModule_eq _ (.inl rfl) _ (.inl rfl)
  plain := checkModule_eq _ (.inr rfl) _ (.inl rfl)
  running := rfl

theorem exporting_loads :
    Loads exportingBytes (module [Name.memory]) (.ofModule (module [Name.memory])) where
  written := rfl
  valid := checkModule_eq _ (.inl rfl) _ (.inr rfl)
  plain := checkModule_eq _ (.inr rfl) _ (.inr rfl)
  running := rfl

end Single

/-- A memory that is exported under one name is shown as it is. -/
theorem exported_memory_shown :
    ∃ m, Loads Single.exportingBytes m (.ofModule (Single.module [Name.memory])) ∧ m.ExportsOnce ∧
      (engine.info (.ofModule (Single.module [Name.memory]))).memories.Perm m.memoryEntries ∧
      m.memoryEntries = [⟨⟨1, some 4⟩, false⟩] := by
  obtain ⟨m, h, hs⟩ :=
    memories_shown ((load_eq_ok_iff ..).mpr ⟨_, Single.exporting_loads⟩)
  have hw := h.written.symm.trans Single.exporting_loads.written
  obtain rfl : m = Single.module [Name.memory] := by
    injection hw with hw
    injection hw
  have ho : (Single.module [Name.memory]).ExportsOnce := by
    constructor
    · intro k hk
      cases hk
    · intro k _ hk
      obtain rfl : k = 0 := Nat.lt_one_iff.mp hk
      rfl
  exact ⟨_, h, ho, hs.complete ho, rfl⟩

/-- A memory that is not exported is not shown. -/
theorem hidden_memory_unshown :
    ∃ m p, engine.load Single.bytes = .ok p ∧
      Reader.whole Binary.contents Single.bytes = .ok (.module m) ∧
      m.memoryEntries = [⟨⟨1, some 4⟩, false⟩] ∧ (engine.info p).memories = [] :=
  ⟨_, _, (load_eq_ok_iff ..).mpr ⟨_, Single.loads⟩, Single.loads.written, rfl, rfl⟩

end PluginHost.Wasm
