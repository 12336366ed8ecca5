import PluginHost.Wasm.Engine
/-!
Memory of the engine keeps what is put into it, although a page only exists up to the last octet
that was written.
-/
namespace PluginHost

/-- A guest whose memories keep what is put into them. -/
structure Guest.Faithful (g : Guest) : Prop where
  read_write : ∀ (s : g.State) (memory address : Nat) (bytes : Bytes),
    address + bytes.length ≤ g.size s memory →
      g.read (g.write s memory address bytes) memory address bytes.length = bytes

def patched (octets : Bytes) (address : Nat) (bytes : Bytes) : Bytes :=
  octets.take address ++ bytes ++ octets.drop (address + bytes.length)

theorem getElem?_patched {octets bytes : Bytes} {address : Nat}
    (h : address + bytes.length ≤ octets.length) (i : Nat) :
    (patched octets address bytes)[i]? =
      if address ≤ i ∧ i < address + bytes.length then bytes[i - address]? else octets[i]? := by
  have ht : (octets.take address).length = address := by
    rw [List.length_take]
    omega
  unfold patched
  by_cases ha : i < address
  · have hn : ¬ (address ≤ i ∧ i < address + bytes.length) := by omega
    rw [if_neg hn, List.append_assoc, List.getElem?_append_left (by omega),
      List.getElem?_take_of_lt ha]
  · by_cases hb : i < address + bytes.length
    · rw [if_pos ⟨by omega, hb⟩, List.append_assoc, List.getElem?_append_right (by omega), ht,
        List.getElem?_append_left (by omega)]
    · have hn : ¬ (address ≤ i ∧ i < address + bytes.length) := by omega
      rw [if_neg hn, List.getElem?_append_right (by rw [List.length_append]; omega),
        List.getElem?_drop, List.length_append, ht]
      congr 1
      omega

namespace Guest

def octets (g : Guest) (t : g.State) (memory : Nat) : Bytes := g.read t memory 0 (g.size t memory)

/-- A guest whose memories are rows of octets: what is read is cut out of the row, and what is
written is put into it. -/
structure Flat (g : Guest) : Prop where
  length_octets : ∀ (t : g.State) (memory : Nat), (g.octets t memory).length = g.size t memory
  read_eq : ∀ (t : g.State) (memory address length : Nat),
    address + length ≤ g.size t memory →
      g.read t memory address length = ((g.octets t memory).drop address).take length
  octets_write : ∀ (t : g.State) (memory address : Nat) (bytes : Bytes),
    address + bytes.length ≤ g.size t memory →
      g.octets (g.write t memory address bytes) memory =
        patched (g.octets t memory) address bytes
  octets_elsewhere : ∀ (t : g.State) (memory other address : Nat) (bytes : Bytes),
    other ≠ memory → g.octets (g.write t memory address bytes) other = g.octets t other

end Guest

namespace Wasm

namespace Memory

def octet (page : ByteArray) (place : Nat) : UInt8 :=
  if h : place < page.size then page[place] else 0

theorem octet_eq (page : ByteArray) (place : Nat) :
    octet page place = (page.data[place]?).getD 0 := by
  unfold octet
  by_cases h : place < page.data.size
  · have hp : place < page.size := h
    rw [dif_pos hp, ByteArray.getElem_eq_getElem_data, Array.getElem?_eq_getElem h,
      Option.getD_some]
  · have hp : ¬ place < page.size := h
    rw [dif_neg hp, Array.getElem?_eq_none (Nat.le_of_not_lt h), Option.getD_none]

theorem data_padded (zeros : Nat) (page : ByteArray) :
    (padded zeros page).data = page.data ++ Array.replicate zeros 0 := by
  induction zeros generalizing page with
  | zero => simp [padded]
  | succ n ih =>
    rw [padded, ih, ByteArray.data_push, Array.replicate_succ']
    simp

theorem octet_setInPage (page : ByteArray) (place : Nat) (b : UInt8) (i : Nat) :
    octet (setInPage page place b) i = if i = place then b else octet page i := by
  rw [octet_eq, octet_eq]
  unfold setInPage
  split
  · rename_i h
    have hd : place < page.data.size := h
    rw [ByteArray.data_set, Array.getElem?_set]
    by_cases hi : i = place
    · simp [hi]
    · simp [hi, Ne.symm hi]
  · rename_i h
    have hs : page.data.size ≤ place := Nat.le_of_not_lt h
    have hp : (page.data ++ Array.replicate (place - page.data.size) 0).size = place := by
      simp
      omega
    change (((padded (place - page.data.size) page).push b).data[i]?).getD 0 = _
    rw [ByteArray.data_push, data_padded, Array.getElem?_push, hp]
    by_cases hi : i = place
    · simp [hi]
    · simp only [hi, if_false, Array.getElem?_append]
      by_cases hl : i < page.data.size
      · rw [if_pos hl]
      · have hn : page.data[i]? = none := Array.getElem?_eq_none (Nat.le_of_not_lt hl)
        rw [hn, if_neg hl, Array.getElem?_replicate]
        split <;> rfl

theorem byte_eq (m : Memory) (address : Nat) :
    m.byte address =
      ((m.pages[address / pageBytes]?).map fun page =>
        octet page (address % pageBytes)).getD 0 := by
  unfold byte
  split
  · rename_i page h
    simp [h, octet]
  · rename_i h
    simp [h]

/-- Setting an octet inside memory changes that one and no other. -/
theorem byte_setByte (m : Memory) {address : Nat} (h : address < m.size) (b : UInt8) (i : Nat) :
    (m.setByte address b).byte i = if i = address then b else m.byte i := by
  have hp : address / pageBytes < m.pages.size := by
    unfold size at h
    exact Nat.div_lt_of_lt_mul (by rwa [Nat.mul_comm])
  rw [byte_eq, byte_eq]
  simp only [setByte, Array.getElem?_modify]
  by_cases hq : address / pageBytes = i / pageBytes
  · have hi : i = address ↔ i % pageBytes = address % pageBytes := by
      refine ⟨fun h => by rw [h], fun h => ?_⟩
      rw [← Nat.div_add_mod i pageBytes, ← Nat.div_add_mod address pageBytes, hq, h]
    rw [if_pos hq, ← hq, Array.getElem?_eq_getElem hp]
    simp [octet_setInPage, hi]
  · have hi : i ≠ address := fun h => hq (by rw [h])
    rw [if_neg hq, if_neg hi]

theorem size_setByte (m : Memory) (address : Nat) (b : UInt8) :
    (m.setByte address b).size = m.size := by
  simp [size, setByte]

theorem size_write (m : Memory) (address : Nat) (bytes : Bytes) :
    (m.write address bytes).size = m.size := by
  induction bytes generalizing m address with
  | nil => rfl
  | cons b bs ih => rw [write, ih, size_setByte]

/-- Octets that are written inside memory stand one after another from the address on, and all
others stay. -/
theorem byte_write (m : Memory) (bytes : Bytes) {address : Nat}
    (h : address + bytes.length ≤ m.size) (i : Nat) :
    (m.write address bytes).byte i =
      if address ≤ i then (bytes[i - address]?).getD (m.byte i) else m.byte i := by
  induction bytes generalizing m address with
  | nil => simp [write]
  | cons b bs ih =>
    rw [List.length_cons] at h
    have hs : address + 1 + bs.length ≤ (m.setByte address b).size := by
      rw [size_setByte]
      omega
    rw [write, ih (m.setByte address b) hs, byte_setByte m (by omega)]
    by_cases hlt : i < address
    · have hn : ¬ address ≤ i := by omega
      have hn' : ¬ address + 1 ≤ i := by omega
      simp [hn, hn', Nat.ne_of_lt hlt]
    · by_cases he : i = address
      · have hn : ¬ address + 1 ≤ address := by omega
        simp [he, hn]
      · have hle : address + 1 ≤ i := by omega
        have hi : i - address = (i - (address + 1)) + 1 := by omega
        simp [hle, he, hi, Nat.le_of_succ_le hle]

/-- What was written inside memory is read back. -/
theorem read_write (m : Memory) (bytes : Bytes) {address : Nat}
    (h : address + bytes.length ≤ m.size) :
    (m.write address bytes).read address bytes.length = bytes := by
  apply List.ext_getElem
  · simp [read]
  · intro i _ hi
    simp [read, byte_write m bytes h, hi]

theorem length_read (m : Memory) (address length : Nat) :
    (m.read address length).length = length := by
  simp [read]

theorem read_eq (m : Memory) {address length : Nat} (h : address + length ≤ m.size) :
    m.read address length = ((m.read 0 m.size).drop address).take length := by
  apply List.ext_getElem
  · simp [read]
    omega
  · intro i _ _
    simp [read]

theorem octets_write (m : Memory) (bytes : Bytes) {address : Nat}
    (h : address + bytes.length ≤ m.size) :
    (m.write address bytes).read 0 (m.write address bytes).size =
      patched (m.read 0 m.size) address bytes := by
  rw [size_write]
  apply List.ext_getElem?
  intro i
  have hl : address + bytes.length ≤ (m.read 0 m.size).length := by
    simpa [read] using h
  rw [getElem?_patched hl]
  by_cases hi : i < m.size
  · by_cases ha : address ≤ i
    · by_cases hb : i < address + bytes.length
      · have hb' : i - address < bytes.length := by omega
        simp [read, byte_write m bytes h, hi, ha, hb, hb']
      · have hb' : bytes.length ≤ i - address := by omega
        simp [read, byte_write m bytes h, hi, ha, hb, hb']
    · simp [read, byte_write m bytes h, hi, ha]
  · have hb : ¬ (address ≤ i ∧ i < address + bytes.length) := by omega
    simp [read, hi, hb]

end Memory

theorem engine_size (s : State) (memory : Nat) :
    engine.size s memory = ((s.memories[memory]?).map Memory.size).getD 0 := by
  simp [Guest.size, engine, List.getD]

theorem engine_read (s : State) (memory address length : Nat) :
    engine.read s memory address length =
      ((s.memories[memory]?).map fun m => m.read address length).getD [] := rfl

theorem engine_octets (s : State) (memory : Nat) :
    engine.octets s memory = ((s.memories[memory]?).map fun m => m.read 0 m.size).getD [] := by
  unfold Guest.octets
  rw [engine_size, engine_read]
  cases s.memories[memory]? with
  | none => rw [Option.map_none, Option.map_none]
  | some m => rw [Option.map_some, Option.getD_some, Option.map_some, Option.map_some,
      Option.getD_some, Option.getD_some]

theorem getElem?_onMemory (s : State) (memory other : Nat) (f : Memory → Memory) :
    (s.onMemory memory f).memories[other]? =
      if memory = other then (s.memories[memory]?).map f else s.memories[other]? := by
  rw [State.onMemory, Array.getElem?_modify]
  by_cases h : memory = other
  · rw [if_pos h, if_pos h, h]
  · rw [if_neg h, if_neg h]

theorem engine_faithful : engine.Faithful where
  read_write := by
    intro s memory address bytes h
    change State at s
    rw [engine_size] at h
    change engine.read (s.onMemory memory fun m => m.write address bytes) _ _ _ = _
    rw [engine_read, getElem?_onMemory, if_pos rfl]
    cases hm : s.memories[memory]? with
    | none =>
      rw [hm, Option.map_none, Option.getD_none] at h
      have hn : bytes = [] := List.length_eq_zero_iff.mp (by omega)
      simp [hn]
    | some m =>
      rw [hm, Option.map_some, Option.getD_some] at h
      rw [Option.map_some, Option.map_some, Option.getD_some, m.read_write bytes h]

theorem engine_flat : engine.Flat where
  length_octets := by
    intro s memory
    change State at s
    rw [engine_octets, engine_size]
    cases s.memories[memory]? with
    | none => rw [Option.map_none, Option.map_none, Option.getD_none, Option.getD_none,
        List.length_nil]
    | some m => rw [Option.map_some, Option.map_some, Option.getD_some, Option.getD_some,
        m.length_read]
  read_eq := by
    intro s memory address length h
    change State at s
    rw [engine_size] at h
    rw [engine_octets, engine_read]
    cases hm : s.memories[memory]? with
    | none => simp
    | some m =>
      rw [hm, Option.map_some, Option.getD_some] at h
      rw [Option.map_some, Option.map_some, Option.getD_some, Option.getD_some, m.read_eq h]
  octets_write := by
    intro s memory address bytes h
    change State at s
    rw [engine_size] at h
    change engine.octets (s.onMemory memory fun m => m.write address bytes) memory = _
    rw [engine_octets, engine_octets, getElem?_onMemory, if_pos rfl]
    cases hm : s.memories[memory]? with
    | none =>
      rw [hm, Option.map_none, Option.getD_none] at h
      have hn : bytes = [] := List.length_eq_zero_iff.mp (by omega)
      simp [patched, hn]
    | some m =>
      rw [hm, Option.map_some, Option.getD_some] at h
      rw [Option.map_some, Option.map_some, Option.map_some, Option.getD_some, Option.getD_some,
        m.octets_write bytes h]
  octets_elsewhere := by
    intro s memory other address bytes hn
    change State at s
    change engine.octets (s.onMemory memory fun m => m.write address bytes) other = _
    rw [engine_octets, engine_octets, getElem?_onMemory, if_neg (Ne.symm hn)]

end Wasm

end PluginHost
