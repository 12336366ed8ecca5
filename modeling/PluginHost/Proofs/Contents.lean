import Mathlib.Algebra.BigOperators.Group.Finset.Basic
import PluginHost.Proofs.Record
/-!
The variables of a plugin as a finite map. A run of uses follows the map if each use is answered as
the map before it says, and changes the map as it should; the variables that are kept, entry by
entry with a running count of octets, do so under every limit.
-/
namespace PluginHost

structure Contents where
  keys : Finset String
  /-- No octets stand for a key without a value. -/
  octets : String → Bytes
  mem_keys : ∀ key, key ∈ keys ↔ octets key ≠ []

namespace Contents

def empty : Contents := ⟨∅, fun _ => [], by simp⟩

def lookup (c : Contents) (key : String) : Option Bytes :=
  if c.octets key = [] then none else some (c.octets key)

def others (c : Contents) (key : String) : Nat :=
  ∑ k ∈ c.keys.erase key, Variables.entrySize k (c.octets k)

/-- The map with another value under a key; an empty value removes the key. -/
def assign (c : Contents) (key : String) (value : Bytes) : Contents where
  keys := if value = [] then c.keys.erase key else insert key c.keys
  octets := Function.update c.octets key value
  mem_keys := by
    intro k
    by_cases hk : k = key
    · subst hk
      by_cases hv : value = [] <;> simp [hv]
    · by_cases hv : value = [] <;> simp [hv, hk, c.mem_keys]

theorem lookup_assign (c : Contents) (key k : String) (value : Bytes) :
    (c.assign key value).lookup k =
      if k = key then (if value = [] then none else some value) else c.lookup k := by
  unfold lookup assign
  by_cases hk : k = key
  · simp [hk]
  · simp [hk]

/-- How a use is answered under a limit, and what it makes of the map. Removing a key always goes
well; a value is stored exactly where it fits beside the other entries. -/
inductive Step (limit : Nat) : Contents → VariableUse → Contents → Prop
  | removed (c : Contents) (key : String) :
      Step limit c (.assigned key [] true) (c.assign key [])
  | stored (c : Contents) (key : String) (value : Bytes) (nonempty : value ≠ [])
      (room : c.others key + Variables.entrySize key value ≤ limit) :
      Step limit c (.assigned key value true) (c.assign key value)
  | refused (c : Contents) (key : String) (value : Bytes) (nonempty : value ≠ [])
      (full : limit < c.others key + Variables.entrySize key value) :
      Step limit c (.assigned key value false) c
  | lookedUp (c : Contents) (key : String) : Step limit c (.lookedUp key (c.lookup key)) c
  | cleared (c : Contents) : Step limit c .cleared empty

inductive Follows (limit : Nat) : Contents → List VariableUse → Contents → Prop
  | refl (c : Contents) : Follows limit c [] c
  | cons {c c₁ c₂ : Contents} {u : VariableUse} {us : List VariableUse} (step : Step limit c u c₁)
      (rest : Follows limit c₁ us c₂) : Follows limit c (u :: us) c₂

namespace Follows
variable {limit : Nat} {c c₁ c₂ : Contents} {us vs : List VariableUse} {u : VariableUse}

theorem single (h : Step limit c u c₁) : Follows limit c [u] c₁ := .cons h (.refl c₁)

theorem trans (h : Follows limit c us c₁) (h' : Follows limit c₁ vs c₂) :
    Follows limit c (us ++ vs) c₂ := by
  induction h with
  | refl => exact h'
  | cons step _ ih => exact .cons step (ih h')

theorem of_append (h : Follows limit c (us ++ vs) c₂) :
    ∃ c₁, Follows limit c us c₁ ∧ Follows limit c₁ vs c₂ := by
  induction us generalizing c with
  | nil => exact ⟨c, .refl c, h⟩
  | cons u us ih =>
    cases h with
    | cons step rest =>
      obtain ⟨c₁, h₁, h₂⟩ := ih rest
      exact ⟨c₁, .cons step h₁, h₂⟩

end Follows

end Contents

namespace VariableUse

def settles (key : String) : VariableUse → Option (Option Bytes)
  | .assigned k value true =>
    if k = key then some (if value = [] then none else some value) else none
  | .cleared => some none
  | _ => none

/-- The value that uses leave a key with: that of the last set that went well, unless the key was
removed since. -/
def latest (key : String) (us : List VariableUse) : Option Bytes :=
  (us.filterMap (settles key)).getLast?.join

end VariableUse

namespace Contents
variable {limit : Nat}

theorem Step.lookup_eq {c c₁ : Contents} {u : VariableUse} (h : Step limit c u c₁)
    (key : String) : c₁.lookup key = (u.settles key).getD (c.lookup key) := by
  cases h with
  | removed k =>
    rw [lookup_assign]
    by_cases hk : k = key
    · simp [VariableUse.settles, hk]
    · simp [VariableUse.settles, hk, Ne.symm hk]
  | stored k value nonempty room =>
    rw [lookup_assign]
    by_cases hk : k = key
    · simp [VariableUse.settles, hk]
    · simp [VariableUse.settles, hk, Ne.symm hk]
  | refused => rfl
  | lookedUp => rfl
  | cleared => simp [VariableUse.settles, empty, lookup]

theorem Follows.lookup_eq {c c₁ : Contents} {us : List VariableUse} (h : Follows limit c us c₁)
    (key : String) :
    c₁.lookup key = (us.filterMap (VariableUse.settles key)).getLast?.getD (c.lookup key) := by
  induction h with
  | refl => rfl
  | cons step rest ih =>
    rename_i c c₂ c₁ u us
    rw [ih, step.lookup_eq]
    cases hu : u.settles key with
    | none => simp [hu]
    | some v =>
      simp only [List.filterMap_cons, hu, Option.getD_some]
      cases hs : (us.filterMap (VariableUse.settles key)).getLast? with
      | none =>
        rw [List.getLast?_eq_none_iff] at hs
        simp [hs]
      | some w => simp [List.getLast?_cons, hs]

/-- A lookup finds the last value that was set. -/
theorem Follows.found {c : Contents} {us vs : List VariableUse} {key : String}
    {value : Option Bytes} (h : Follows limit .empty (us ++ .lookedUp key value :: vs) c) :
    value = VariableUse.latest key us := by
  obtain ⟨c₁, h₁, h₂⟩ := h.of_append
  have hl := h₁.lookup_eq key
  cases h₂ with
  | cons step rest =>
    cases step with
    | lookedUp =>
      rw [hl]
      unfold VariableUse.latest
      cases (us.filterMap (VariableUse.settles key)).getLast? <;> rfl

end Contents

namespace Variables

def sizes (entries : List (String × Bytes)) : Nat :=
  total (entries.map fun e => entrySize e.1 e.2)

/-- Variables that are in order: each key once, no value empty, and the count of octets is what all
entries take, at most the limit. -/
structure Sound (limit : Nat) (v : Variables) : Prop where
  limited : v.limit = limit
  distinct : (v.entries.map Prod.fst).Nodup
  nonempty : ∀ e ∈ v.entries, e.2 ≠ []
  counted : v.bytes = sizes v.entries
  within : v.bytes ≤ limit

def Holds (v : Variables) (c : Contents) : Prop := ∀ key, v.get? key = c.lookup key

theorem mem_keys_iff (entries : List (String × Bytes)) (key : String) :
    key ∈ entries.map Prod.fst ↔ entries.lookup key ≠ none := by
  rw [ne_eq, List.lookup_eq_none_iff]
  simp only [List.mem_map, Prod.exists, exists_and_right, exists_eq_right]
  grind

theorem lookup_cons_ne {j k : String} (h : k ≠ j) (v : Bytes) (entries : List (String × Bytes)) :
    ((j, v) :: entries).lookup k = entries.lookup k := by
  rw [List.lookup_cons, beq_eq_false_iff_ne.mpr h]

theorem lookup_filter (entries : List (String × Bytes)) (key k : String) :
    (entries.filter fun e => e.1 ≠ key).lookup k =
      if k = key then none else entries.lookup k := by
  induction entries with
  | nil => simp
  | cons e entries ih =>
    obtain ⟨j, v⟩ := e
    by_cases hj : j = key
    · subst hj
      have hf : ((j, v) :: entries).filter (fun e => e.1 ≠ j) =
          entries.filter fun e => e.1 ≠ j := by simp
      rw [hf, ih]
      by_cases hk : k = j
      · simp [hk]
      · rw [if_neg hk, if_neg hk, lookup_cons_ne hk]
    · have hf : ((j, v) :: entries).filter (fun e => e.1 ≠ key) =
          (j, v) :: entries.filter fun e => e.1 ≠ key := by simp [hj]
      rw [hf]
      by_cases hk : k = j
      · have hn : k ≠ key := by
          rw [hk]
          exact hj
        rw [if_neg hn, hk, List.lookup_cons_self, List.lookup_cons_self]
      · rw [lookup_cons_ne hk, lookup_cons_ne hk, ih]

theorem sizes_cons (key : String) (value : Bytes) (entries : List (String × Bytes)) :
    sizes ((key, value) :: entries) = entrySize key value + sizes entries := rfl

/-- What a key takes beside the other entries. -/
theorem sizes_filter {entries : List (String × Bytes)} (hd : (entries.map Prod.fst).Nodup)
    (key : String) :
    sizes entries = sizes (entries.filter fun e => e.1 ≠ key) +
      ((entries.lookup key).map (entrySize key)).getD 0 := by
  -- The key occurs at most once, so nothing is filtered out behind it.
  induction entries with
  | nil => rfl
  | cons e entries ih =>
    obtain ⟨j, v⟩ := e
    rw [List.map_cons, List.nodup_cons] at hd
    have hi := ih hd.2
    by_cases hj : j = key
    · subst hj
      have hn : entries.lookup j = none := by
        by_contra hl
        exact hd.1 ((mem_keys_iff entries j).mpr hl)
      have hf : ((j, v) :: entries).filter (fun e => e.1 ≠ j) =
          entries.filter fun e => e.1 ≠ j := by simp
      rw [hn, Option.map_none, Option.getD_none, Nat.add_zero] at hi
      rw [hf, sizes_cons, hi, List.lookup_cons_self, Option.map_some, Option.getD_some,
        Nat.add_comm]
    · have hf : ((j, v) :: entries).filter (fun e => e.1 ≠ key) =
          (j, v) :: entries.filter fun e => e.1 ≠ key := by simp [hj]
      rw [hf, lookup_cons_ne (Ne.symm hj), sizes_cons, sizes_cons, hi, Nat.add_assoc]

/-- What entries take is the sum over their keys. -/
theorem sizes_eq_sum {entries : List (String × Bytes)} (hd : (entries.map Prod.fst).Nodup) :
    sizes entries =
      ∑ k ∈ (entries.map Prod.fst).toFinset, entrySize k ((entries.lookup k).getD []) := by
  induction entries with
  | nil => rfl
  | cons e entries ih =>
    obtain ⟨j, v⟩ := e
    rw [List.map_cons, List.nodup_cons] at hd
    have hj : j ∉ (entries.map Prod.fst).toFinset := by
      rw [List.mem_toFinset]
      exact hd.1
    rw [List.map_cons, List.toFinset_cons, Finset.sum_insert hj, sizes_cons, ih hd.2,
      List.lookup_cons_self, Option.getD_some]
    congr 1
    refine Finset.sum_congr rfl fun k hk => ?_
    have hn : k ≠ j := by
      intro he
      exact hj (he ▸ hk)
    rw [lookup_cons_ne hn]

variable {limit : Nat} {v v' : Variables} {c : Contents} {key : String} {value : Bytes}

theorem sound_empty (limit : Nat) : (Variables.empty limit).Sound limit :=
  ⟨rfl, .nil, nofun, rfl, Nat.zero_le _⟩

theorem holds_empty (limit : Nat) : (Variables.empty limit).Holds .empty := fun _ => rfl

theorem sizes_others (h : v.Sound limit) (key : String) :
    v.bytes = sizes (v.others key) + v.sizeOf key := by
  rw [h.counted]
  exact sizes_filter h.distinct key

/-- The count of octets never falls below zero. -/
theorem Sound.sizeOf_le (h : v.Sound limit) (key : String) : v.sizeOf key ≤ v.bytes := by
  rw [sizes_others h key]
  exact Nat.le_add_left ..

theorem Holds.octets_eq (hc : v.Holds c) (key : String) :
    (v.get? key).getD [] = c.octets key := by
  rw [hc key]
  unfold Contents.lookup
  split
  · rename_i h
    rw [h]
    rfl
  · rfl

theorem get?_others (v : Variables) (key k : String) :
    (v.others key).lookup k = if k = key then none else v.get? k := lookup_filter ..

theorem Sound.others_distinct (h : v.Sound limit) (key : String) :
    ((v.others key).map Prod.fst).Nodup := h.distinct.sublist (.map _ List.filter_sublist)

/-- Beside a key, the entries take what the map says. -/
theorem Holds.others (h : v.Sound limit) (hc : v.Holds c) (key : String) :
    sizes (v.others key) = c.others key := by
  have hk : ((v.others key).map Prod.fst).toFinset = c.keys.erase key := by
    ext k
    rw [List.mem_toFinset, mem_keys_iff, get?_others, Finset.mem_erase, c.mem_keys, hc k]
    unfold Contents.lookup
    by_cases hn : k = key <;> simp [hn]
  rw [sizes_eq_sum (h.others_distinct key), hk]
  refine Finset.sum_congr rfl fun k hm => ?_
  rw [get?_others, if_neg (Finset.ne_of_mem_erase hm), hc.octets_eq]

theorem Sound.others_nonempty (h : v.Sound limit) (key : String) :
    ∀ e ∈ v.others key, e.2 ≠ [] := fun e he => h.nonempty e (List.mem_of_mem_filter he)

theorem Sound.get?_nonempty (h : v.Sound limit) (hv : v.get? key = some value) : value ≠ [] := by
  obtain ⟨before, behind, he, -⟩ := List.lookup_eq_some_iff.mp hv
  exact h.nonempty (key, value) (by simp [he])

theorem Sound.erase (h : v.Sound limit) (key : String) : (v.erase key).Sound limit where
  limited := h.limited
  distinct := h.others_distinct key
  nonempty := h.others_nonempty key
  counted := by
    have hs := sizes_others h key
    change v.bytes - v.sizeOf key = sizes (v.others key)
    omega
  within := Nat.le_trans (Nat.sub_le ..) h.within

theorem Holds.erase (hc : v.Holds c) (key : String) : (v.erase key).Holds (c.assign key []) := by
  intro k
  rw [Contents.lookup_assign, if_pos rfl]
  change (v.others key).lookup k = _
  rw [get?_others, hc k]

theorem set_nil (v : Variables) (key : String) : v.set key [] = .ok (v.erase key) := rfl

def stored (v : Variables) (key : String) (value : Bytes) : Variables :=
  { v with
    entries := (key, value) :: v.others key
    bytes := sizes (v.others key) + entrySize key value }

/-- Storing a value that fits beside the others leaves the variables in order. -/
theorem Sound.stored (h : v.Sound limit) (hn : value ≠ [])
    (hroom : sizes (v.others key) + entrySize key value ≤ limit) :
    (v.stored key value).Sound limit where
  limited := h.limited
  distinct := by
    refine List.nodup_cons.mpr ⟨fun hm => ?_, h.others_distinct key⟩
    refine (mem_keys_iff _ key).mp hm ?_
    rw [get?_others, if_pos rfl]
  nonempty := by
    intro e he
    cases he with
    | head => exact hn
    | tail _ he => exact h.others_nonempty key e he
  counted := by
    change _ = sizes ((key, value) :: v.others key)
    rw [sizes_cons, Nat.add_comm]
    rfl
  within := hroom

theorem Holds.stored (hc : v.Holds c) (hn : value ≠ []) :
    (v.stored key value).Holds (c.assign key value) := by
  intro k
  rw [Contents.lookup_assign]
  change ((key, value) :: v.others key).lookup k = _
  by_cases hk : k = key
  · rw [if_pos hk, if_neg hn, hk, List.lookup_cons_self]
  · rw [if_neg hk, lookup_cons_ne hk, get?_others, if_neg hk, hc k]

theorem Sound.set_eq (h : v.Sound limit) (hn : value ≠ []) :
    v.set key value =
      if limit < sizes (v.others key) + entrySize key value then
        .error (overflow key (sizes (v.others key) + entrySize key value) limit)
      else .ok (v.stored key value) := by
  have hb : v.bytes - v.sizeOf key = sizes (v.others key) := by
    have hs := sizes_others h key
    omega
  have he : value.isEmpty = false := by simpa using hn
  obtain rfl := h.limited
  unfold set
  rw [he, hb]
  rfl

/-- Setting a variable that goes well is a step of the map. -/
theorem Sound.of_set (h : v.Sound limit) (hs : v.set key value = .ok v') :
    v'.Sound limit ∧ ∀ c, v.Holds c →
      Contents.Step limit c (.assigned key value true) (c.assign key value) ∧
        v'.Holds (c.assign key value) := by
  by_cases hn : value = []
  · subst hn
    rw [set_nil] at hs
    cases hs
    exact ⟨h.erase key, fun c hc => ⟨.removed c key, hc.erase key⟩⟩
  · rw [h.set_eq hn] at hs
    split at hs
    · cases hs
    · rename_i hl
      cases hs
      have hroom := Nat.le_of_not_lt hl
      refine ⟨h.stored hn hroom, fun c hc => ⟨.stored c key value hn ?_, hc.stored hn⟩⟩
      rwa [hc.others h] at hroom

theorem Sound.of_set_error {e : Failure} (h : v.Sound limit) (hs : v.set key value = .error e)
    (hc : v.Holds c) : Contents.Step limit c (.assigned key value false) c := by
  by_cases hn : value = []
  · subst hn
    cases hs
  · rw [h.set_eq hn] at hs
    split at hs
    · rename_i hl
      rw [hc.others h] at hl
      exact .refused c key value hn hl
    · cases hs

theorem Sound.clear (h : v.Sound limit) : v.clear.Sound limit :=
  ⟨h.limited, .nil, nofun, rfl, Nat.zero_le _⟩

end Variables

end PluginHost
