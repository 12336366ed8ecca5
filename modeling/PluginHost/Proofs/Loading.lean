import PluginHost.Proofs.HostTypes
import PluginHost.Proofs.Introspection
/-!
What the engine's checks say of a module that it loads. The host hands over numbers, strings of
octets and two kinds of references; as no proposal is allowed, no function of a loaded module, and
none that it imports, has a type in which anything else occurs.
-/
namespace PluginHost.Wasm
variable {α β : Type}

namespace Reader

theorem of_bind {p : Reader α} {f : α → Reader β} {bytes rest : Bytes} {b : β}
    (h : (p >>= f).run bytes = .ok (b, rest)) :
    ∃ a bytes', p.run bytes = .ok (a, bytes') ∧ (f a).run bytes' = .ok (b, rest) := by
  rw [StateT.run_bind] at h
  obtain ⟨⟨a, bytes'⟩, ha, hb⟩ := Typing.of_bind_ok h
  exact ⟨a, bytes', ha, hb⟩

theorem of_pure {a b : α} {bytes rest : Bytes} (h : (pure a : Reader α).run bytes = .ok (b, rest)) :
    a = b := congrArg Prod.fst (Except.ok.inj h)

theorem not_throw {e : Fault} {a : α} {bytes rest : Bytes} :
    (throw e : Reader α).run bytes ≠ .ok (a, rest) := nofun

theorem of_whole {p : Reader α} {bytes : Bytes} {a : α} (h : whole p bytes = .ok a) :
    ∃ rest, p.run bytes = .ok (a, rest) := by
  obtain ⟨⟨a', rest⟩, ha, hr⟩ := Typing.of_bind_ok h
  dsimp only at hr
  split at hr
  · obtain rfl := Except.ok.inj hr
    exact ⟨rest, ha⟩
  · cases hr

end Reader

theorem total_append (ns ks : List Nat) : total (ns ++ ks) = total ns + total ks := by
  induction ns with
  | nil => exact (Nat.zero_add _).symm
  | cons n ns ih => rw [List.cons_append, total, total, ih, Nat.add_assoc]

theorem total_reverse (ns : List Nat) : total ns.reverse = total ns := by
  induction ns with
  | nil => rfl
  | cons n ns ih =>
    rw [List.reverse_cons, total_append, ih, total, total, total, Nat.add_zero, Nat.add_comm]

def Module.Grouped (m : Module) : Prop := total (m.groups.map TypeGroup.size) = m.types.size

namespace Binary
open Reader

theorem typeGroup_size {bytes rest : Bytes} {g : TypeGroup} {ts : List SubType}
    (h : typeGroup.run bytes = .ok ((g, ts), rest)) : ts.length = g.size := by
  unfold typeGroup at h
  obtain ⟨b, bytes', -, h⟩ := of_bind h
  split at h
  · obtain ⟨ts', bytes₁, -, h⟩ := of_bind h
    obtain ⟨rfl, rfl⟩ := Prod.mk.inj (of_pure h)
    rfl
  · obtain ⟨t, bytes₁, -, h⟩ := of_bind h
    obtain ⟨rfl, rfl⟩ := Prod.mk.inj (of_pure h)
    rfl

theorem typeGroups_sum (n : Nat) {types types' : Array SubType} {groups groups' : List TypeGroup}
    {bytes rest : Bytes} (hs : total (groups.map TypeGroup.size) = types.size)
    (h : (typeGroups types groups n).run bytes = .ok ((types', groups'), rest)) :
    total (groups'.map TypeGroup.size) = types'.size := by
  induction n generalizing types groups bytes with
  | zero =>
    obtain ⟨rfl, rfl⟩ := Prod.mk.inj (of_pure h)
    rw [List.map_reverse, total_reverse]
    exact hs
  | succ n ih =>
    unfold typeGroups at h
    obtain ⟨⟨g, ts⟩, bytes', hg, h⟩ := of_bind h
    have hn : ts.length = g.size := typeGroup_size hg
    dsimp only at h
    split at h
    · obtain ⟨_, _, he, -⟩ := of_bind h
      exact absurd he not_throw
    · refine ih ?_ h
      rw [List.map_cons, total, hs, ← hn]
      simp [Nat.add_comm]

theorem types_sum {types : Array SubType} {groups : List TypeGroup} {bytes rest : Bytes}
    (h : Binary.types.run bytes = .ok ((types, groups), rest)) :
    total (groups.map TypeGroup.size) = types.size := by
  unfold Binary.types at h
  obtain ⟨n, bytes₁, -, h⟩ := of_bind h
  split at h
  · obtain ⟨_, _, he, -⟩ := of_bind h
    exact absurd he not_throw
  · exact typeGroups_sum n rfl h

theorem section_grouped {id : Nat} {m m' : Module} {p : Reader Module} {bytes rest : Bytes}
    (hm : m.Grouped) (hp : section? id m = some p) (h : p.run bytes = .ok (m', rest)) :
    m'.Grouped := by
  unfold section? at hp
  split at hp
  case h_1 =>
    obtain rfl := Option.some.inj hp
    obtain ⟨⟨types, groups⟩, bytes', ht, h⟩ := of_bind h
    obtain rfl := of_pure h
    exact types_sum ht
  case h_12 =>
    obtain rfl := Option.some.inj hp
    obtain ⟨n, bytes', -, h⟩ := of_bind h
    split at h
    · obtain ⟨_, _, he, -⟩ := of_bind h
      exact absurd he not_throw
    · obtain rfl := of_pure h
      exact hm
  case h_14 => cases hp
  all_goals
    obtain rfl := Option.some.inj hp
    obtain ⟨_, _, -, h⟩ := of_bind h
    obtain rfl := of_pure h
    exact hm

theorem sections_grouped (bound : Nat) {m m' : Module} {last : Nat} {bytes rest : Bytes}
    (hm : m.Grouped) (h : (sections m last bound).run bytes = .ok (m', rest)) : m'.Grouped := by
  induction bound generalizing m last bytes with
  | zero => exact absurd h not_throw
  | succ bound ih =>
    unfold sections at h
    obtain ⟨e, _, -, h⟩ := of_bind h
    split at h
    · obtain rfl := of_pure h
      exact hm
    · obtain ⟨id, _, -, h⟩ := of_bind h
      obtain ⟨n, _, -, h⟩ := of_bind h
      obtain ⟨body, _, -, h⟩ := of_bind h
      dsimp only at h
      split at h
      · split at h
        · exact ih hm h
        · exact absurd h not_throw
      · split at h
        · exact absurd h not_throw
        · rename_i p hp
          split at h
          · obtain ⟨_, _, he, -⟩ := of_bind h
            exact absurd he not_throw
          · split at h
            · rename_i m₁ hw
              obtain ⟨_, hr⟩ := of_whole hw
              exact ih (section_grouped hm hp hr) h
            · exact absurd h not_throw

theorem module_grouped {m : Module} {bytes rest : Bytes}
    (h : Binary.module.run bytes = .ok (m, rest)) : m.Grouped := by
  unfold Binary.module at h
  obtain ⟨_, _, -, h⟩ := of_bind h
  obtain ⟨_, _, -, h⟩ := of_bind h
  split at h
  · obtain ⟨_, _, he, -⟩ := of_bind h
    exact absurd he not_throw
  · obtain ⟨_, _, -, h⟩ := of_bind h
    obtain ⟨m', _, hm, h⟩ := of_bind h
    have hg : m'.Grouped := sections_grouped _ (show Module.Grouped {} from rfl) hm
    dsimp only at h
    split at h
    · obtain ⟨_, _, he, -⟩ := of_bind h
      exact absurd he not_throw
    · split at h
      · obtain ⟨_, _, he, -⟩ := of_bind h
        exact absurd he not_throw
      · obtain rfl := of_pure h
        exact hg

theorem contents_grouped {m : Module} {bytes : Bytes}
    (h : whole contents bytes = .ok (.module m)) : m.Grouped := by
  obtain ⟨rest, h⟩ := of_whole h
  unfold contents at h
  obtain ⟨_, _, -, h⟩ := of_bind h
  obtain ⟨_, _, -, h⟩ := of_bind h
  obtain ⟨_, _, -, h⟩ := of_bind h
  split at h
  · obtain ⟨_, _, -, h⟩ := of_bind h
    cases of_pure h
  · obtain ⟨_, _, -, h⟩ := of_bind h
    obtain ⟨m', _, hm, h⟩ := of_bind h
    obtain rfl := Contents.module.inj (of_pure h)
    exact module_grouped hm

end Binary

def functionType (params results : List ValType) : SubType :=
  ⟨true, none, ⟨false, .function ⟨params, results⟩⟩⟩

/-! Types without the names that they call each other by. -/

theorem HeapType.mapIndex_mapIndex (f g : Nat → Nat) (h : HeapType) :
    (h.mapIndex f).mapIndex g = h.mapIndex (g ∘ f) := by
  cases h <;> rfl

theorem ValType.mapIndex_mapIndex (f g : Nat → Nat) (t : ValType) :
    (t.mapIndex f).mapIndex g = t.mapIndex (g ∘ f) := by
  cases t with
  | ref r => simp [ValType.mapIndex, RefType.mapIndex, HeapType.mapIndex_mapIndex]
  | _ => rfl

theorem FuncType.mapIndices_mapIndices (f g : Nat → Nat) (t : FuncType) :
    (t.mapIndices f).mapIndices g = t.mapIndices (g ∘ f) := by
  simp [FuncType.mapIndices, ValType.mapIndex_mapIndex, Function.comp_def]

theorem FieldType.mapIndex_mapIndex (f g : Nat → Nat) (t : FieldType) :
    (t.mapIndex f).mapIndex g = t.mapIndex (g ∘ f) := by
  obtain ⟨storage, mutable⟩ := t
  cases storage with
  | value v => simp [FieldType.mapIndex, ValType.mapIndex_mapIndex]
  | _ => rfl

theorem Shape.mapIndices_mapIndices (f g : Nat → Nat) (s : Shape) :
    (s.mapIndices f).mapIndices g = s.mapIndices (g ∘ f) := by
  cases s <;>
    simp [Shape.mapIndices, FuncType.mapIndices_mapIndices, FieldType.mapIndex_mapIndex,
      Function.comp_def]

theorem SubType.mapIndices_mapIndices (f g : Nat → Nat) (t : SubType) :
    (t.mapIndices f).mapIndices g = t.mapIndices (g ∘ f) := by
  simp [SubType.mapIndices, Shape.mapIndices_mapIndices]

def SubType.outline (t : SubType) : SubType := t.mapIndices fun _ => 0

@[simp] theorem SubType.outline_mapIndices (f : Nat → Nat) (t : SubType) :
    (t.mapIndices f).outline = t.outline := t.mapIndices_mapIndices f _

@[simp] theorem ValType.toValueType_mapIndex (f : Nat → Nat) (t : ValType) :
    (t.mapIndex f).toValueType = t.toValueType := by
  cases t with
  | ref r =>
    obtain ⟨nullable, heap⟩ := r
    cases heap <;> simp [ValType.mapIndex, RefType.mapIndex, HeapType.mapIndex, ValType.toValueType,
      RefType.funcref, RefType.externref, RefType.ofKind]
  | _ => rfl

@[simp] theorem FuncType.signature_mapIndices (f : Nat → Nat) (t : FuncType) :
    (t.mapIndices f).signature = t.signature := by
  simp [FuncType.mapIndices, FuncType.signature, Function.comp_def]

def SubType.signature? (t : SubType) : Option Signature :=
  match t.body.shape with
  | .function f => some f.signature
  | _ => none

@[simp] theorem SubType.signature?_mapIndices (f : Nat → Nat) (t : SubType) :
    (t.mapIndices f).signature? = t.signature? := by
  obtain ⟨final, parent, shared, shape⟩ := t
  cases shape <;> simp [SubType.signature?, SubType.mapIndices, Shape.mapIndices]

namespace Typing

namespace Types

def Holds (t : Types) (first : Nat) (types : List SubType) : Prop :=
  ∀ k s, types[k]? = some s → ∃ e, t.entries[first + k]? = some e ∧ e.outline = s.outline

structure Knows (t : Types) (types : List SubType) : Prop where
  count : t.ids.size = types.length
  named : ∀ k s, types[k]? = some s → ∃ e, t.entries[t.id k]? = some e ∧ e.outline = s.outline
  seen : ∀ key first, t.seen.get? key = some first → t.Holds first key

variable {t : Types} {types group : List SubType}

theorem Holds.push (h : t.Holds first types) (t' : Types) (es : Array SubType)
    (he : t'.entries = t.entries ++ es) : t'.Holds first types := by
  intro k s hs
  obtain ⟨e, hk, ho⟩ := h k s hs
  refine ⟨e, ?_, ho⟩
  rw [he, Array.getElem?_append_left (Array.getElem?_eq_some_iff.mp hk).1, hk]

theorem knows_empty : Knows {} [] where
  count := rfl
  named k s hs := by simp at hs
  seen key first h := by simp at h

/-- The types of a group get identities in a row, from a place on where the table holds them. -/
theorem Knows.extend (h : t.Knows types) {t' : Types} {first : Nat} {es : Array SubType}
    (hi : t'.ids = t.ids ++ (Array.range group.length).map (first + ·))
    (he : t'.entries = t.entries ++ es) (hg : t'.Holds first group)
    (hs : ∀ key first, t'.seen.get? key = some first → t'.Holds first key) :
    t'.Knows (types ++ group) where
  count := by simp [hi, h.count]
  named := by
    intro k s hk
    by_cases hl : k < types.length
    · rw [List.getElem?_append_left hl] at hk
      have hid : t'.id k = t.id k := by
        simp [id, hi, Array.getElem?_append_left (h.count.symm ▸ hl : k < t.ids.size)]
      obtain ⟨e, hn, ho⟩ := h.named k s hk
      refine ⟨e, ?_, ho⟩
      rw [hid, he, Array.getElem?_append_left (Array.getElem?_eq_some_iff.mp hn).1, hn]
    · have hl : types.length ≤ k := Nat.le_of_not_lt hl
      rw [List.getElem?_append_right hl] at hk
      have hb : k - types.length < group.length := (List.getElem?_eq_some_iff.mp hk).1
      have hid : t'.id k = first + (k - types.length) := by
        simp [id, hi, Array.getElem?_append_right (h.count.symm ▸ hl : t.ids.size ≤ k), h.count,
          hb]
      rw [hid]
      exact hg _ s hk
  seen := hs

theorem Holds.congr {first : Nat} (h : t.Holds first types)
    (ho : types.map SubType.outline = group.map SubType.outline) : t.Holds first group := by
  intro k s hs
  have hk := congrArg (·[k]?) ho
  simp only [List.getElem?_map, hs, Option.map_some, Option.map_eq_some_iff] at hk
  obtain ⟨s', hs', hso⟩ := hk
  obtain ⟨e, he, heo⟩ := h k s' hs'
  exact ⟨e, he, heo.trans hso⟩

theorem holds_appended {t' : Types} (he : t'.entries = t.entries ++ group.toArray) :
    t'.Holds t.entries.size group := by
  intro k s hs
  refine ⟨s, ?_, rfl⟩
  rw [he, Array.getElem?_append_right (Nat.le_add_right ..), Nat.add_sub_cancel_left]
  simpa using hs

theorem Knows.addGroup (h : t.Knows types) (group : List SubType) :
    (t.addGroup group).Knows (types ++ group) := by
  unfold Types.addGroup
  dsimp only
  split
  · rename_i first hf
    have hg : t.Holds first group :=
      (h.seen _ first hf).congr (by simp [Function.comp_def])
    exact h.extend rfl (Array.append_empty ..).symm hg h.seen
  · refine h.extend rfl rfl ((holds_appended rfl).congr (by simp [Function.comp_def])) ?_
    intro key first hk
    simp only [Std.HashMap.get?_eq_getElem?, Std.HashMap.getElem?_insert] at hk
    split at hk
    · rename_i hkey
      obtain rfl := eq_of_beq hkey
      obtain rfl := Option.some.inj hk
      exact (holds_appended rfl).congr (by simp [Function.comp_def])
    · exact (h.seen key first hk).push _ _ rfl

def addNext (types : Array SubType) : Types × Nat → TypeGroup → Except Fault (Types × Nat)
  | (t, next), g => do
    let group := (types.extract next (next + g.size)).toList
    group.zipIdx.forM fun (s, k) => checkNames (t.ids.size + k) (t.ids.size + g.size) s
    return (t.addGroup group, next + g.size)

theorem addGroups_eq (t : Types) (types : Array SubType) (groups : List TypeGroup) :
    t.addGroups types groups = (groups.foldlM (addNext types) (t, 0)).map Prod.fst := by
  change (groups.foldlM (addNext types) (t, 0) >>= fun x => pure x.1) = _
  cases groups.foldlM (addNext types) (t, 0) <;> rfl

theorem Knows.addGroups {types : Array SubType} {groups : List TypeGroup} {next : Nat}
    {x : Types × Nat} (h : t.Knows (types.toList.take next))
    (hx : groups.foldlM (addNext types) (t, next) = .ok x) :
    x.1.Knows (types.toList.take (next + total (groups.map TypeGroup.size))) := by
  induction groups generalizing t next with
  | nil =>
    obtain rfl := Except.ok.inj hx
    exact h
  | cons g groups ih =>
    rw [List.foldlM_cons] at hx
    obtain ⟨y, hy, hx⟩ := of_bind_ok hx
    obtain ⟨-, -, hy⟩ := of_bind_ok hy
    obtain rfl := Except.ok.inj hy
    have hk := h.addGroup (types.extract next (next + g.size)).toList
    have hs : types.toList.take next ++ (types.extract next (next + g.size)).toList =
        types.toList.take (next + g.size) := by
      simp [List.take_add, List.extract_eq_take_drop]
    rw [hs] at hk
    have hx := ih hk hx
    rwa [Nat.add_assoc] at hx

theorem addGroups_knows {types : Array SubType} {groups : List TypeGroup}
    (hg : total (groups.map TypeGroup.size) = types.size)
    (h : addGroups {} types groups = .ok t) : t.Knows types.toList := by
  rw [addGroups_eq] at h
  cases hx : groups.foldlM (addNext types) (({} : Types), 0) with
  | error e =>
    rw [hx] at h
    cases h
  | ok x =>
    rw [hx] at h
    obtain rfl := Except.ok.inj h
    have h₀ : Knows {} (types.toList.take 0) := knows_empty
    have hk := h₀.addGroups hx
    rwa [Nat.zero_add, hg, ← Array.length_toList, List.take_length] at hk

/-! Types that name no types. -/

structure Plain (t : SubType) : Prop where
  parent : t.parent = none
  indices : t.body.shape.indices = []
  mapIndices : ∀ f, t.mapIndices f = t

structure Lists (t : Types) (types : List SubType) : Prop where
  entries : t.entries = types.toArray
  ids : t.ids = (List.range types.length).toArray
  seen : ∀ s, t.seen.get? [s] ≠ none → s ∈ types

theorem Lists.addGroup {t : Types} {types : List SubType} {s : SubType} (h : t.Lists types)
    (hs : Plain s) (hn : s ∉ types) : (t.addGroup [s]).Lists (types ++ [s]) := by
  have hk : t.seen.get? [s] = none := by
    by_contra hk
    exact hn (h.seen s hk)
  unfold Types.addGroup
  simp only [List.map_cons, List.map_nil, hs.mapIndices, hk]
  refine ⟨?_, ?_, fun s' hs' => ?_⟩
  · simp [h.entries]
  · have hr : (Array.range [s].length).map (t.entries.size + ·) = #[types.length] := by
      simp [h.entries, Array.range, Array.ofFn_succ]
    rw [hr, h.ids, List.length_append, List.length_singleton, List.range_succ]
    exact List.append_toArray ..
  · simp only [Std.HashMap.get?_eq_getElem?, Std.HashMap.getElem?_insert] at hs'
    split at hs'
    · rename_i he
      obtain rfl := List.head_eq_of_cons_eq (eq_of_beq he)
      simp
    · exact List.mem_append_left _ (h.seen s' hs')

theorem Plain.checkNames {s : SubType} (h : Plain s) (place groupEnd : Nat) :
    Types.checkNames place groupEnd s = .ok () := by
  unfold Types.checkNames
  rw [h.indices, h.parent]
  rfl

theorem Plain.addNext {t : Types} {before after : List SubType} {s : SubType}
    (hs : Plain s) (explicit : Bool) :
    Types.addNext (before ++ s :: after).toArray (t, before.length) ⟨1, explicit⟩ =
      .ok (t.addGroup [s], (before ++ [s]).length) := by
  have hg : ((before ++ s :: after).toArray.extract before.length (before.length + 1)).toList =
      [s] := by
    simp [List.extract_eq_take_drop]
  unfold Types.addNext
  simp only [hg, List.length_append, List.length_singleton]
  change (Types.checkNames _ _ s >>= fun _ => pure ()) >>= _ = _
  rw [hs.checkNames]
  rfl

/-- Plain types of which no two are equal are identified by their places, whatever is known. -/
theorem addGroups_plain {types : List SubType} (plain : ∀ s ∈ types, Plain s)
    (distinct : types.Nodup) :
    ∃ seen, addGroups {} types.toArray (List.replicate types.length ⟨1, false⟩) =
      .ok ⟨types.toArray, seen, (List.range types.length).toArray⟩ := by
  suffices h : ∀ (before after : List SubType) (t : Types), before ++ after = types →
      t.Lists before → ∃ t' next, (List.replicate after.length (⟨1, false⟩ : TypeGroup)).foldlM
        (Types.addNext types.toArray) (t, before.length) = .ok (t', next) ∧ t'.Lists types by
    obtain ⟨⟨entries, seen, ids⟩, next, ht, hl⟩ :=
      h [] types {} rfl ⟨rfl, rfl, fun s hs => by simp at hs⟩
    obtain rfl : entries = _ := hl.entries
    obtain rfl : ids = _ := hl.ids
    refine ⟨seen, ?_⟩
    rw [addGroups_eq, show 0 = ([] : List SubType).length from rfl, ht]
    rfl
  intro before after
  induction after generalizing before with
  | nil =>
    intro t hb h
    rw [List.append_nil] at hb
    exact ⟨t, before.length, rfl, hb ▸ h⟩
  | cons s after ih =>
    intro t hb h
    subst hb
    have hs : Plain s := plain s (by simp)
    have hn : s ∉ before := fun hm =>
      List.disjoint_of_nodup_append distinct hm List.mem_cons_self
    obtain ⟨t', next, ht, hl⟩ := ih (before ++ [s]) _ (by simp) (h.addGroup hs hn)
    refine ⟨t', next, ?_, hl⟩
    rw [List.length_cons, List.replicate_succ, List.foldlM_cons, hs.addNext]
    exact ht

end Types

/-! What no proposal is needed for. -/

theorem not_need_engine (f : Feature) : need Features.engine f ≠ .ok () := nofun

theorem forM_ok {l : List α} {f : α → Check} (h : l.forM f = .ok ()) : ∀ a ∈ l, f a = .ok () := by
  induction l with
  | nil => simp
  | cons a l ih =>
    change (f a >>= fun _ => l.forM f) = .ok () at h
    obtain ⟨⟨⟩, ha, hl⟩ := of_bind_ok h
    exact List.forall_mem_cons.mpr ⟨ha, ih hl⟩

theorem checkVal_hosted {types : Types} {v : ValType}
    (h : checkVal types Features.engine v = .ok ()) : v.toValueType ≠ .ref := by
  cases v with
  | ref r =>
    obtain ⟨nullable, heap⟩ := r
    obtain ⟨⟨⟩, hh, hn⟩ := of_bind_ok h
    cases nullable with
    | false => exact absurd hn (not_need_engine _)
    | true =>
      cases heap with
      | defined i =>
        obtain ⟨⟨⟩, -, hr⟩ := of_bind_ok hh
        exact absurd hr (not_need_engine _)
      | kind k shared =>
        obtain ⟨⟨⟩, hk, hs⟩ := of_bind_ok hh
        cases shared with
        | true => exact absurd hs (not_need_engine _)
        | false =>
          have hf := forM_ok hk
          cases k with
          | function | external => decide
          | _ => exact absurd (hf _ (List.mem_cons_self ..)) (not_need_engine _)
  | _ => nofun

theorem checkInner_hosted {types : Types} {shared : Bool} {v : ValType}
    (h : checkInner types Features.engine shared v = .ok ()) : v.toValueType ≠ .ref := by
  obtain ⟨⟨⟩, hv, -⟩ := of_bind_ok h
  exact checkVal_hosted hv

theorem hosted_iff (s : Signature) :
    s.isHosted = true ↔ (∀ v ∈ s.params, v ≠ .ref) ∧ ∀ v ∈ s.results, v ≠ .ref := by
  simp only [Signature.isHosted, Bool.not_eq_true', List.contains_eq_mem, decide_eq_false_iff_not,
    List.mem_append, not_or, ne_eq]
  constructor
  · rintro ⟨hp, hr⟩
    exact ⟨fun v hv he => hp (he ▸ hv), fun v hv he => hr (he ▸ hv)⟩
  · rintro ⟨hp, hr⟩
    exact ⟨fun hv => hp _ hv rfl, fun hv => hr _ hv rfl⟩

/-- A type of functions that needs no proposal is one that host functions can have. -/
theorem checkType_hosted {types : Types} {e : SubType}
    (h : checkType types Features.engine e = .ok ()) {s : Signature}
    (hs : e.signature? = some s) : s.isHosted = true := by
  obtain ⟨final, parent, shared, shape⟩ := e
  cases shape with
  | function f =>
    obtain rfl := Option.some.inj hs
    have hb : checkBody types Features.engine ⟨shared, .function f⟩ = .ok () := by
      unfold checkType at h
      dsimp only at h
      split at h
      · obtain ⟨_, hn, -⟩ := of_bind_ok h
        exact absurd hn (not_need_engine _)
      · obtain ⟨⟨⟩, hb, -⟩ := of_bind_ok h
        exact hb
    have hv : f.params.forM (checkInner types Features.engine shared) = .ok () ∧
        f.results.forM (checkInner types Features.engine shared) = .ok () := by
      unfold checkBody at hb
      dsimp only at hb
      split at hb
      · obtain ⟨_, hn, -⟩ := of_bind_ok hb
        exact absurd hn (not_need_engine _)
      · obtain ⟨⟨⟩, hp, hr⟩ := of_bind_ok hb
        exact ⟨hp, hr⟩
    rw [hosted_iff]
    constructor
    · intro v hm
      obtain ⟨t, ht, rfl⟩ := List.mem_map.mp hm
      exact checkInner_hosted (forM_ok hv.1 t ht)
    · intro v hm
      obtain ⟨t, ht, rfl⟩ := List.mem_map.mp hm
      exact checkInner_hosted (forM_ok hv.2 t ht)
  | _ => cases hs

/-- Each type that a module adds is checked, where the table has it. -/
theorem addTypes_checked {features : Features} {types : Array SubType} {groups : List TypeGroup}
    {t : Types} (h : addTypes features {} types groups = .ok t) :
    Types.addGroups {} types groups = .ok t ∧
      ∀ i ∈ t.ids.toList, ∀ e, t.entries[i]? = some e → checkType t features e = .ok () := by
  unfold addTypes at h
  dsimp only at h
  by_cases hx : groups.any TypeGroup.explicit = true
  on_goal 1 =>
    rw [if_pos hx] at h
    obtain ⟨-, -, h⟩ := of_bind_ok h
  on_goal 2 => rw [if_neg hx] at h
  all_goals
    obtain ⟨t', ha, h⟩ := of_bind_ok h
    obtain ⟨⟨⟩, hf, h⟩ := of_bind_ok h
    obtain rfl := Except.ok.inj h
    refine ⟨ha, fun i hi e he => ?_⟩
    have hc := forM_ok hf i hi
    rwa [he] at hc

/-- What is checked of the table holds of each type of the module, whatever names it goes by. -/
theorem addTypes_hosted {types : Array SubType} {groups : List TypeGroup} {t : Types}
    (hg : total (groups.map TypeGroup.size) = types.size)
    (h : addTypes Features.engine {} types groups = .ok t) {k : Nat} {s : SubType}
    (hk : types[k]? = some s) {signature : Signature} (hs : s.signature? = some signature) :
    signature.isHosted = true := by
  obtain ⟨ha, hc⟩ := addTypes_checked h
  have hkn := Types.addGroups_knows hg ha
  obtain ⟨e, he, ho⟩ := hkn.named k s (by simpa using hk)
  have hl : k < t.ids.size := by
    rw [hkn.count, Array.length_toList]
    exact (Array.getElem?_eq_some_iff.mp hk).1
  refine checkType_hosted (hc _ (by simp [Types.id, hl]) e he) ?_
  have hos : e.outline.signature? = s.outline.signature? := congrArg _ ho
  simpa [SubType.outline, hs] using hos

end Typing

namespace Loads
variable {bytes : Bytes} {m : Module} {p : Program}

/-- No function of a loaded module has a type that host functions cannot have. -/
theorem hosted (h : Loads bytes m p) {t : Nat} {f : FuncType} (hf : m.funcType? t = some f) :
    f.signature.isHosted = true := by
  obtain ⟨x, hx⟩ := Typing.moduleType_of_checkModule h.plain
  obtain ⟨types, ht, -⟩ := Typing.of_bind_ok hx
  unfold Module.funcType? at hf
  split at hf
  · rename_i f' hs
    obtain rfl := Option.some.inj hf
    exact Typing.addTypes_hosted (Binary.contents_grouped h.written) ht hs rfl
  · cases hf

end Loads

theorem imports_hosted {bytes : Bytes} {p : Program} (loaded : engine.load bytes = .ok p)
    {i : FunctionImport} (hi : i ∈ (engine.info p).imports) : i.signature.isHosted = true := by
  obtain ⟨m, h⟩ := (load_eq_ok_iff bytes p).mp loaded
  have hi : i ∈ (Program.ofModule m).imports.filterMap ModuleInfo.functionImport? := h.running ▸ hi
  obtain ⟨j, hj, hf⟩ := List.mem_filterMap.mp hi
  obtain ⟨⟨ns, name, type⟩, -, rfl⟩ := List.mem_map.mp hj
  cases type with
  | function t =>
    obtain rfl := Option.some.inj hf
    cases ht : m.funcType? t with
    | none => simp [FuncType.signature, Signature.isHosted]
    | some f => simpa [ht] using h.hosted ht
  | _ => cases hf

end PluginHost.Wasm
