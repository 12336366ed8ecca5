import Mathlib.Data.List.Forall2
import PluginHost.Proofs.Json.Lists
/-!
Records. What a record's reader makes of an object is a fold over its members, in which only what
the known keys have is viewed; a list of fields counts as an object with the keys of these fields.
-/
namespace PluginHost.Json
open Reader

variable {σ : Type}

/-! ### What members say -/

theorem valuesAt_cons_self (key : String) (t : Tree) (entries : List (Option String × Tree)) :
    valuesAt key ((some key, t) :: entries) = t :: valuesAt key entries := by
  simp [valuesAt]

theorem valuesAt_cons_ne {key k : String} (hn : k ≠ key) (t : Tree)
    (entries : List (Option String × Tree)) :
    valuesAt key ((some k, t) :: entries) = valuesAt key entries := by
  simp [valuesAt, hn]

def Gives {α : Type} (Of : Tree → α → Prop) (key : String) (entries : List (Option String × Tree))
    (before a : α) : Prop :=
  match valuesAt key entries with
  | [] => a = before
  | [t] => Of t a
  | _ => False

/-- Members of which each known key is there at most once, with a value of its type: one with which
alone an object says something. -/
structure Typed (keys : List String) (Say : List (Option String × Tree) → σ → Prop)
    (entries : List (Option String × Tree)) : Prop where
  texts : ∀ e ∈ entries, e.1 ≠ none
  once : ∀ key ∈ keys, (valuesAt key entries).length ≤ 1
  ofType : ∀ key ∈ keys, ∀ t ∈ valuesAt key entries, ∃ s, Say [(some key, t)] s

/-- Members of which a known key is there twice or with a value that is not of its type. -/
def Faulty (keys : List String) (Say : List (Option String × Tree) → σ → Prop)
    (entries : List (Option String × Tree)) : Prop :=
  ∃ key ∈ keys, 2 ≤ (valuesAt key entries).length ∨
    ∃ t ∈ valuesAt key entries, ∀ s, ¬Say [(some key, t)] s

def SaySame (Say : List (Option String × Tree) → σ → Prop) (key : String) (t t' : Tree) : Prop :=
  ∀ s, Say [(some key, t)] s ↔ Say [(some key, t')] s

/-- Members that have the same known keys, each with values that say the same; their order and
unknown keys do not count. -/
def Alike (keys : List String) (Say : List (Option String × Tree) → σ → Prop)
    (entries entries' : List (Option String × Tree)) : Prop :=
  ∀ key ∈ keys, List.Forall₂ (SaySame Say key) (valuesAt key entries) (valuesAt key entries')

theorem Alike.symm {keys : List String} {Say : List (Option String × Tree) → σ → Prop}
    {entries entries' : List (Option String × Tree)} (h : Alike keys Say entries entries') :
    Alike keys Say entries' entries :=
  fun key hk => ((h key hk).imp fun _ _ ht s => (ht s).symm).flip

theorem Gives.unique {α : Type} {value : Tree → Option α} {key : String}
    {entries : List (Option String × Tree)} {before a a' : α}
    (h : Gives (value · = some ·) key entries before a)
    (h' : Gives (value · = some ·) key entries before a') : a = a' := by
  unfold Gives at h h'
  generalize valuesAt key entries = ts at h h'
  match ts, h, h' with
  | [], h, h' => exact h.trans h'.symm
  | [_], h, h' => exact Option.some.inj (h.symm.trans h')

namespace Reader.Record

def keys (r : Record σ) : List String := r.fields.map Field.key

def finished (r : Record σ) (seen : List String) (s : σ) : Option σ :=
  if ∀ f ∈ r.fields, f.required → f.key ∈ seen then some s else none

def told (r : Record σ) (view : String → Tree → Option (σ → σ)) :
    List (Option String × Tree) → List String → σ → Option σ
  | [], seen, s => r.finished seen s
  | (none, _) :: _, _, _ => none
  | (some key, t) :: entries, seen, s =>
    if key ∈ r.keys then
      if key ∈ seen then none
      else (view key t).bind fun change => told r view entries (key :: seen) (change s)
    else told r view entries seen s

def entries? (r : Record σ) : Tree → Option (List (Option String × Tree))
  | .object _ members => some members.entries
  | .list _ items =>
    if items.trees.length ≤ r.keys.length then some ((r.keys.map some).zip items.trees) else none
  | _ => none

def view? (r : Record σ) (view : String → Tree → Option (σ → σ)) (t : Tree) : Option σ :=
  (r.entries? t).bind fun entries => r.told view entries [] r.initial

structure Viewed (r : Record σ) (view : String → Tree → Option (σ → σ)) : Prop where
  distinct : r.keys.Nodup
  sees : ∀ f ∈ r.fields, Sees f.read (view f.key)

theorem find?_eq_none {r : Record σ} {key : String} (h : key ∉ r.keys) :
    (r.fields.find? (·.key = key)) = none := by
  rw [List.find?_eq_none]
  intro f hf he
  exact h (List.mem_map.mpr ⟨f, hf, by simpa using he⟩)

theorem find?_eq_some {r : Record σ} {key : String} (h : key ∈ r.keys) :
    ∃ f ∈ r.fields, f.key = key ∧ r.fields.find? (·.key = key) = some f := by
  obtain ⟨g, hg, he⟩ := List.mem_map.mp h
  cases hf : r.fields.find? (·.key = key) with
  | none => exact absurd (List.find?_eq_none.mp hf g hg) (by simpa using he)
  | some f => exact ⟨f, List.mem_of_find?_eq_some hf, by simpa using List.find?_some hf, rfl⟩

/-! ### Which members make a record -/

def Stands (view : String → Tree → Option (σ → σ)) (seen : List String) (key : String) :
    List Tree → Prop
  | [] => True
  | [t] => key ∉ seen ∧ (view key t).isSome
  | _ => False

/-- What members have to be for a record to come of them; `seen` holds the known keys before them.
-/
structure Admits (r : Record σ) (view : String → Tree → Option (σ → σ))
    (entries : List (Option String × Tree)) (seen : List String) : Prop where
  texts : ∀ e ∈ entries, e.1 ≠ none
  stands : ∀ key ∈ r.keys, Stands view seen key (valuesAt key entries)
  complete : ∀ f ∈ r.fields, f.required → f.key ∈ seen ∨ valuesAt f.key entries ≠ []

variable {r : Record σ} {view : String → Tree → Option (σ → σ)} {key : String} {t : Tree}
  {entries : List (Option String × Tree)} {seen : List String}

theorem stands_seen {ts : List Tree} : Stands view (key :: seen) key ts ↔ ts = [] := by
  match ts with
  | [] => simp [Stands]
  | [t] => simp [Stands]
  | _ :: _ :: _ => simp [Stands]

theorem stands_other {k : String} (hn : k ≠ key) {ts : List Tree} :
    Stands view (key :: seen) k ts ↔ Stands view seen k ts := by
  match ts with
  | [] => simp [Stands]
  | [t] => simp [Stands, hn]
  | _ :: _ :: _ => simp [Stands]

theorem stands_cons {ts : List Tree} :
    Stands view seen key (t :: ts) ↔ key ∉ seen ∧ (view key t).isSome ∧ ts = [] := by
  cases ts <;> simp [Stands]

theorem stands_of_gives {α : Type} {value : Tree → Option α} {set : α → σ → σ} {before a : α}
    (h : Gives (value · = some ·) key entries before a)
    (hset : ∀ t, view key t = (value t).map set) : Stands view [] key (valuesAt key entries) := by
  unfold Gives at h
  split at h
  · rename_i he
    rw [he]
    trivial
  · rename_i t he
    rw [he, stands_cons, hset, h]
    exact ⟨List.not_mem_nil, rfl, rfl⟩
  · exact h.elim

theorem admits_nil : r.Admits view [] seen ↔ ∀ f ∈ r.fields, f.required → f.key ∈ seen := by
  refine ⟨fun h f hf hr => ?_, fun h => ⟨by simp, by simp [valuesAt, Stands], ?_⟩⟩
  · simpa [valuesAt] using h.complete f hf hr
  · exact fun f hf hr => .inl (h f hf hr)

theorem not_admits_cons_none : ¬r.Admits view ((none, t) :: entries) seen :=
  fun h => h.texts _ List.mem_cons_self rfl

theorem admits_cons_unknown (hk : key ∉ r.keys) :
    r.Admits view ((some key, t) :: entries) seen ↔ r.Admits view entries seen := by
  have hv {k : String} (h : k ∈ r.keys) :
      valuesAt k ((some key, t) :: entries) = valuesAt k entries :=
    valuesAt_cons_ne (fun he : key = k => hk (he ▸ h)) t entries
  have hf {f : Field σ} (h : f ∈ r.fields) : f.key ∈ r.keys := List.mem_map_of_mem h
  refine ⟨fun h => ⟨fun e he => h.texts e (List.mem_cons_of_mem _ he), ?_, ?_⟩,
    fun h => ⟨by simpa using h.texts, ?_, ?_⟩⟩
  · exact fun k hm => hv hm ▸ h.stands k hm
  · exact fun f hm => hv (hf hm) ▸ h.complete f hm
  · exact fun k hm => (hv hm).symm ▸ h.stands k hm
  · exact fun f hm => (hv (hf hm)).symm ▸ h.complete f hm

theorem admits_cons_known (hk : key ∈ r.keys) :
    r.Admits view ((some key, t) :: entries) seen ↔
      key ∉ seen ∧ (view key t).isSome ∧ r.Admits view entries (key :: seen) := by
  constructor
  · intro h
    have hself := h.stands key hk
    rw [valuesAt_cons_self, stands_cons] at hself
    obtain ⟨hs, hv, hrest⟩ := hself
    refine ⟨hs, hv, fun e he => h.texts e (List.mem_cons_of_mem _ he), fun k hm => ?_,
      fun f hm hr => ?_⟩
    · by_cases hn : k = key
      · rw [hn]
        exact stands_seen.mpr hrest
      · have hk' := h.stands k hm
        rwa [valuesAt_cons_ne (Ne.symm hn), ← stands_other hn] at hk'
    · by_cases hn : f.key = key
      · exact .inl (hn ▸ List.mem_cons_self)
      · have hf := h.complete f hm hr
        rw [valuesAt_cons_ne (Ne.symm hn)] at hf
        exact hf.imp_left (List.mem_cons_of_mem _)
  · rintro ⟨hs, hv, h⟩
    refine ⟨by simpa using h.texts, fun k hm => ?_, fun f hm hr => ?_⟩
    · by_cases hn : k = key
      · rw [hn, valuesAt_cons_self, stands_cons]
        exact ⟨hs, hv, stands_seen.mp (h.stands key hk)⟩
      · rw [valuesAt_cons_ne (Ne.symm hn), ← stands_other hn]
        exact h.stands k hm
    · by_cases hn : f.key = key
      · exact .inr (by simp [hn, valuesAt_cons_self])
      · rw [valuesAt_cons_ne (Ne.symm hn)]
        exact (h.complete f hm hr).imp_left fun hc => (List.mem_cons.mp hc).resolve_left hn

/-- A record comes of members exactly if each known key is there at most once, with a value that is
viewed, and those that are required are. -/
theorem told_isSome_iff (s : σ) :
    (r.told view entries seen s).isSome ↔ r.Admits view entries seen := by
  induction entries generalizing seen s with
  | nil =>
    rw [admits_nil, told, finished]
    split
    · rename_i h
      exact ⟨fun _ => h, fun _ => rfl⟩
    · rename_i h
      exact ⟨nofun, fun h' => absurd h' h⟩
  | cons e entries ih =>
    match e with
    | (none, t) => simp [told, not_admits_cons_none]
    | (some key, t) =>
      rw [told]
      by_cases hk : key ∈ r.keys
      · rw [if_pos hk, admits_cons_known hk]
        by_cases hs : key ∈ seen
        · simp [hs]
        · cases hv : view key t with
          | none => simp [hs]
          | some change => simp [hs, ih]
      · rw [if_neg hk, admits_cons_unknown hk, ih]

/-- A part of the record that one key alone sets is what the members give for this key. -/
theorem told_gives {α : Type} {value : Tree → Option α} {set : α → σ → σ} (part : σ → α)
    (hk : key ∈ r.keys) (hset : ∀ t, view key t = (value t).map set)
    (hself : ∀ a s, part (set a s) = a)
    (hother : ∀ {k t change}, view k t = some change → ∀ s, k ≠ key → part (change s) = part s)
    {s s' : σ} (h : r.told view entries seen s = some s') :
    Gives (value · = some ·) key entries (part s) (part s') := by
  induction entries generalizing seen s with
  | nil =>
    rw [told, finished] at h
    split at h
    · exact congrArg part (Option.some.inj h).symm
    · exact nomatch h
  | cons e entries ih =>
    match e with
    | (none, t) => exact nomatch h
    | (some k, t) =>
      rw [told] at h
      by_cases hm : k ∈ r.keys
      · rw [if_pos hm] at h
        split at h
        · exact nomatch h
        · obtain ⟨change, hv, h⟩ := Option.bind_eq_some_iff.mp h
          have hrest := ih h
          by_cases hn : k = key
          · have hnone : valuesAt key entries = [] := by
              have ha := (told_isSome_iff (change s)).mp (Option.isSome_of_eq_some h)
              exact stands_seen.mp (hn ▸ ha.stands k hm)
            subst hn
            rw [hset] at hv
            obtain ⟨a, ha, rfl⟩ := Option.map_eq_some_iff.mp hv
            rw [Gives, hnone, hself] at hrest
            rw [Gives, valuesAt_cons_self, hnone]
            exact hrest ▸ ha
          · rw [hother hv s hn] at hrest
            rwa [Gives, valuesAt_cons_ne hn]
      · rw [if_neg hm] at h
        have hn : k ≠ key := fun he => hm (he ▸ hk)
        rw [Gives, valuesAt_cons_ne hn]
        exact ih h

theorem Admits.of_mem (h : r.Admits view entries seen) (hk : key ∈ r.keys)
    (ht : t ∈ valuesAt key entries) : valuesAt key entries = [t] ∧ (view key t).isSome := by
  have hs := h.stands key hk
  generalize valuesAt key entries = ts at hs ht
  match ts, hs, ht with
  | [u], hs, ht =>
    obtain rfl : t = u := List.mem_singleton.mp ht
    exact ⟨rfl, hs.2⟩

section Said
variable {Say : List (Option String × Tree) → σ → Prop}
  (hsaid : ∀ entries s, r.told view entries [] r.initial = some s ↔ Say entries s)
include hsaid

theorem admits_iff_said : r.Admits view entries [] ↔ ∃ s, Say entries s := by
  rw [← told_isSome_iff r.initial, Option.isSome_iff_exists]
  exact exists_congr fun s => hsaid entries s

variable (hfree : ∀ f ∈ r.fields, f.required = false)
include hfree

theorem said_single_iff (hk : key ∈ r.keys) :
    (∃ s, Say [(some key, t)] s) ↔ (view key t).isSome := by
  have hn : ∀ f ∈ r.fields, f.required → f.key ∈ [key] :=
    fun f hf hr => absurd hr (by simp [hfree f hf])
  rw [← admits_iff_said hsaid, admits_cons_known hk, admits_nil]
  simp only [List.not_mem_nil, not_false_eq_true, true_and]
  exact and_iff_left hn

theorem said_of_typed (h : Typed r.keys Say entries) : ∃ s, Say entries s := by
  refine (admits_iff_said hsaid).mp ⟨h.texts, fun key hk => ?_, fun f hf hr => ?_⟩
  · have hone := h.once key hk
    have hof := h.ofType key hk
    generalize valuesAt key entries = ts at hone hof
    match ts, hone, hof with
    | [], _, _ => trivial
    | [t], _, hof =>
      exact ⟨List.not_mem_nil, (said_single_iff hsaid hfree hk).mp (hof t List.mem_cons_self)⟩
  · exact absurd hr (by simp [hfree f hf])

theorem not_said_of_faulty (h : Faulty r.keys Say entries) (s : σ) : ¬Say entries s := by
  intro hs
  have ha := (admits_iff_said hsaid).mpr ⟨s, hs⟩
  obtain ⟨key, hk, htwice | ⟨t, ht, hn⟩⟩ := h
  · obtain ⟨t, ht⟩ := List.exists_mem_of_length_pos (Nat.lt_of_lt_of_le Nat.zero_lt_two htwice)
    rw [(ha.of_mem hk ht).1] at htwice
    exact absurd htwice (by simp)
  · obtain ⟨s', hs'⟩ := (said_single_iff hsaid hfree hk).mpr (ha.of_mem hk ht).2
    exact hn s' hs'

/-- What a key gives is the same in members that are alike. -/
theorem gives_of_alike {α : Type} {value : Tree → Option α} {d : α} (part : σ → α)
    (hk : key ∈ r.keys)
    (hpart : ∀ {entries s}, Say entries s → Gives (value · = some ·) key entries d (part s))
    {entries' : List (Option String × Tree)} (ha : Alike r.keys Say entries entries') {s : σ}
    (h : Say entries s) : Gives (value · = some ·) key entries' d (part s) := by
  have hg := hpart h
  have hf := ha key hk
  have hadm := (admits_iff_said hsaid).mpr ⟨s, h⟩
  unfold Gives at hg ⊢
  cases hv : valuesAt key entries with
  | nil =>
    rw [hv] at hf hg
    rw [List.forall₂_nil_left_iff.mp hf]
    exact hg
  | cons t ts =>
    obtain ⟨he, hview⟩ := hadm.of_mem hk (hv ▸ List.mem_cons_self)
    rw [he] at hf hg
    obtain ⟨t', _, hsame, hrest, he'⟩ := List.forall₂_cons_left_iff.mp hf
    obtain rfl := List.forall₂_nil_left_iff.mp hrest
    obtain ⟨s₁, hs₁⟩ := (said_single_iff hsaid hfree hk).mpr hview
    have hval := hpart hs₁
    have hval' := hpart ((hsame s₁).mp hs₁)
    rw [Gives, valuesAt_cons_self] at hval hval'
    rw [he']
    exact (Option.some.inj (hval.symm.trans hg)) ▸ hval'

end Said

end Reader.Record

namespace Reader

/-! ### Objects -/

theorem take_moreMembers_end (first : Bool) (b : Blanks) (cs : List Char) :
    take (moreMembers first) (b.1 ++ '}' :: cs) = some (false, '}' :: cs) := by
  unfold moreMembers
  rw [take_afterBlanks?_bind b rfl]
  rfl

theorem take_moreMembers (first : Bool) (b before : Blanks) (key : List Piece) (rest : List Char) :
    take (moreMembers first) (b.1 ++ separated first (before.1 ++ writeString key rest)) =
      some (true, writeString key rest) := by
  unfold moreMembers
  cases first with
  | true =>
    change take (afterBlanks? >>= _) (b.1 ++ (before.1 ++ '"' :: _)) = _
    rw [take_bind, take_afterBlanks?_append, take_afterBlanks?_append, take_afterBlanks?_cons rfl]
    rfl
  | false =>
    change take (afterBlanks? >>= _) (b.1 ++ ',' :: (before.1 ++ '"' :: _)) = _
    rw [take_afterBlanks?_bind b rfl]
    change take (do skip; _) (',' :: (before.1 ++ '"' :: _)) = _
    rw [take_bind, take_skip, Option.bind_some]
    change take (afterBlanks? >>= _) (before.1 ++ '"' :: _) = _
    rw [take_afterBlanks?_bind before rfl]
    rfl

theorem take_endObject (b : Blanks) (cs : List Char) :
    take endObject (b.1 ++ '}' :: cs) = some ((), cs) := by
  unfold endObject
  rw [take_afterBlanks?_bind b rfl]
  rfl

variable {r : Record σ} {view : String → Tree → Option (σ → σ)}

theorem take_finished (r : Record σ) (seen : List String) (s : σ) (cs : List Char) :
    take (match r.fields.find? fun f => f.required && !(f.key ∈ seen) with
      | some f => failLater (.missingField f.key)
      | none => pure s) cs = (r.finished seen s).map fun s => (s, cs) := by
  unfold Record.finished
  split
  · rename_i f hf
    have hm := List.mem_of_find?_eq_some hf
    have hn := List.find?_some hf
    rw [Bool.and_eq_true, Bool.not_eq_true', decide_eq_false_iff_not] at hn
    rw [if_neg fun ha => hn.2 (ha f hm hn.1)]
    rfl
  · rename_i hf
    rw [if_pos]
    · rfl
    intro f hm hr
    have hn := List.find?_eq_none.mp hf f hm
    simpa [hr] using hn

/-- Members are taken for what they say. The induction is on the members; each of them takes one of
the rounds. -/
theorem take_members (hv : r.Viewed view) (ms : Members) {fuel : Nat}
    (hf : ms.entries.length < fuel) (first : Bool) (seen : List String) (s : σ) (b : Blanks)
    (rest : List Char) :
    take (members r fuel first seen s) (b.1 ++ ms.write first ('}' :: rest)) =
      (r.told view ms.entries seen s).map fun s => (s, '}' :: rest) := by
  obtain ⟨fuel, rfl⟩ : ∃ m, fuel = m + 1 := ⟨fuel - 1, by omega⟩
  unfold members
  rw [take_bind]
  match ms with
  | .nil =>
    rw [Members.write, take_moreMembers_end, Option.bind_some]
    exact take_finished r seen s _
  | .cons before key gap lead value after more =>
    have hr := more.stops after rest
    have hm := fun seen s =>
      take_members hv more (Nat.lt_of_succ_lt_succ hf) false seen s after rest
    rw [Members.write, take_moreMembers, Option.bind_some]
    dsimp only
    rw [if_pos rfl, take_bind, take_skip, Option.bind_some, writeString, List.tail_cons,
      take_bind, take_stringBody, Members.entries]
    cases keyOf key with
    | none => rfl
    | some key =>
      simp only [Option.map_some, Option.bind_some, Record.told]
      by_cases hk : key ∈ r.keys
      · obtain ⟨f, hmem, hkey, hfind⟩ := Record.find?_eq_some hk
        rw [hfind, if_pos hk]
        dsimp only
        split
        · rfl
        · have hread := hv.sees f hmem lead value _ hr
          rw [hkey] at hread
          rw [take_bind, take_colon, Option.bind_some, take_bind, hread]
          cases view key value with
          | none => rfl
          | some change => exact hm _ _
      · rw [Record.find?_eq_none hk, if_neg hk]
        dsimp only
        rw [take_bind, take_colon, Option.bind_some, take_bind, take_skipValue value lead hr]
        exact hm _ _

end Reader

theorem Members.length_entries (ms : Members) (first : Bool) (rest : List Char) :
    ms.entries.length ≤ (ms.write first rest).length := by
  cases ms with
  | nil => exact Nat.zero_le _
  | cons before key gap lead value after more =>
    have h := more.length_entries false rest
    have hv := value.length_write (after.1 ++ more.write false rest)
    have hk := length_writeString key
      (gap.1 ++ ':' :: (lead.1 ++ value.write (after.1 ++ more.write false rest)))
    have hs := length_le_separated first (before.1 ++ writeString key
      (gap.1 ++ ':' :: (lead.1 ++ value.write (after.1 ++ more.write false rest))))
    simp only [Members.entries, Members.write, List.length_cons, List.length_append] at hv hk hs ⊢
    omega

/-! ### Lists of fields -/

namespace Reader
variable {r : Record σ} {view : String → Tree → Option (σ → σ)}

theorem Record.finished_upTo (hv : r.Viewed view) {done fields : List (Field σ)}
    (hd : r.fields = done ++ fields) (s : σ) :
    r.finished (done.map Field.key).reverse s =
      if ∀ f ∈ fields, f.required = false then some s else none := by
  have hn := hv.distinct
  rw [Record.keys, hd, List.map_append, List.nodup_append] at hn
  unfold Record.finished
  simp only [List.mem_reverse]
  congr 1
  refine propext ⟨fun h f hf => ?_, fun h f hf hr => ?_⟩
  · cases hr : f.required with
    | false => rfl
    | true =>
      have hm := h f (hd ▸ List.mem_append_right done hf) hr
      exact absurd rfl (hn.2.2 f.key hm f.key (List.mem_map_of_mem hf))
  · rcases List.mem_append.mp (hd ▸ hf) with hf | hf
    · exact List.mem_map_of_mem hf
    · exact absurd (h f hf) (by simp [hr])

theorem take_missing (r : Record σ) (index : Nat) (fields : List (Field σ)) (s : σ)
    (cs : List Char) :
    take (match fields.findIdx? Field.required with
      | some i => failLater (.wrongLength (index + i) r.sized)
      | none => pure s) cs =
      (if ∀ f ∈ fields, f.required = false then some s else none).map fun s => (s, cs) := by
  split
  · rename_i i hi
    rw [if_neg]
    · rfl
    intro ha
    rw [List.findIdx?_eq_none_iff.mpr ha] at hi
    exact nomatch hi
  · rename_i hi
    rw [if_pos (List.findIdx?_eq_none_iff.mp hi)]
    rfl

/-- The elements of a list are taken for the fields in their order, with the end of the list behind
them. -/
theorem take_positional (hv : r.Viewed view) (done fields : List (Field σ))
    (hd : r.fields = done ++ fields) (items : Items) (s : σ) (b : Blanks) (rest : List Char) :
    ((take (positional r done.length fields s)
        (b.1 ++ items.write (done.length = 0) (']' :: rest))).bind fun x =>
          (take endList x.2).map fun y => (x.1, y.2)) =
      (if items.trees.length ≤ fields.length then
        r.told view (((fields.map Field.key).map some).zip items.trees)
          (done.map Field.key).reverse s
      else none).map fun s => (s, rest) := by
  induction fields generalizing done items s b with
  | nil =>
    unfold positional
    rw [take_pure, Option.bind_some]
    cases items with
    | nil =>
      rw [Items.write, take_endList, Items.trees, List.length_nil, if_pos (Nat.zero_le _),
        List.zip_nil_right, Record.told, Record.finished_upTo hv hd, if_pos (by simp)]
      rfl
    | cons before value after more =>
      rw [Items.write, take_endList_more, if_neg (by simp [Items.trees])]
      rfl
  | cons f fs ih =>
    unfold positional
    cases items with
    | nil =>
      have hend := take_endList noBlanks rest
      rw [noBlanks, List.nil_append] at hend
      rw [take_noElement, Items.trees, List.length_nil, if_pos (Nat.zero_le _),
        List.zip_nil_right, Record.told, Record.finished_upTo hv hd]
      refine (congrArg (Option.bind · _) (take_missing r done.length (f :: fs) s _)).trans ?_
      split
      · simp [hend]
      · rfl
    | cons before value after more =>
      have hf : f ∈ r.fields := hd ▸ List.mem_append_right done List.mem_cons_self
      have hn := hv.distinct
      rw [Record.keys, hd, List.map_append, List.nodup_append] at hn
      have hs : f.key ∉ (done.map Field.key).reverse := fun hm =>
        hn.2.2 f.key (List.mem_reverse.mp hm) f.key List.mem_cons_self rfl
      have hnext := fun s =>
        ih (done ++ [f]) (by rw [hd, List.append_assoc]; rfl) more s after
      simp only [List.length_append, List.length_cons, List.length_nil, Nat.zero_add,
        List.map_append, List.map_cons, List.map_nil, List.reverse_append, List.reverse_cons,
        List.reverse_nil, List.nil_append, List.singleton_append, Nat.add_eq_zero_iff,
        Nat.one_ne_zero, and_false, decide_false] at hnext
      rw [take_nextElement (hv.sees f hf)]
      simp only [Items.trees, List.map_cons, List.zip_cons_cons, Record.told,
        List.length_cons, Nat.add_le_add_iff_right]
      rw [if_pos (show f.key ∈ r.keys from List.mem_map_of_mem hf), if_neg hs]
      cases view f.key value with
      | none => simp
      | some change => exact hnext (change s)

/-! ### Records -/

theorem sees_record (hv : r.Viewed view) : Sees (record r) (r.view? view) := by
  intro b t rest hr
  have hother (ht : t.start? ≠ some '[') (ht' : t.start? ≠ some '{')
      (hn : r.view? view t = none) :
      take (record r) (b.1 ++ t.write rest) = (r.view? view t).map fun s => (s, rest) := by
    rw [hn]
    refine take_otherStart ['[', '{'] (by decide) ?_ b t (by simp [ht, ht']) rest
    intro c hc cs
    split
    · exact absurd (by decide) hc
    · exact absurd (by decide) hc
    · exact take_wrongType _ _
  cases t with
  | list inner items =>
    rw [record, Tree.write, take_valueStart_bind b rfl]
    change take (do skip; closedBy (positional r 0 r.fields r.initial) endList) _ = _
    rw [take_bind, take_skip, Option.bind_some, take_closedBy]
    refine (take_positional hv [] r.fields rfl items r.initial inner rest).trans ?_
    have hl : r.keys.length = r.fields.length := List.length_map _
    simp only [Record.view?, Record.entries?, hl]
    split <;> rfl
  | object inner members =>
    have hl := members.length_entries true ('}' :: rest)
    rw [record, Tree.write, take_valueStart_bind b rfl]
    change take (do
      skip
      closedBy (fun cs => Reader.members r (cs.length + 1) true [] r.initial cs) endObject) _ = _
    rw [take_bind, take_skip, Option.bind_some, take_closedBy]
    have hi : take (fun cs => Reader.members r (cs.length + 1) true [] r.initial cs)
        (inner.1 ++ members.write true ('}' :: rest)) =
          (r.told view members.entries [] r.initial).map fun s => (s, '}' :: rest) :=
      take_members hv members (by rw [List.length_append]; omega) true [] r.initial inner rest
    have hend := take_endObject noBlanks rest
    rw [noBlanks, List.nil_append] at hend
    rw [List.tail_cons, hi]
    change _ = (r.told view members.entries [] r.initial).map _
    cases r.told view members.entries [] r.initial with
    | none => rfl
    | some s => simp [hend]
  | flag v => exact hother (by cases v <;> decide) (by cases v <;> decide) rfl
  | _ => exact hother (by simp [Tree.start?]) (by simp [Tree.start?]) rfl

/-! ### Whole texts -/

def throughEnd {α : Type} (r : Reader α) : Reader α := do
  let a ← r
  match ← afterBlanks? with
  | some _ => failPeek .trailingCharacters
  | none => pure a

theorem whole_toOption {α : Type} (r : Reader α) (s : String) :
    (whole r s).toOption = (take (throughEnd r) s.toList).map Prod.fst := by
  unfold whole
  dsimp only
  split
  · rename_i a rest h
    have ht : throughEnd r s.toList = .ok (a, rest) := h
    rw [take, ht]
    rfl
  · rename_i f h
    have ht : throughEnd r s.toList = .error f := h
    rw [take, ht]
    rfl

theorem whole_document {α : Type} {r : Reader α} {view : Tree → Option α} (h : Sees r view)
    (before : Blanks) (t : Tree) (after : Blanks) :
    (whole r (t.document before after)).toOption = view t := by
  have hb : take afterBlanks? after.1 = some (none, []) := by
    have ha := take_afterBlanks?_append after []
    rwa [List.append_nil] at ha
  have hs : Stops after.1 := by
    have hs := Stops.nothing.blanks after
    rwa [List.append_nil] at hs
  rw [whole_toOption, Tree.document, String.toList_ofList, throughEnd, take_bind,
    h before t _ hs]
  cases view t with
  | none => rfl
  | some a => rw [Option.map_some, Option.bind_some, take_bind, hb]; rfl

end Reader

end PluginHost.Json
