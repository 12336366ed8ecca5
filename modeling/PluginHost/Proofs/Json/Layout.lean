import PluginHost.Proofs.Json.Records
/-!
Ways to write the same value. Blanks, the escapes of strings and the order of members make no
difference to what is viewed.
-/
namespace PluginHost.Json
open Reader

/-- Two ways to write a value: blanks, escapes and the order of members may differ. -/
inductive Tree.Relaid : Tree → Tree → Prop where
  | null : Relaid .null .null
  | flag (v : Bool) : Relaid (.flag v) (.flag v)
  | number (n : Numeral) : Relaid (.number n) (.number n)
  | text {ps qs : List Piece} (meaning : keyOf ps = keyOf qs) : Relaid (.text ps) (.text qs)
  | list {inner inner' : Blanks} {items items' : Items}
    (values : List.Forall₂ Relaid items.trees items'.trees) :
    Relaid (.list inner items) (.list inner' items')
  | object {inner inner' : Blanks} {ms ms' : Members} {entries : List (Option String × Tree)}
    (order : ms.entries.Perm entries) (keys : entries.map Prod.fst = ms'.entries.map Prod.fst)
    (values : List.Forall₂ Relaid (entries.map Prod.snd) (ms'.entries.map Prod.snd)) :
    Relaid (.object inner ms) (.object inner' ms')

structure Rewritten (es entries es' : List (Option String × Tree)) : Prop where
  order : es.Perm entries
  keys : entries.map Prod.fst = es'.map Prod.fst
  values : List.Forall₂ Tree.Relaid (entries.map Prod.snd) (es'.map Prod.snd)

def Layless {α : Type} (view : Tree → Option α) : Prop :=
  ∀ t t' : Tree, t.Relaid t' → view t = view t'

/-! ### Members -/

theorem values_cons {k k' : Option String} {t t' : Tree} {es es' : List (Option String × Tree)}
    (keys : ((k, t) :: es).map Prod.fst = ((k', t') :: es').map Prod.fst)
    (values : List.Forall₂ Tree.Relaid (((k, t) :: es).map Prod.snd)
      (((k', t') :: es').map Prod.snd)) :
    k = k' ∧ t.Relaid t' ∧ es.map Prod.fst = es'.map Prod.fst ∧
      List.Forall₂ Tree.Relaid (es.map Prod.snd) (es'.map Prod.snd) := by
  obtain ⟨hk, hks⟩ := List.cons.inj keys
  obtain ⟨ht, hts⟩ := List.forall₂_cons.mp values
  exact ⟨hk, ht, hks, hts⟩

theorem valuesAt_relaid (key : String) {es es' : List (Option String × Tree)}
    (keys : es.map Prod.fst = es'.map Prod.fst)
    (values : List.Forall₂ Tree.Relaid (es.map Prod.snd) (es'.map Prod.snd)) :
    List.Forall₂ Tree.Relaid (valuesAt key es) (valuesAt key es') := by
  induction es generalizing es' with
  | nil =>
    obtain rfl : es' = [] := List.map_eq_nil_iff.mp keys.symm
    exact .nil
  | cons e es ih =>
    cases es' with
    | nil => exact nomatch keys
    | cons e' es' =>
      obtain ⟨k, t⟩ := e
      obtain ⟨k', t'⟩ := e'
      obtain ⟨rfl, ht, hks, hts⟩ := values_cons keys values
      have hrest := ih hks hts
      by_cases hk : k = some key
      · subst hk
        rw [valuesAt_cons_self, valuesAt_cons_self]
        exact .cons ht hrest
      · simpa [valuesAt, hk] using hrest

theorem rewritten_zip (ks : List (Option String)) {ts ts' : List Tree}
    (values : List.Forall₂ Tree.Relaid ts ts') :
    Rewritten (ks.zip ts) (ks.zip ts) (ks.zip ts') := by
  refine ⟨.refl _, ?_, ?_⟩
  · induction values generalizing ks with
    | nil => rfl
    | cons _ _ ih => cases ks <;> simp [ih]
  · induction values generalizing ks with
    | nil => simp
    | cons hv _ ih => cases ks <;> simp [hv, ih]

section Rewritten
variable {α : Type} {es entries es' : List (Option String × Tree)}

theorem Rewritten.texts_iff (h : Rewritten es entries es') :
    (∀ e ∈ es, e.1 ≠ none) ↔ ∀ e ∈ es', e.1 ≠ none := by
  have hall (l : List (Option String × Tree)) :
      (∀ e ∈ l, e.1 ≠ none) ↔ ∀ k ∈ l.map Prod.fst, k ≠ none := by simp
  rw [hall, hall, ← h.keys]
  exact forall_congr' fun k => imp_congr_left (h.order.map Prod.fst).mem_iff

/-- What a key gives does not depend on the way in which the members are written. -/
theorem Rewritten.gives_iff (h : Rewritten es entries es') {value : Tree → Option α}
    (hv : Layless value) {key : String} {d a : α} :
    Gives (value · = some ·) key es d a ↔ Gives (value · = some ·) key es' d a := by
  have hp : (valuesAt key es).Perm (valuesAt key entries) := h.order.filterMap _
  have hf := valuesAt_relaid key h.keys h.values
  unfold Gives
  generalize valuesAt key es = ts at hp
  generalize valuesAt key entries = us at hp hf
  generalize valuesAt key es' = vs at hf
  match ts, us, vs, hp, hf with
  | [], us, vs, hp, hf =>
    obtain rfl := hp.nil_eq
    obtain rfl := List.forall₂_nil_left_iff.mp hf
    exact Iff.rfl
  | [t], us, vs, hp, hf =>
    obtain rfl := hp.singleton_eq
    obtain ⟨u, _, ht, hn, rfl⟩ := List.forall₂_cons_left_iff.mp hf
    obtain rfl := List.forall₂_nil_left_iff.mp hn
    simp only [hv _ _ ht]
  | _ :: _ :: _, _, [], hp, hf =>
    exact absurd (hp.length_eq.trans hf.length_eq) (by simp)
  | _ :: _ :: _, _, [_], hp, hf =>
    exact absurd (hp.length_eq.trans hf.length_eq) (by simp)
  | _ :: _ :: _, _, _ :: _ :: _, hp, hf => exact Iff.rfl

theorem Rewritten.single_iff (h : Rewritten es entries es') {k : Option String} :
    es = [(k, .null)] ↔ es' = [(k, .null)] := by
  obtain ⟨order, keys, values⟩ := h
  constructor
  · rintro rfl
    obtain rfl := order.singleton_eq
    cases es' with
    | nil => exact nomatch keys
    | cons e' es' =>
      obtain ⟨k', t'⟩ := e'
      obtain ⟨rfl, ht, hks, -⟩ := values_cons keys values
      obtain rfl : es' = [] := List.map_eq_nil_iff.mp hks.symm
      cases ht
      rfl
  · rintro rfl
    cases entries with
    | nil => exact nomatch keys
    | cons e es' =>
      obtain ⟨k', t'⟩ := e
      obtain ⟨rfl, ht, hks, -⟩ := values_cons keys values
      obtain rfl : es' = [] := List.map_eq_nil_iff.mp hks
      cases ht
      exact List.perm_singleton.mp order

end Rewritten

/-! ### Views -/

section Views
variable {α β : Type} {view : Tree → Option α} {view' : Tree → Option β}

theorem Layless.map (h : Layless view) (f : α → β) : Layless fun t => (view t).map f :=
  fun _ _ ht => congrArg (Option.map f) (h _ _ ht)

theorem layless_flag : Layless Tree.flag? := fun _ _ h => by cases h <;> rfl

theorem layless_string : Layless Tree.string? := by
  intro t t' h
  cases h with
  | text meaning => exact meaning
  | _ => rfl

theorem layless_below (bound : Nat) : Layless (Tree.below? bound) := fun _ _ h => by
  cases h <;> rfl

theorem Layless.orNull (h : Layless view) : Layless (Tree.orNull? view) := by
  intro t t' ht
  have hv := congrArg (Option.map some) (h t t' ht)
  cases ht with
  | null => rfl
  | _ => exact hv

theorem choice?_object_iff {known : List (String × α)} {inner : Blanks} {ms : Members} {a : α} :
    Tree.choice? known (.object inner ms) = some a ↔
      ∃ name, ms.entries = [(some name, .null)] ∧ known.lookup name = some a := by
  simp only [Tree.choice?]
  split
  · rename_i name he
    simp [he]
  · rename_i he
    constructor
    · intro h
      cases h
    · rintro ⟨name, hn, -⟩
      exact absurd hn (he name)

theorem layless_choice (known : List (String × α)) : Layless (Tree.choice? known) := by
  intro t t' h
  cases h with
  | text meaning => exact congrArg (Option.bind · _) meaning
  | @object inner inner' ms ms' entries order keys values =>
    refine Option.ext fun a => ?_
    rw [choice?_object_iff, choice?_object_iff]
    exact exists_congr fun name => and_congr_left fun _ =>
      Rewritten.single_iff ⟨order, keys, values⟩
  | _ => rfl

theorem Layless.list (h : Layless view) : Layless (Tree.list? view) := by
  intro t t' ht
  cases ht with
  | @list inner inner' items items' values =>
    change items.trees.mapM view = items'.trees.mapM view
    generalize items.trees = ts at values
    generalize items'.trees = ts' at values
    induction values with
    | nil => rfl
    | cons hv _ ih => rw [List.mapM_cons, List.mapM_cons, h _ _ hv, ih]
  | _ => rfl

theorem Layless.pair (h : Layless view) (h' : Layless view') :
    Layless (Tree.pair? view view') := by
  intro t t' ht
  cases ht with
  | @list inner inner' items items' values =>
    simp only [Tree.pair?]
    generalize items.trees = ts at values
    generalize items'.trees = ts' at values
    match ts, ts', values with
    | [], [], _ => rfl
    | [_], [_], _ => rfl
    | [t, t'], [u, u'], .cons ht (.cons ht' .nil) => simp only [h _ _ ht, h' _ _ ht']
    | _ :: _ :: _ :: _, _ :: _ :: _ :: _, _ => rfl
  | _ => rfl

end Views

theorem rewritten_entries {σ : Type} (r : Record σ) {t t' : Tree} (h : t.Relaid t') :
    (r.entries? t = none ∧ r.entries? t' = none) ∨
      ∃ es entries es', r.entries? t = some es ∧ r.entries? t' = some es' ∧
        Rewritten es entries es' := by
  cases h with
  | @object inner inner' ms ms' entries order keys values =>
    exact .inr ⟨ms.entries, entries, ms'.entries, rfl, rfl, order, keys, values⟩
  | @list inner inner' items items' values =>
    simp only [Record.entries?, ← values.length_eq]
    split
    · exact .inr ⟨_, _, _, rfl, rfl, rewritten_zip _ values⟩
    · exact .inl ⟨rfl, rfl⟩
  | _ => exact .inl ⟨rfl, rfl⟩

end PluginHost.Json
