import PluginHost.Proofs.Json.Skipping
/-!
Values of a type. A reader of such values takes from a text exactly what can be viewed in the value
that is written there, and nothing where the value is none of the type.
-/
namespace PluginHost.Json
open Reader

namespace Reader
variable {α β : Type}

def Sees (r : Reader α) (view : Tree → Option α) : Prop :=
  ∀ (b : Blanks) (t : Tree) (rest : List Char), Stops rest →
    take r (b.1 ++ t.write rest) = (view t).map fun a => (a, rest)

theorem Sees.map {r : Reader α} {view : Tree → Option α} (h : Sees r view) (f : α → β) :
    Sees (f <$> r) fun t => (view t).map f := by
  intro b t rest hr
  rw [take_map, h b t rest hr, Option.map_map, Option.map_map]
  rfl

theorem Sees.congr {r : Reader α} {view view' : Tree → Option α} (h : Sees r view)
    (he : ∀ t, view t = view' t) : Sees r view' := fun b t rest hr => by rw [h b t rest hr, he]

theorem take_bind_none {r : Reader α} {f : α → Reader β} (cs : List Char)
    (h : ∀ a cs, take (f a) cs = none) : take (r >>= f) cs = none := by
  rw [take_bind]
  cases take r cs with
  | none => rfl
  | some x => exact h x.1 x.2

theorem take_wrongType (expected : String) (cs : List Char) :
    take (wrongType expected : Reader α) cs = none := by
  unfold wrongType
  rw [take_bind, take_peek?, Option.bind_some]
  dsimp only
  split
  · exact take_bind_none _ fun _ _ => take_bind_none _ fun _ _ => rfl
  · exact take_bind_none _ fun _ _ => take_bind_none _ fun _ _ => rfl
  · exact take_bind_none _ fun _ _ => take_bind_none _ fun _ _ => rfl
  · exact take_bind_none _ fun _ _ => take_bind_none _ fun _ _ => rfl
  · exact take_bind_none _ fun _ _ => take_bind_none _ fun _ _ => rfl
  · rfl
  · rfl
  · split
    · exact take_bind_none _ fun _ _ => rfl
    · rfl
  · rfl

theorem take_valueStart_bind (b : Blanks) {c : Char} (hc : isBlank c = false) (cs : List Char)
    (f : Char → Reader α) : take (valueStart >>= f) (b.1 ++ c :: cs) = take (f c) (c :: cs) := by
  rw [take_bind, take_valueStart b hc]
  rfl

theorem take_afterBlanks?_bind (b : Blanks) {c : Char} (hc : isBlank c = false) (cs : List Char)
    (f : Option Char → Reader α) :
    take (afterBlanks? >>= f) (b.1 ++ c :: cs) = take (f (some c)) (c :: cs) := by
  rw [take_bind, take_afterBlanks?_append, take_afterBlanks?_cons hc]
  rfl

end Reader

def Tree.start? : Tree → Option Char
  | null => some 'n'
  | flag true => some 't'
  | flag false => some 'f'
  | text _ => some '"'
  | list .. => some '['
  | object .. => some '{'
  | number _ => none

@[simp] theorem Tree.start?_flag (v : Bool) :
    (flag v).start? = some (if v then 't' else 'f') := by cases v <;> rfl

def kindChars : List Char := ['n', 't', 'f', '"', '[', '{']

theorem Tree.start?_mem {t : Tree} {c : Char} (h : t.start? = some c) : c ∈ kindChars := by
  cases t with
  | number n => exact nomatch h
  | flag v => cases v <;> cases h <;> decide
  | _ => cases h; decide

theorem Tree.write_start (t : Tree) (rest : List Char) :
    ∃ c cs, t.write rest = c :: cs ∧ isBlank c = false ∧
      (t.start? = some c ∨ t.start? = none ∧ (c = '-' ∨ c.isDigit = true)) := by
  cases t with
  | number n =>
    unfold Tree.write Numeral.write
    split
    · exact ⟨_, _, rfl, rfl, .inr ⟨rfl, .inl rfl⟩⟩
    · obtain ⟨c, cs, he, hc⟩ := n.writeUnsigned_cons rest
      exact ⟨c, cs, he, isBlank_of_isDigit hc, .inr ⟨rfl, .inr hc⟩⟩
  | flag v => cases v <;> exact ⟨_, _, rfl, rfl, .inl rfl⟩
  | _ => exact ⟨_, _, rfl, rfl, .inl rfl⟩

theorem start_ne {t : Tree} {c k : Char}
    (hc : t.start? = some c ∨ t.start? = none ∧ (c = '-' ∨ c.isDigit = true)) (hk : k ∈ kindChars)
    (ht : t.start? ≠ some k) : c ≠ k := by
  rintro rfl
  have hn : ∀ d ∈ kindChars, d ≠ '-' ∧ d.isDigit = false := by simp [kindChars]
  obtain ⟨hm, hd⟩ := hn c hk
  rcases hc with hc | ⟨-, hc | hc⟩
  · exact ht hc
  · exact hm hc
  · exact Bool.false_ne_true (hd.symm.trans hc)

namespace Reader
variable {α β : Type}

/-- A reader that knows only some starts of values takes no value that starts otherwise. -/
theorem take_otherStart {f : Char → Reader α} (ks : List Char) (hk : ks ⊆ kindChars)
    (hf : ∀ c, c ∉ ks → ∀ cs, take (f c) cs = none) (b : Blanks) (t : Tree)
    (ht : ∀ k ∈ ks, t.start? ≠ some k) (rest : List Char) :
    take (valueStart >>= f) (b.1 ++ t.write rest) = none := by
  obtain ⟨c, cs, he, hc, hs⟩ := t.write_start rest
  rw [he, take_valueStart_bind b hc]
  exact hf c (fun hm => start_ne hs (hk hm) (ht c hm) rfl) _

theorem sees_bool : Sees bool Tree.flag? := by
  intro b t rest hr
  have hother (ht : t.start? ≠ some 't') (ht' : t.start? ≠ some 'f') :
      take bool (b.1 ++ t.write rest) = none := by
    refine take_otherStart ['t', 'f'] (by decide) ?_ b t (by simp [ht, ht']) rest
    intro c hc cs
    split
    · exact absurd (by decide) hc
    · exact absurd (by decide) hc
    · exact take_wrongType _ _
  cases t with
  | flag v => cases v <;> exact take_valueStart_bind b rfl _ _
  | _ => exact hother (by simp [Tree.start?]) (by simp [Tree.start?])

theorem take_text (expected : String) (b : Blanks) (ps : List Piece) (rest : List Char) :
    take (text expected) (b.1 ++ writeString ps rest) = (keyOf ps).map fun s => (s, rest) := by
  rw [text, writeString, take_valueStart_bind b rfl]
  change take (do skip; stringBody) _ = _
  rw [take_bind, take_skip, Option.bind_some]
  exact take_stringBody ps rest

theorem take_text_other {c : Char} (hc : c ≠ '"') (hb : isBlank c = false) (expected : String)
    (b : Blanks) (cs : List Char) : take (text expected) (b.1 ++ c :: cs) = none := by
  rw [text, take_valueStart_bind b hb]
  split
  · exact absurd rfl hc
  · exact take_wrongType _ _

theorem sees_text (expected : String) : Sees (text expected) Tree.string? := by
  intro b t rest hr
  have hother (ht : t.start? ≠ some '"') :
      take (text expected) (b.1 ++ t.write rest) = none := by
    obtain ⟨c, cs, he, hb, hc⟩ := t.write_start rest
    rw [he]
    exact take_text_other (start_ne hc (by decide) ht) hb expected b cs
  cases t with
  | text ps => exact take_text expected b ps rest
  | flag v => exact hother (by cases v <;> decide)
  | _ => exact hother (by simp [Tree.start?])

theorem sees_natural {bound : Nat} (hb : bound ≤ UInt64.size) (expected : String) :
    Sees (natural bound expected) (Tree.below? bound) := by
  intro b t rest hr
  have hother {c : Char} (ht : t.start? = some c) (hn : t.natural? = none) :
      take (natural bound expected) (b.1 ++ t.write rest) = none := by
    obtain ⟨d, cs, he, hb, hd⟩ := t.write_start rest
    have hm : d ∈ kindChars := by
      rcases hd with hd | ⟨hd, -⟩
      · exact Tree.start?_mem hd
      · exact nomatch hd.symm.trans ht
    have hk : ∀ d ∈ kindChars, d ≠ '-' ∧ d.isDigit = false := by simp [kindChars]
    obtain ⟨hs, hi⟩ := hk d hm
    rw [he, natural, take_valueStart_bind b hb]
    dsimp only
    rw [if_neg hs, if_neg (by simp [hi]), take_bind, take_wrongType]
    rfl
  cases t with
  | number n =>
    rw [Tree.write, take_natural hb expected b n hr]
    cases he : n.natural? with
    | none => simp [Tree.below?, Tree.natural?, he]
    | some m =>
      simp only [Tree.below?, Tree.natural?, he, Option.bind_some]
      split <;> rfl
  | flag v => exact hother (Tree.start?_flag v) rfl
  | _ => exact hother rfl rfl

theorem sees_u32 : Sees u32 (Tree.below? UInt32.size) := sees_natural (by decide) _

theorem sees_u64 : Sees u64 (Tree.below? UInt64.size) := sees_natural (Nat.le_refl _) _

def noBlanks : Blanks := ⟨[], by simp⟩

theorem Sees.optional {r : Reader α} {view : Tree → Option α} (h : Sees r view) :
    Sees (optional r) (Tree.orNull? view) := by
  intro b t rest hr
  have hother (ht : t.start? ≠ some 'n') :
      take (Reader.optional r) (b.1 ++ t.write rest) =
        ((view t).map some).map fun a => (a, rest) := by
    obtain ⟨c, cs, he, hb, hc⟩ := t.write_start rest
    have hn : c ≠ 'n' := start_ne hc (by decide) ht
    have hv := h.map some noBlanks t rest hr
    rw [noBlanks, List.nil_append, he] at hv
    rw [he, Reader.optional, take_afterBlanks?_bind b hb]
    split
    · rename_i heq
      exact absurd (Option.some.inj heq) hn
    · exact hv
  cases t with
  | null => exact take_afterBlanks?_bind b rfl _ _
  | flag v => exact hother (by cases v <;> decide)
  | _ => exact hother (by simp [Tree.start?])

theorem take_variant (known : List (String × α)) (b : Blanks) (ps : List Piece)
    (rest : List Char) :
    take (variant known) (b.1 ++ writeString ps rest) =
      ((keyOf ps).bind fun name => known.lookup name).map fun a => (a, rest) := by
  unfold variant
  rw [take_bind, take_text]
  cases keyOf ps with
  | none => rfl
  | some name =>
    simp only [Option.map_some, Option.bind_some]
    cases known.lookup name <;> rfl

theorem take_colon (gap : Blanks) (cs : List Char) :
    take colon (gap.1 ++ ':' :: cs) = some ((), cs) := by
  unfold colon
  rw [take_afterBlanks?_bind gap rfl]
  rfl

end Reader

def joinedBlanks (b b' : Blanks) : Blanks :=
  ⟨b.1 ++ b'.1, fun c hc => (List.mem_append.mp hc).elim (b.2 c) (b'.2 c)⟩

namespace Reader
variable {α β : Type}

def unitMember (a : α) : Reader α := do
  colon
  match ← valueStart with
  | 'n' => do skip; ident ['u', 'l', 'l']
  | _ => wrongType "unit"
  match ← afterBlanks? with
  | some '}' => do skip; pure a
  | some _ => failHere .expectedValue
  | none => failHere .endInObject

theorem take_choice_object (known : List (String × α)) (b : Blanks) (cs : List Char) :
    take (choice known) (b.1 ++ '{' :: cs) =
      (take (variant known) cs).bind fun x => take (unitMember x.1) x.2 := by
  rw [choice, take_afterBlanks?_bind b rfl]
  change take (do skip; let a ← variant known; _) _ = _
  rw [take_bind, take_skip, Option.bind_some, take_bind]
  rfl

theorem take_unitMember_null (a : α) (gap lead after : Blanks) {c : Char} (hc : isBlank c = false)
    (cs : List Char) :
    take (unitMember a) (gap.1 ++ ':' :: (lead.1 ++ Tree.null.write (after.1 ++ c :: cs))) =
      if c = '}' then some (a, cs) else none := by
  have hi : take (ident ['u', 'l', 'l']) ('u' :: 'l' :: 'l' :: (after.1 ++ c :: cs)) =
      some ((), after.1 ++ c :: cs) := take_ident ['u', 'l', 'l'] _
  unfold unitMember
  rw [take_bind, take_colon, Option.bind_some, Tree.write, take_valueStart_bind lead rfl]
  simp only [take_bind, take_skip, Option.bind_some, List.tail_cons, hi, take_afterBlanks?_append,
    take_afterBlanks?_cons hc]
  split
  · rename_i heq
    rw [if_pos (Option.some.inj heq)]
    rfl
  · rename_i hn heq
    cases heq
    rw [if_neg hn]
    rfl
  · rename_i heq
    exact nomatch heq

theorem take_unitMember_other (a : α) (gap lead : Blanks) {t : Tree} (ht : t.start? ≠ some 'n')
    (rest : List Char) :
    take (unitMember a) (gap.1 ++ ':' :: (lead.1 ++ t.write rest)) = none := by
  obtain ⟨c, cs, he, hb, hc⟩ := t.write_start rest
  have hn : c ≠ 'n' := start_ne hc (by decide) ht
  unfold unitMember
  rw [take_bind, take_colon, Option.bind_some, he, take_valueStart_bind lead hb]
  split
  · exact absurd rfl hn
  · rw [take_bind, take_wrongType]
    rfl

theorem take_unitMember (a : α) (gap lead : Blanks) (value : Tree) (after : Blanks)
    (more : Members) (rest : List Char) :
    take (unitMember a) (gap.1 ++ ':' :: (lead.1 ++ value.write
        (after.1 ++ more.write false ('}' :: rest)))) =
      match value, more with
      | .null, .nil => some (a, rest)
      | _, _ => none := by
  cases value with
  | null =>
    cases more with
    | nil => exact take_unitMember_null a gap lead after rfl rest
    | cons => exact take_unitMember_null a gap lead after rfl _
  | flag v => exact take_unitMember_other a gap lead (by cases v <;> decide) _
  | _ => exact take_unitMember_other a gap lead (by simp [Tree.start?]) _

theorem choice?_cons (known : List (String × α)) (inner before : Blanks) (key : List Piece)
    (gap lead : Blanks) (value : Tree) (after : Blanks) (more : Members) :
    Tree.choice? known (.object inner (.cons before key gap lead value after more)) =
      match value, more with
      | .null, .nil => (keyOf key).bind fun name => known.lookup name
      | _, _ => none := by
  simp only [Tree.choice?, Members.entries]
  cases keyOf key <;> cases value <;> cases more <;> rfl

theorem sees_choice (known : List (String × α)) : Sees (choice known) (Tree.choice? known) := by
  intro b t rest hr
  have hother (ho : t.start? ≠ some '{') (hs : t.start? ≠ some '"') :
      take (choice known) (b.1 ++ t.write rest) = none := by
    obtain ⟨c, cs, he, hb, hc⟩ := t.write_start rest
    have hn : c ≠ '{' := start_ne hc (by decide) ho
    have hn' : c ≠ '"' := start_ne hc (by decide) hs
    rw [he, choice, take_afterBlanks?_bind b hb]
    split
    · rename_i heq
      exact absurd (Option.some.inj heq) hn
    · rename_i heq
      exact absurd (Option.some.inj heq) hn'
    · rfl
    · rfl
  cases t with
  | text ps =>
    have hv := take_variant known noBlanks ps rest
    rw [choice, Tree.write, writeString, take_afterBlanks?_bind b rfl]
    exact hv
  | object inner members =>
    rw [Tree.write, take_choice_object]
    cases members with
    | nil =>
      rw [variant, take_bind, Members.write, take_text_other (by decide) rfl]
      rfl
    | cons before key gap lead value after more =>
      have hk := take_variant known (joinedBlanks inner before) key
        (gap.1 ++ ':' :: (lead.1 ++ value.write (after.1 ++ more.write false ('}' :: rest))))
      rw [joinedBlanks, List.append_assoc] at hk
      simp only [Members.write, separated, reduceIte]
      rw [hk, choice?_cons]
      cases (keyOf key).bind fun name => known.lookup name with
      | none => split <;> rfl
      | some a =>
        rw [Option.map_some, Option.bind_some, take_unitMember]
        split <;> rfl
  | flag v => exact hother (by cases v <;> decide) (by cases v <;> decide)
  | _ => exact hother (by simp [Tree.start?]) (by simp [Tree.start?])

end Reader

end PluginHost.Json
