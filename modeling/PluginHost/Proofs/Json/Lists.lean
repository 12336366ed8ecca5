import PluginHost.Proofs.Json.Values
/-!
Lists of values of a type, and pairs.
-/
namespace PluginHost.Json
open Reader

namespace Reader
variable {α β : Type}

theorem take_moreElements_end (first : Bool) (b : Blanks) (cs : List Char) :
    take (moreElements first) (b.1 ++ ']' :: cs) = some (false, ']' :: cs) := by
  unfold moreElements
  rw [take_afterBlanks?_bind b rfl]
  rfl

/-- Before an element comes nothing if it is the first, else a comma. -/
theorem take_moreElements (first : Bool) (b before : Blanks) (value : Tree) (rest : List Char) :
    take (moreElements first) (b.1 ++ separated first (before.1 ++ value.write rest)) =
      some (true, value.write rest) := by
  obtain ⟨d, cs, hd, hb, hc, hl, ho⟩ := value.write_cons rest
  rw [hd]
  unfold moreElements
  cases first with
  | true =>
    change take (afterBlanks? >>= _) (b.1 ++ (before.1 ++ d :: cs)) = _
    rw [take_bind, take_afterBlanks?_append, take_afterBlanks?_append, take_afterBlanks?_cons hb,
      Option.bind_some]
    split
    · rename_i heq
      exact nomatch heq
    · rename_i heq
      exact absurd (Option.some.inj heq) hl
    · rfl
  | false =>
    change take (afterBlanks? >>= _) (b.1 ++ ',' :: (before.1 ++ d :: cs)) = _
    rw [take_afterBlanks?_bind b rfl]
    change take (do skip; _) (',' :: (before.1 ++ d :: cs)) = _
    rw [take_bind, take_skip, Option.bind_some]
    change take (afterBlanks? >>= _) (before.1 ++ d :: cs) = _
    rw [take_afterBlanks?_bind before hb]
    split
    · rename_i heq
      exact absurd (Option.some.inj heq) hl
    · rfl
    · rename_i heq
      exact nomatch heq

theorem take_endList (b : Blanks) (cs : List Char) :
    take endList (b.1 ++ ']' :: cs) = some ((), cs) := by
  unfold endList
  rw [take_afterBlanks?_bind b rfl]
  rfl

theorem take_endList_more (first : Bool) (b before : Blanks) (value : Tree) (rest : List Char) :
    take endList (b.1 ++ separated first (before.1 ++ value.write rest)) = none := by
  obtain ⟨d, cs, hd, hb, hc, hl, ho⟩ := value.write_cons rest
  rw [hd]
  unfold endList
  cases first with
  | true =>
    change take (afterBlanks? >>= _) (b.1 ++ (before.1 ++ d :: cs)) = _
    rw [take_bind, take_afterBlanks?_append, take_afterBlanks?_append, take_afterBlanks?_cons hb,
      Option.bind_some]
    split
    · rename_i heq
      exact absurd (Option.some.inj heq) hl
    · rename_i heq
      exact absurd (Option.some.inj heq) hc
    · rfl
    · rfl
  | false =>
    change take (afterBlanks? >>= _) (b.1 ++ ',' :: (before.1 ++ d :: cs)) = _
    rw [take_afterBlanks?_bind b rfl]
    change take (do skip; _) (',' :: (before.1 ++ d :: cs)) = _
    rw [take_bind, take_skip, Option.bind_some]
    refine take_bind_none _ fun o cs => ?_
    split <;> rfl

theorem take_closedBy (inside : Reader α) (close : Reader Unit) (cs : List Char) :
    take (closedBy inside close) cs =
      (take inside cs).bind fun x => (take close x.2).map fun y => (x.1, y.2) := by
  unfold take closedBy
  cases inside cs with
  | ok x =>
    simp only [Except.toOption, Option.bind_some]
    cases close x.2 <;> rfl
  | error f =>
    dsimp only
    split <;> rfl

end Reader

theorem Items.length_trees (items : Items) (first : Bool) (rest : List Char) :
    items.trees.length ≤ (items.write first rest).length := by
  cases items with
  | nil => exact Nat.zero_le _
  | cons before value after more =>
    have h := more.length_trees false rest
    have hv := value.length_write (after.1 ++ more.write false rest)
    have hs := length_le_separated first
      (before.1 ++ value.write (after.1 ++ more.write false rest))
    simp only [Items.trees, Items.write, List.length_cons, List.length_append] at hv hs ⊢
    omega

namespace Reader
variable {α β : Type}

theorem take_elements {r : Reader α} {view : Tree → Option α} (h : Sees r view) (items : Items)
    {fuel : Nat} (hf : items.trees.length < fuel) (first : Bool) (b : Blanks) (rest : List Char) :
    take (elements r fuel first) (b.1 ++ items.write first (']' :: rest)) =
      (items.trees.mapM view).map fun as => (as, ']' :: rest) := by
  obtain ⟨fuel, rfl⟩ : ∃ m, fuel = m + 1 := ⟨fuel - 1, by omega⟩
  unfold elements
  rw [take_bind]
  match items with
  | .nil =>
    rw [Items.write, take_moreElements_end]
    rfl
  | .cons before value after more =>
    have hr := more.stops after rest
    have hv := h noBlanks value _ hr
    have hm := take_elements h more (Nat.lt_of_succ_lt_succ hf) false after rest
    rw [noBlanks, List.nil_append] at hv
    rw [Items.write, take_moreElements, Option.bind_some]
    dsimp only
    rw [if_pos rfl, take_bind, hv, Items.trees, List.mapM_cons]
    cases view value with
    | none => rfl
    | some a =>
      simp only [Option.map_some, Option.bind_some, take_bind, hm, take_pure]
      cases more.trees.mapM view <;> rfl

def inList (inside : Reader α) (expected : String) : Reader α := do
  match ← valueStart with
  | '[' => do
    skip
    closedBy inside endList
  | _ => wrongType expected

/-- A view of a list, from what is taken of its inside. -/
theorem sees_inList (inside : Reader α) {view : Tree → Option α} (expected : String)
    (hlist : ∀ inner items rest,
      ((take inside (inner.1 ++ items.write true (']' :: rest))).bind fun x =>
        (take endList x.2).map fun y => (x.1, y.2)) =
        (view (.list inner items)).map fun a => (a, rest))
    (hother : ∀ t, (∀ inner items, t ≠ .list inner items) → view t = none) :
    Sees (inList inside expected) view := by
  intro b t rest hr
  have hwrong (ht : t.start? ≠ some '[') (hn : ∀ inner items, t ≠ .list inner items) :
      take (inList inside expected) (b.1 ++ t.write rest) =
        (view t).map fun a => (a, rest) := by
    rw [hother t hn]
    refine take_otherStart ['['] (by decide) ?_ b t (by simpa using ht) rest
    intro c hc cs
    split
    · exact absurd (by decide) hc
    · exact take_wrongType _ _
  cases t with
  | list inner items =>
    rw [inList, Tree.write, take_valueStart_bind b rfl]
    change take (do skip; closedBy inside endList) _ = _
    rw [take_bind, take_skip, Option.bind_some, take_closedBy]
    exact hlist inner items rest
  | flag v => exact hwrong (by cases v <;> decide) (by simp)
  | _ => exact hwrong (by simp [Tree.start?]) (by simp)

theorem Sees.list {r : Reader α} {view : Tree → Option α} (h : Sees r view) :
    Sees (Reader.list r) (Tree.list? view) := by
  refine sees_inList (fun cs => elements r (cs.length + 1) true cs) "a sequence"
    (fun inner items rest => ?_) fun t ht => ?_
  · have hl := items.length_trees true (']' :: rest)
    have hi : take (fun cs => elements r (cs.length + 1) true cs)
        (inner.1 ++ items.write true (']' :: rest)) =
          (items.trees.mapM view).map fun as => (as, ']' :: rest) :=
      take_elements h items (by rw [List.length_append]; omega) true inner rest
    rw [hi, Tree.list?]
    cases items.trees.mapM view <;> rfl
  · cases t with
    | list inner items => exact absurd rfl (ht inner items)
    | _ => rfl

theorem take_nextElement {r : Reader α} {view : Tree → Option α} (h : Sees r view)
    (k : α → Reader β) (q : Reader β) (first : Bool) (b before : Blanks) (value : Tree)
    (after : Blanks) (more : Items) (rest : List Char) :
    take (do
        if ← moreElements first then
          let a ← r
          k a
        else q)
        (b.1 ++ (Items.cons before value after more).write first (']' :: rest)) =
      (view value).bind fun a => take (k a) (after.1 ++ more.write false (']' :: rest)) := by
  have hr := more.stops after rest
  have hv := h noBlanks value _ hr
  rw [noBlanks, List.nil_append] at hv
  rw [Items.write, take_bind, take_moreElements, Option.bind_some]
  dsimp only
  rw [if_pos rfl, take_bind, hv]
  cases view value <;> rfl

theorem take_noElement (k q : Reader β) (first : Bool) (b : Blanks) (rest : List Char) :
    take (do if ← moreElements first then k else q)
        (b.1 ++ Items.nil.write first (']' :: rest)) = take q (']' :: rest) := by
  rw [Items.write, take_bind, take_moreElements_end]
  rfl

theorem Sees.pair {r : Reader α} {view : Tree → Option α} (h : Sees r view) {r' : Reader β}
    {view' : Tree → Option β} (h' : Sees r' view') :
    Sees (Reader.pair r r') (Tree.pair? view view') := by
  refine sees_inList _ "a tuple of size 2" (fun inner items rest => ?_) fun t ht => ?_
  · cases items with
    | nil => rw [take_noElement]; rfl
    | cons before value after more =>
      rw [take_nextElement h]
      cases more with
      | nil =>
        have hp : Tree.pair? view view' (.list inner (.cons before value after .nil)) = none := rfl
        rw [hp]
        cases view value with
        | none => rfl
        | some a => rw [Option.bind_some, take_noElement]; rfl
      | cons before' value' after' more' =>
        have hp : Tree.pair? view view'
            (.list inner (.cons before value after (.cons before' value' after' more'))) =
              match more' with
              | .nil => (view value).bind fun a => (view' value').map fun b => (a, b)
              | _ => none := by
          cases more' <;> rfl
        rw [hp]
        cases view value with
        | none => cases more' <;> rfl
        | some a =>
          rw [Option.bind_some, take_nextElement h']
          cases view' value' with
          | none => cases more' <;> rfl
          | some a' =>
            rw [Option.bind_some, take_pure, Option.bind_some]
            cases more' with
            | nil =>
              rw [Items.write, take_endList]
              rfl
            | cons =>
              rw [Items.write, take_endList_more]
              rfl
  · cases t with
    | list inner items => exact absurd rfl (ht inner items)
    | _ => rfl

end Reader

end PluginHost.Json
