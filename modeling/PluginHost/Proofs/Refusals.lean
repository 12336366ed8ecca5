import Mathlib.Data.List.Forall2
import Mathlib.Data.List.Induction
import PluginHost.GrowthLimit
/-!
What a limit on growth remembers. Every request is judged by its own size alone; whatever is asked
and in whichever order, the limit remembers the memory request that it refused last since it was
reset, and nothing else.
-/
namespace PluginHost

namespace GrowthLimit

/-- What a limit is asked or told. Sizes of memory count octets, those of tables elements. -/
inductive Request where
  | memory (current desired : Nat) (maximum : Option Nat)
  | table (current desired : Nat) (maximum : Option Nat)
  | reset
  deriving DecidableEq

namespace Request

def Fits (limit : Nat) : Request → Prop
  | .memory _ desired maximum => desired ≤ limit ∧ ∀ m ∈ maximum, desired ≤ m
  | .table _ desired maximum => desired ≤ 10000 ∧ ∀ m ∈ maximum, desired ≤ m
  | .reset => True

/-- A request that has no part in what is remembered: any for a table, and one for memory that is
granted. -/
def Passes (limit : Nat) : Request → Prop
  | .memory current desired maximum => Fits limit (.memory current desired maximum)
  | .table .. => True
  | .reset => False

def Answered (limit : Nat) (r : Request) : Option Bool → Prop
  | none => r = .reset
  | some granted => r ≠ .reset ∧ (granted = true ↔ r.Fits limit)

def LastRefused (limit : Nat) (rs : List Request) (octets : Nat) : Prop :=
  ∃ before current maximum behind, rs = before ++ .memory current octets maximum :: behind ∧
    ¬ Fits limit (.memory current octets maximum) ∧ ∀ r ∈ behind, r.Passes limit

end Request

open Request

def serve (l : GrowthLimit) : Request → Option Bool × GrowthLimit
  | .memory _ desired maximum =>
    let (granted, l) := l.askMemory desired maximum
    (some granted, l)
  | .table _ desired maximum => (some (askTable desired maximum), l)
  | .reset => (none, l.reset)

def after (l : GrowthLimit) (rs : List Request) : GrowthLimit :=
  rs.foldl (fun l r => (l.serve r).2) l

def answers (l : GrowthLimit) : List Request → List (Option Bool)
  | [] => []
  | r :: rs => (l.serve r).1 :: (l.serve r).2.answers rs

variable {l : GrowthLimit}

theorem askMemory_of_fits {current desired : Nat} {maximum : Option Nat}
    (h : Fits l.maxMemoryBytes (.memory current desired maximum)) :
    l.askMemory desired maximum = (true, l) := by
  obtain ⟨hd, hm⟩ := h
  have hm' : maximum.all (desired ≤ ·) = true := by
    cases maximum with
    | none => rfl
    | some m => simpa using hm m rfl
  unfold askMemory
  rw [if_pos (by simp [hd, hm'])]

theorem askMemory_of_not_fits {current desired : Nat} {maximum : Option Nat}
    (h : ¬ Fits l.maxMemoryBytes (.memory current desired maximum)) :
    l.askMemory desired maximum = (false, { l with refused := some desired }) := by
  unfold askMemory
  refine if_neg fun ha => h ?_
  simp only [Bool.and_eq_true, decide_eq_true_eq] at ha
  obtain ⟨hd, hm⟩ := ha
  refine ⟨hd, ?_⟩
  rintro m ⟨⟩
  simpa using hm

theorem askTable_iff (limit current desired : Nat) (maximum : Option Nat) :
    askTable desired maximum = true ↔ Fits limit (.table current desired maximum) := by
  unfold askTable maxTableElements
  rw [Bool.and_eq_true, decide_eq_true_eq, decide_eq_true_eq]
  cases maximum with
  | none => exact ⟨fun h => ⟨h.1, nofun⟩, fun h => ⟨h.1, h.1⟩⟩
  | some m =>
    constructor
    · rintro ⟨hm, hd⟩
      exact ⟨hd, fun _ he => Option.mem_some_iff.mp he ▸ hm⟩
    · rintro ⟨hd, hm⟩
      exact ⟨hm m rfl, hd⟩

/-- A request is judged by its size, and changes nothing unless it is a reset or refused. -/
theorem serve_maxMemoryBytes (l : GrowthLimit) (r : Request) :
    (l.serve r).2.maxMemoryBytes = l.maxMemoryBytes := by
  cases r with
  | memory current desired maximum =>
    by_cases h : Fits l.maxMemoryBytes (.memory current desired maximum)
    · simp only [serve, askMemory_of_fits h]
    · simp only [serve, askMemory_of_not_fits h]
  | table current desired maximum => rfl
  | reset => rfl

theorem serve_answered (l : GrowthLimit) (r : Request) :
    r.Answered l.maxMemoryBytes (l.serve r).1 := by
  cases r with
  | memory current desired maximum =>
    by_cases h : Fits l.maxMemoryBytes (.memory current desired maximum)
    · simp [serve, askMemory_of_fits h, Answered, h]
    · simp [serve, askMemory_of_not_fits h, Answered, h]
  | table current desired maximum => exact ⟨nofun, askTable_iff ..⟩
  | reset => rfl

theorem serve_of_passes {r : Request} (h : r.Passes l.maxMemoryBytes) : (l.serve r).2 = l := by
  cases r with
  | memory current desired maximum =>
    have hf : Fits l.maxMemoryBytes (.memory current desired maximum) := h
    simp only [serve, askMemory_of_fits hf]
  | table current desired maximum => rfl
  | reset => exact h.elim

theorem after_concat (l : GrowthLimit) (rs : List Request) (r : Request) :
    l.after (rs ++ [r]) = ((l.after rs).serve r).2 := by
  simp [after]

theorem after_maxMemoryBytes (l : GrowthLimit) (rs : List Request) :
    (l.after rs).maxMemoryBytes = l.maxMemoryBytes := by
  induction rs using List.reverseRecOn with
  | nil => rfl
  | append_singleton rs r ih => rw [after_concat, serve_maxMemoryBytes, ih]

theorem answers_answered (l : GrowthLimit) (rs : List Request) :
    List.Forall₂ (Answered l.maxMemoryBytes) rs (l.answers rs) := by
  induction rs generalizing l with
  | nil => exact .nil
  | cons r rs ih =>
    have hr := ih (l.serve r).2
    rw [serve_maxMemoryBytes] at hr
    exact .cons (l.serve_answered r) hr

namespace Request
variable {limit octets : Nat} {rs : List Request} {r : Request}

theorem lastRefused_concat (h : r.Passes limit) :
    LastRefused limit (rs ++ [r]) octets ↔ LastRefused limit rs octets := by
  constructor
  · rintro ⟨before, current, maximum, behind, he, hn, hp⟩
    rcases List.eq_nil_or_concat behind with rfl | ⟨behind, x, rfl⟩
    · obtain ⟨-, hx⟩ := List.append_inj' he rfl
      obtain rfl := List.singleton_inj.mp hx
      exact absurd h hn
    · rw [List.concat_eq_append] at he hp
      rw [← List.cons_append, ← List.append_assoc] at he
      obtain ⟨rfl, -⟩ := List.append_inj' he rfl
      exact ⟨before, current, maximum, behind, rfl, hn,
        fun x hx => hp x (List.mem_append_left _ hx)⟩
  · rintro ⟨before, current, maximum, behind, rfl, hn, hp⟩
    refine ⟨before, current, maximum, behind ++ [r], by simp, hn, fun x hx => ?_⟩
    rcases List.mem_append.mp hx with hx | hx
    · exact hp x hx
    · rwa [List.mem_singleton.mp hx]

theorem lastRefused_concat_of_not_passes (h : ¬ r.Passes limit) :
    LastRefused limit (rs ++ [r]) octets ↔
      ∃ current maximum, r = .memory current octets maximum := by
  constructor
  · rintro ⟨before, current, maximum, behind, he, -, hp⟩
    rcases List.eq_nil_or_concat behind with rfl | ⟨behind, x, rfl⟩
    · obtain ⟨-, hx⟩ := List.append_inj' he rfl
      exact ⟨current, maximum, List.singleton_inj.mp hx⟩
    · rw [List.concat_eq_append] at he hp
      rw [← List.cons_append, ← List.append_assoc] at he
      obtain ⟨-, hx⟩ := List.append_inj' he rfl
      obtain rfl := List.singleton_inj.mp hx
      exact absurd (hp r (by simp)) h
  · rintro ⟨current, maximum, rfl⟩
    exact ⟨rs, current, maximum, [], rfl, h, nofun⟩

end Request

/-- The size that is remembered is that of the last request that was refused. -/
theorem refused_after_eq_some_iff (max : Nat) (rs : List Request) (octets : Nat) :
    ((ofBytes max).after rs).refused = some octets ↔ LastRefused max rs octets := by
  -- From the last request back, as it hides what came before it unless it passes.
  induction rs using List.reverseRecOn with
  | nil =>
    refine ⟨nofun, ?_⟩
    rintro ⟨before, current, maximum, behind, he, -⟩
    simp at he
  | append_singleton rs r ih =>
    have hm : ((ofBytes max).after rs).maxMemoryBytes = max := after_maxMemoryBytes ..
    rw [after_concat]
    by_cases hp : r.Passes max
    · rw [serve_of_passes (by rwa [hm]), lastRefused_concat hp, ih]
    · rw [lastRefused_concat_of_not_passes hp]
      cases r with
      | memory current desired maximum =>
        have hn : ¬ Fits ((ofBytes max).after rs).maxMemoryBytes
            (.memory current desired maximum) := by
          rw [hm]
          exact hp
        simp [serve, askMemory_of_not_fits hn]
      | table current desired maximum => exact absurd trivial hp
      | reset => simp [serve, reset]

/-- A limit on growth judges every request by its size, whatever came before. Memory is granted up
to the limit and the declared maximum, a table up to 10000 elements and the declared maximum. After
any requests the limit remembers the size of the memory request that it refused last since the last
reset, or nothing where there is none; it was refused something exactly if it remembers a size.
Requests that are granted and requests for tables leave what is remembered as it is. -/
theorem last_refusal_remembered (max : Nat) (rs : List Request) :
    List.Forall₂ (Answered max) rs ((ofBytes max).answers rs) ∧
    (∀ octets, ((ofBytes max).after rs).refused = some octets ↔ LastRefused max rs octets) ∧
    (((ofBytes max).after rs).refused = none ↔ ∀ octets, ¬ LastRefused max rs octets) ∧
    (((ofBytes max).after rs).denied = true ↔
      ∃ octets, ((ofBytes max).after rs).refused = some octets) ∧
    ∀ r, r.Passes max → (ofBytes max).after (rs ++ [r]) = (ofBytes max).after rs := by
  have hr := refused_after_eq_some_iff max rs
  refine ⟨answers_answered (ofBytes max) rs, hr, ?_, Option.isSome_iff_exists, fun r hp => ?_⟩
  · rw [Option.eq_none_iff_forall_ne_some]
    exact forall_congr' fun octets => not_congr (hr octets)
  · rw [after_concat]
    refine serve_of_passes ?_
    rwa [after_maxMemoryBytes]

/-- Of two pages that are allowed, four and three are refused, with a reset in between, and two are
granted. That a table of 10001 elements is refused next is not remembered. -/
theorem three_pages_remembered :
    let rs : List Request := [.memory 65536 262144 none, .reset, .memory 65536 196608 (some 262144),
      .memory 65536 131072 none]
    LastRefused 131072 rs 196608 ∧
      ((ofBytes 131072).after (rs ++ [.table 0 10001 none])).refused = some 196608 := by
  intro rs
  obtain ⟨-, hr, -, -, hp⟩ := last_refusal_remembered 131072 rs
  have h : ((ofBytes 131072).after rs).refused = some 196608 := by decide
  rw [hp (.table 0 10001 none) trivial]
  exact ⟨(hr _).mp h, h⟩

end GrowthLimit

end PluginHost
