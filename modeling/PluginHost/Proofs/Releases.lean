import PluginHost.Proofs.Course
/-!
What the host runs the deallocator for in a call: once for each buffer that the call owns when its
body has ended, the latest first, and for nothing else.
-/
namespace PluginHost
variable {g : Guest} {H α : Type}

namespace Stage

theorem Course.recounts {actor : Actor g} {ms : List (Mark g H)} {s s' : Stage g H}
    {ds : List Deed} (h : Course actor ms s s') (hd : s.Did ds s') : Recounts ms ds := by
  obtain ⟨ds', hd', hr⟩ := h.marked.told
  rwa [hd.unique hd']

structure CleansUp (s s₁ : Stage g H) (name : String) (r : Except Failure α)
    (attempts : List (Block × Option Failure)) (r' : Except Failure α) (s₂ : Stage g H) : Prop where
  /-- While the body runs, the host enters the deallocator for no buffer. -/
  before : ∃ ms, Course (.host (.calling name)) ms (s.begun name) s₁ ∧
    Deeds.returned (entrances ms) = []
  /-- The latest buffer comes first. -/
  owned : ∃ (ds : List Deed) (adopted : Option Block), s.Did ds s₁ ∧
    s₁.tracked = adopted.toList ++ (Deeds.given ds).reverse
  attempted : attempts.map Prod.fst = s₁.tracked
  released : ∃ s', (s₁.leaving r).GivesBack name attempts s' ∧
    s₂ = s'.ended name r (keptFor attempts).head?
  /-- From then on the host enters the deallocator for those buffers and no others, and no export.
  -/
  after : ∃ ms, Course (.host (.calling name)) ms s₁ s₂ ∧
    Deeds.returned (entrances ms) = s₁.tracked ∧ Deeds.entries (entrances ms) = []
  ended : s₂.store.call = none ∧ s₂.store.phase = .idle
  poisoned : s₂.store.poisoned = true ↔ s.store.poisoned = true ∨ keptFor attempts ≠ []
  answered : r' = answer r (keptFor attempts).head?

/-- Cleanup of every accepted call, whatever guest and host functions do. The deallocator runs for
no buffer while the body runs; then it runs once for each buffer that the call owns, the latest
first, also after failures, and for no other. The call is over in any case, the instance is spoilt
exactly where the deallocator failed, and the first such failure is the answer of a call that went
well. -/
theorem cleanup_offers_each_owned_buffer_once {s s₁ s₂ : Stage g H} {name : String}
    {t body : Task g H α} {r r' : Except Failure α} (h : s.Accepts name t body)
    (hb : body.run (s.begun name) = (r, s₁)) (ht : t.run s = (r', s₂)) :
    ∃ attempts, s.CleansUp s₁ name (surface name s₁.store.guestError r) attempts r' s₂ := by
  obtain ⟨A, adopted, attempts, s', hw, ha, hg, hp⟩ := h.gives_back hb
  obtain ⟨rfl, rfl⟩ := Prod.mk.inj (ht.symm.trans hp)
  obtain ⟨C, hr, -⟩ := hg.recorded
  rw [ha] at hr
  have hs := hr.ended_steady hw
  obtain ⟨ms, hc⟩ := (course_carried name (s.begun name)).body h ⟨[], .rest⟩
  obtain ⟨ms', hc'⟩ := (course_carried name s₁).finish h hb ⟨[], .rest⟩
  rw [hb] at hc
  rw [ht] at hc'
  have hbody := hc.recounts hw.did
  have hclean := hc'.recounts (hr.did_of_leaving name)
  exact ⟨attempts, {
    before := ⟨ms, hc, hbody.returned.symm.trans hw.returned⟩
    owned := ⟨A, adopted, hw.did, hw.tracked.trans (List.append_nil _)⟩
    attempted := ha
    released := ⟨s', hg, rfl⟩
    after := ⟨ms', hc', hclean.returned.symm.trans hr.returned,
      hclean.entries.symm.trans hr.entries⟩
    ended := ⟨ended_call .., ended_phase ..⟩
    poisoned := by
      have hq := congrArg Fixed.poisoned hs
      change (s'.ended name _ _).store.poisoned = _ at hq
      rw [hq]
      cases keptFor attempts <;> simp
    answered := rfl }⟩

open Wasm in
theorem cleanup_offers_echoed_buffer_once :
    ∃ s₁ s₂ attempts,
      (exchange ⟨0, 0, 1⟩ "echo" 2 [1, 2, 3]).run (echoing.begun "echo") = (.ok [1, 2, 3], s₁) ∧
      (call "echo" [1, 2, 3]).run echoing = (.ok [1, 2, 3], s₂) ∧
      echoing.CleansUp (α := Bytes) s₁ "echo" (.ok [1, 2, 3]) attempts (.ok [1, 2, 3]) s₂ ∧
      attempts.map Prod.fst = [⟨1024, 3⟩] := by
  have ha : echoing.Accepts "echo" (call "echo" [1, 2, 3])
      (exchange ⟨0, 0, 1⟩ "echo" 2 [1, 2, 3]) :=
    .octets 2 ⟨0, 0, 1⟩ [1, 2, 3] rfl rfl rfl
  have hc : let body := (exchange ⟨0, 0, 1⟩ "echo" 2 [1, 2, 3]).run (echoing.begun "echo")
      body.1.toOption = some [1, 2, 3] ∧ body.2.store.guestError = none ∧
        body.2.tracked = [⟨1024, 3⟩] ∧
        ((call "echo" [1, 2, 3]).run echoing).1.toOption = some [1, 2, 3] := by
    decide +kernel
  obtain ⟨hr, hm, ht, hr'⟩ := hc
  rcases hb : (exchange ⟨0, 0, 1⟩ "echo" 2 [1, 2, 3]).run (echoing.begun "echo") with
    ⟨e | v, s₁⟩ <;> rw [hb] at hr hm ht
  · cases hr
  rcases hrun : (call "echo" [1, 2, 3]).run echoing with ⟨e | v', s₂⟩ <;> rw [hrun] at hr'
  · cases hr'
  obtain rfl := Option.some.inj hr
  obtain rfl := Option.some.inj hr'
  obtain ⟨attempts, hclean⟩ := cleanup_offers_each_owned_buffer_once ha hb hrun
  rw [hm] at hclean
  exact ⟨s₁, s₂, attempts, rfl, rfl, hclean, hclean.attempted.trans ht⟩

end Stage

end PluginHost
