import PluginHost.Proofs.Sharing
/-!
What becomes of answers when tasks share a plugin. An answer goes to the task that asked, once, and
is lost only if that task dropped its request. Together with the order of turns this says what tasks
see of a shared plugin.
-/
namespace PluginHost
variable {g : Guest} {H : Type}

namespace Sharing
open Events

structure Answered (es : List (Event H)) (s : Sharing g H) : Prop where
  awaited : ∀ o, s.handle.holder = some o → o.awaited = false → .gaveUp o.ticket ∈ es
  /-- What is delivered to a task is the answer to its request. -/
  delivered : ∀ ticket task reply, (ticket, task, reply) ∈ deliveries es →
    ∃ x ∈ turns es, x.ticket = ticket ∧ x.reply = reply ∧
      s.asked[ticket]? = some (task, x.request)
  owed : ∀ ticket reply, (ticket, reply) ∈ s.owed →
    ∃ x ∈ turns es, x.ticket = ticket ∧ x.reply = reply
  /-- No answer is there twice. -/
  once : ((deliveries es).map Prod.fst ++ s.owed.map Prod.fst).Nodup
  /-- An answer is lost only if the task has dropped its request. -/
  kept : ∀ x ∈ turns es, .gaveUp x.ticket ∈ es ∨ (x.ticket, x.reply) ∈ s.owed ∨
    ∃ task, (x.ticket, task, x.reply) ∈ deliveries es

theorem start_answered (p : Plugin g H) : Answered [] (start p) where
  awaited := by
    intro o holds
    cases holds
  delivered := fun _ _ _ hm => absurd hm List.not_mem_nil
  owed := fun _ _ hm => absurd hm List.not_mem_nil
  once := List.nodup_nil
  kept := fun _ hx => absurd hx List.not_mem_nil

section Answered
variable {p : Plugin g H} {es : List (Event H)} {e : Event H} {s s' : Sharing g H}

/-- What ends no turn, delivers nothing and drops nothing leaves answers alone. -/
theorem Answered.of_quiet (h : Answered es s) (turn : e.turn? = none)
    (delivery : e.delivery? = none) (owed : s'.owed = s.owed)
    (asked : ∀ (ticket : Nat) (x : Nat × Request),
      s.asked[ticket]? = some x → s'.asked[ticket]? = some x)
    (awaited : ∀ o, s'.handle.holder = some o → o.awaited = false → .gaveUp o.ticket ∈ es) :
    Answered (es ++ [e]) s' := by
  have ht : turns (es ++ [e]) = turns es := turns_concat_of_none turn es
  have hd : deliveries (es ++ [e]) = deliveries es := deliveries_concat_of_none delivery es
  exact {
    awaited := fun o ho hn => List.mem_append_left _ (awaited o ho hn)
    delivered := by
      rw [ht, hd]
      intro ticket task reply hm
      obtain ⟨x, hx, hk, hr, ha⟩ := h.delivered ticket task reply hm
      exact ⟨x, hx, hk, hr, asked _ _ ha⟩
    owed := by
      rw [ht, owed]
      exact h.owed
    once := by
      rw [hd, owed]
      exact h.once
    kept := by
      rw [ht, hd, owed]
      exact fun x hx => (h.kept x hx).imp_left (List.mem_append_left _) }

theorem Answered.giveUp (h : Answered es s) (ticket : Nat) :
    Answered (es ++ [.gaveUp ticket]) (s.giveUp ticket) := by
  have ht : turns (es ++ [.gaveUp ticket]) = turns es := turns_concat_of_none rfl es
  have hd : deliveries (es ++ [.gaveUp ticket]) = deliveries es :=
    deliveries_concat_of_none rfl es
  have hsub : (s.giveUp ticket).owed.Sublist s.owed := List.filter_sublist
  exact {
    awaited := by
      intro o ho hn
      obtain ⟨o', ho', rfl⟩ := Option.map_eq_some_iff.mp ho
      by_cases he : o'.ticket = ticket
      · simp [he]
      · rw [if_neg he] at hn ⊢
        exact List.mem_append_left _ (h.awaited o' ho' hn)
    delivered := by
      rw [ht, hd]
      exact h.delivered
    owed := by
      rw [ht]
      exact fun k reply hm => h.owed k reply (hsub.mem hm)
    once := by
      rw [hd]
      exact ((hsub.map _).append_left _).nodup h.once
    kept := by
      rw [ht, hd]
      intro x hx
      by_cases he : x.ticket = ticket
      · exact .inl (by simp [he])
      · rcases h.kept x hx with hg | ho | hk
        · exact .inl (List.mem_append_left _ hg)
        · exact .inr (.inl (List.mem_filter.mpr ⟨ho, by simpa using he⟩))
        · exact .inr (.inr hk) }

/-- The request that has the lock has no answer yet, neither taken nor waiting. -/
theorem Answered.holder_unanswered (h : Answered es s) (hs : Serialized p es s) {o : Holder}
    (holds : s.handle.holder = some o) :
    o.ticket ∉ (deliveries es).map Prod.fst ++ s.owed.map Prod.fst := by
  intro hm
  rcases List.mem_append.mp hm with hm | hm
  · obtain ⟨⟨k, task, reply⟩, hd, rfl⟩ := List.mem_map.mp hm
    obtain ⟨x, hx, hk, -⟩ := h.delivered _ _ _ hd
    exact hs.holder_new holds hx hk
  · obtain ⟨⟨k, reply⟩, ho, rfl⟩ := List.mem_map.mp hm
    obtain ⟨x, hx, hk, -⟩ := h.owed _ _ ho
    exact hs.holder_new holds hx hk

theorem Answered.finish (h : Answered es s) (hs : Serialized p es s) {o : Holder}
    (holds : s.handle.holder = some o) (running : o.running = true) (w : World H) :
    Answered (es ++ [.ended (s.turn o w)]) (s.finish w) := by
  have ht : turns (es ++ [.ended (s.turn o w)]) = turns es ++ [s.turn o w] := turns_concat ..
  have hd : deliveries (es ++ [.ended (s.turn o w)]) = deliveries es :=
    deliveries_concat_of_none rfl es
  have ho : (s.finish w).owed =
      s.owed ++ if o.awaited then [(o.ticket, (s.turn o w).reply)] else [] := by
    rw [finish_eq holds running]
  have hn : (s.finish w).handle.holder = none := by
    rw [finish_eq holds running]
  exact {
    awaited := by
      rw [hn]
      intro o' ho'
      cases ho'
    delivered := by
      rw [ht, hd]
      intro k task reply hm
      obtain ⟨x, hx, hr⟩ := h.delivered k task reply hm
      exact ⟨x, List.mem_append_left _ hx, hr⟩
    owed := by
      rw [ht, ho]
      intro k reply hm
      rcases List.mem_append.mp hm with hm | hm
      · obtain ⟨x, hx, hr⟩ := h.owed k reply hm
        exact ⟨x, List.mem_append_left _ hx, hr⟩
      · split at hm
        · obtain ⟨rfl, rfl⟩ := Prod.mk.inj (List.mem_singleton.mp hm)
          exact ⟨s.turn o w, List.mem_append_right _ List.mem_cons_self, rfl, rfl⟩
        · cases hm
    once := by
      rw [hd, ho, List.map_append, ← List.append_assoc]
      split
      · rw [List.nodup_append]
        refine ⟨h.once, List.pairwise_singleton .., fun k hk l hl => ?_⟩
        obtain rfl := List.mem_singleton.mp hl
        rintro rfl
        exact h.holder_unanswered hs holds hk
      · rw [List.map_nil, List.append_nil]
        exact h.once
    kept := by
      rw [ht, hd, ho]
      intro x hx
      rcases List.mem_append.mp hx with hx | hx
      · rcases h.kept x hx with hg | ha | hk
        · exact .inl (List.mem_append_left _ hg)
        · exact .inr (.inl (List.mem_append_left _ ha))
        · exact .inr (.inr hk)
      · obtain rfl := List.mem_singleton.mp hx
        cases hw : o.awaited with
        | false => exact .inl (List.mem_append_left _ (h.awaited o holds hw))
        | true => exact .inr (.inl (List.mem_append_right _ List.mem_cons_self)) }

theorem Answered.take (h : Answered es s) (hs : Serialized p es s) {ticket task : Nat} {r : Request}
    {reply : Reply} (there : (ticket, reply) ∈ s.owed)
    (asker : s.asked[ticket]? = some (task, r)) :
    Answered (es ++ [.delivered ticket task reply]) (s.take ticket) := by
  have ht : turns (es ++ [.delivered ticket task reply]) = turns es := turns_concat_of_none rfl es
  have hd : deliveries (es ++ [.delivered ticket task reply]) =
      deliveries es ++ [(ticket, task, reply)] := deliveries_concat ..
  obtain ⟨x, hx, rfl, rfl⟩ := h.owed ticket reply there
  exact {
    awaited := fun o ho hn => List.mem_append_left _ (h.awaited o ho hn)
    delivered := by
      rw [ht, hd]
      intro k task' reply' hm
      rcases List.mem_append.mp hm with hm | hm
      · exact h.delivered k task' reply' hm
      · cases List.mem_singleton.mp hm
        obtain ⟨task', ha⟩ := hs.known _ (Serialized.turn_mem hx)
        cases Option.some.inj (asker.symm.trans ha)
        exact ⟨x, hx, rfl, rfl, asker⟩
    owed := by
      rw [ht]
      exact fun k reply hm => h.owed k reply (List.mem_filter.mp hm).1
    once := by
      have hk : x.ticket ∈ s.owed.map Prod.fst := List.mem_map_of_mem there
      have hsub : ((s.take x.ticket).owed.map Prod.fst).Sublist (s.owed.map Prod.fst) :=
        List.filter_sublist.map _
      -- The answer that is taken is not among those that are still owed.
      have hout : x.ticket ∉ (s.take x.ticket).owed.map Prod.fst := by
        simp [Sharing.take]
      obtain ⟨hdel, howed, hdis⟩ := List.nodup_append.mp h.once
      rw [hd, List.map_append, List.append_assoc, List.nodup_append]
      refine ⟨hdel, List.nodup_cons.mpr ⟨hout, hsub.nodup howed⟩, fun a ha b hb => ?_⟩
      rcases List.mem_cons.mp hb with rfl | hb
      · exact hdis a ha _ hk
      · exact hdis a ha b (hsub.mem hb)
    kept := by
      rw [ht, hd]
      intro y hy
      by_cases he : y.ticket = x.ticket
      · obtain rfl := hs.turn_unique hy hx he
        exact .inr (.inr ⟨task, List.mem_append_right _ List.mem_cons_self⟩)
      · rcases h.kept y hy with hg | ho | ⟨task', hk⟩
        · exact .inl (List.mem_append_left _ hg)
        · exact .inr (.inl (List.mem_filter.mpr ⟨ho, by simpa using he⟩))
        · exact .inr (.inr ⟨task', List.mem_append_left _ hk⟩) }

theorem Step.answered (hs : Step s e s') (hp : Serialized p es s) (h : Answered es s) :
    Answered (es ++ [e]) s' := by
  cases hs with
  | ask task r =>
    refine h.of_quiet rfl rfl rfl (fun _ _ ha => ?_) h.awaited
    exact (List.getElem?_append_left (List.getElem?_eq_some_iff.mp ha).1).trans ha
  | giveUp ticket made => exact h.giveUp ticket
  | lock place ticket r free waits =>
    refine h.of_quiet rfl rfl rfl (fun _ _ ha => ha) fun o ho hn => ?_
    rw [lockAt_eq free waits] at ho
    obtain rfl := Option.some.inj ho
    cases hn
  | begin o holds submitted =>
    refine h.of_quiet rfl rfl rfl (fun _ _ ha => ha) fun o' ho hn => ?_
    obtain ⟨o'', ho'', rfl⟩ := Option.map_eq_some_iff.mp ho
    exact h.awaited o'' ho'' hn
  | finish o w holds running => exact h.finish hp holds running w
  | deliver ticket task r reply there asker => exact h.take hp there asker

theorem Runs.answered (h : Runs p es s) : Answered es s := by
  induction h with
  | start => exact start_answered p
  | step before next ih => exact next.answered before.serialized ih

end Answered

section Served
variable {p : Plugin g H} {es : List (Event H)} {s : Sharing g H}

theorem Runs.askAll (task : Nat) (rs : List Request) (h : Runs p es s) :
    ∃ s', Runs p (es ++ rs.map (.asked task)) s' ∧
      s'.handle = (rs.zipIdx s.asked.length).foldl (fun h (r, i) => h.ask i r) s.handle ∧
      s'.handle.holder = s.handle.holder ∧ s'.owed = s.owed := by
  induction rs generalizing es s with
  | nil => exact ⟨s, by rwa [List.map_nil, List.append_nil], rfl, rfl, rfl⟩
  | cons r rs ih =>
    obtain ⟨s', hs, hh, hn, ho⟩ := ih (h.step (.ask task r))
    rw [List.append_assoc] at hs
    refine ⟨s', hs, ?_, hn, ho⟩
    rw [hh, Sharing.ask, List.length_append]
    rfl

/-- Serving in order is one of the things that can happen. -/
theorem Runs.serve (n : Nat) (h : Runs p es s) (free : s.handle.holder = none) (w : World H) :
    ∃ later s', Runs p (es ++ later) s' ∧ s'.handle = (s.handle.serve n w).2.1 ∧
      s'.owed = s.owed ++ (s.handle.serve n w).1 := by
  induction n generalizing es s w with
  | zero => exact ⟨[], s, by rwa [List.append_nil], rfl, (List.append_nil _).symm⟩
  | succ n ih =>
    obtain ⟨⟨q, waiting, holder⟩, asked, owed⟩ := s
    obtain rfl := free
    cases waiting with
    | nil => exact ⟨[], _, by rwa [List.append_nil], rfl, (List.append_nil _).symm⟩
    | cons x rest =>
      obtain ⟨ticket, r⟩ := x
      have hl := h.step (.lock 0 ticket r rfl rfl)
      have hb := hl.step (.begin ⟨ticket, r, false, true⟩ rfl rfl)
      have he := hb.step (.finish ⟨ticket, r, true, true⟩ w rfl rfl)
      obtain ⟨later, s', hs, hh, ho⟩ := ih he rfl (r.run (q, w)).2.2
      simp only [List.append_assoc] at hs
      refine ⟨_, s', hs, hh, ?_⟩
      rw [ho, Handle.serve_cons]
      exact List.append_assoc ..

/-- Requests that are all made at once and served in order are one thing that can happen. -/
theorem serveAll_runs (p : Plugin g H) (task : Nat) (rs : List Request) (w : World H) :
    ∃ later s, Runs p (rs.map (.asked task) ++ later) s ∧
      s.handle = ((Handle.ofPlugin p).serveAll rs w).2.1 ∧
      s.owed = ((Handle.ofPlugin p).serveAll rs w).1 := by
  obtain ⟨s₁, h₁, hh₁, hn, ho₁⟩ := Runs.start.askAll (p := p) task rs
  obtain ⟨later, s, h, hh, ho⟩ := h₁.serve rs.length hn w
  refine ⟨later, s, h, ?_, ?_⟩
  · rw [hh, hh₁]
    rfl
  · rw [ho, hh₁, ho₁]
    rfl

end Served

section Shared
variable {p : Plugin g H} {es : List (Event H)} {s : Sharing g H}

end Shared

end Sharing

end PluginHost
