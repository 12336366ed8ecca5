import Mathlib.Data.List.Nodup
import Mathlib.Data.List.Perm.Basic
import PluginHost.Handle
import PluginHost.Proofs.Lifetime
/-!
Many tasks share one plugin through clones of a handle. A task makes requests, drops them when it
likes and takes answers that are there. One request at a time has the lock: it is handed to a thread
together with the lock, runs there and lets the lock go. Whatever the tasks do, and whichever of
them get the lock, requests run as they would on a plain plugin, one after the other.
-/
namespace PluginHost
variable {g : Guest} {H : Type}

namespace Request

def refusal (p : Plugin g H) : Request → Reply
  | .call .. => .bytes (.error .closed)
  | .callValues .. => .values (.error .closed)
  | .functionExists name => .flag (p.functionExists name)
  | .isClosed => .flag true
  | .close => .done

end Request

namespace Plugin

/-- The answers of a plain plugin to requests one after the other, and what becomes of it. Each
request finds what plugins share as others left it. -/
def serve (p : Plugin g H) : List (Request × World H) → List Reply × Plugin g H
  | [] => ([], p)
  | (r, w) :: rest =>
    let (reply, q, _) := r.run (p, w)
    let (replies, q) := q.serve rest
    (reply :: replies, q)

theorem serve_cons (p : Plugin g H) (r : Request) (w : World H) (rest : List (Request × World H)) :
    p.serve ((r, w) :: rest) =
      ((r.run (p, w)).1 :: ((r.run (p, w)).2.1.serve rest).1,
        ((r.run (p, w)).2.1.serve rest).2) := rfl

theorem serve_append (p : Plugin g H) (xs ys : List (Request × World H)) :
    p.serve (xs ++ ys) =
      ((p.serve xs).1 ++ ((p.serve xs).2.serve ys).1, ((p.serve xs).2.serve ys).2) := by
  induction xs generalizing p with
  | nil => rfl
  | cons x xs ih =>
    obtain ⟨r, w⟩ := x
    rw [List.cons_append, serve_cons, ih, serve_cons]
    rfl

end Plugin

namespace Handle

theorem finish_eq {h : Handle g H} {o : Holder} (holds : h.holder = some o)
    (running : o.running = true) (w : World H) :
    h.finish w =
      (if o.awaited then some (o.ticket, (o.request.run (h.plugin, w)).1) else none,
        ⟨(o.request.run (h.plugin, w)).2.1, h.waiting, none⟩,
        (o.request.run (h.plugin, w)).2.2) := by
  obtain ⟨plugin, waiting, holder⟩ := h
  obtain ⟨ticket, request, runs, awaited⟩ := o
  obtain rfl := holds
  obtain rfl := running
  rfl

theorem serve_cons (n : Nat) (p : Plugin g H) (ticket : Nat) (r : Request)
    (rest : List (Nat × Request)) (w : World H) :
    serve (n + 1) ⟨p, (ticket, r) :: rest, none⟩ w =
      ((ticket, (r.run (p, w)).1) ::
          (serve n ⟨(r.run (p, w)).2.1, rest, none⟩ (r.run (p, w)).2.2).1,
        (serve n ⟨(r.run (p, w)).2.1, rest, none⟩ (r.run (p, w)).2.2).2) := rfl

theorem map_holder_giveUp {α : Type} (f : Holder → α)
    (hf : ∀ o : Holder, f { o with awaited := false } = f o) (h : Handle g H) (ticket : Nat) :
    (h.giveUp ticket).holder.toList.map f = h.holder.toList.map f := by
  cases hh : h.holder with
  | none => simp [giveUp, hh]
  | some o =>
    by_cases ho : o.ticket = ticket
    · simpa [giveUp, hh, ho] using hf o
    · simp [giveUp, hh, ho]

end Handle

structure Turn (H : Type) where
  ticket : Nat
  request : Request
  world : World H
  reply : Reply

inductive Event (H : Type) where
  | asked (task : Nat) (r : Request)
  | gaveUp (ticket : Nat)
  | locked (ticket : Nat)
  | began (ticket : Nat)
  | ended (turn : Turn H)
  | delivered (ticket task : Nat) (reply : Reply)

namespace Turn

def work (x : Turn H) : Request × World H := (x.request, x.world)

def events (x : Turn H) : List (Event H) := [.locked x.ticket, .began x.ticket, .ended x]

end Turn

def Holder.events (o : Holder) : List (Event H) :=
  .locked o.ticket :: if o.running then [.began o.ticket] else []

namespace Event

def ask? : Event H → Option (Nat × Request)
  | .asked task r => some (task, r)
  | _ => none

def turn? : Event H → Option (Turn H)
  | .ended turn => some turn
  | _ => none

def delivery? : Event H → Option (Nat × Nat × Reply)
  | .delivered ticket task reply => some (ticket, task, reply)
  | _ => none

def ofLock : Event H → Bool
  | .locked _ => true
  | .began _ => true
  | .ended _ => true
  | _ => false

end Event

namespace Events

def asks (es : List (Event H)) : List (Nat × Request) := es.filterMap Event.ask?

def turns (es : List (Event H)) : List (Turn H) := es.filterMap Event.turn?

def deliveries (es : List (Event H)) : List (Nat × Nat × Reply) := es.filterMap Event.delivery?

theorem asks_concat (es : List (Event H)) (e : Event H) :
    asks (es ++ [e]) = asks es ++ e.ask?.toList := by
  rw [asks, List.filterMap_append]
  cases e <;> rfl

theorem turns_concat (es : List (Event H)) (e : Event H) :
    turns (es ++ [e]) = turns es ++ e.turn?.toList := by
  rw [turns, List.filterMap_append]
  cases e <;> rfl

theorem turns_concat_of_none {e : Event H} (h : e.turn? = none) (es : List (Event H)) :
    turns (es ++ [e]) = turns es := by
  rw [turns_concat, h]
  exact List.append_nil _

theorem deliveries_concat (es : List (Event H)) (e : Event H) :
    deliveries (es ++ [e]) = deliveries es ++ e.delivery?.toList := by
  rw [deliveries, List.filterMap_append]
  cases e <;> rfl

theorem deliveries_concat_of_none {e : Event H} (h : e.delivery? = none) (es : List (Event H)) :
    deliveries (es ++ [e]) = deliveries es := by
  rw [deliveries_concat, h]
  exact List.append_nil _

end Events

open Events

structure Sharing (g : Guest) (H : Type) where
  handle : Handle g H
  asked : List (Nat × Request)
  /-- Answers that are there and that nobody has taken yet, each under its ticket. -/
  owed : List (Nat × Reply)

namespace Sharing

def start (p : Plugin g H) : Sharing g H := ⟨.ofPlugin p, [], []⟩

def ask (s : Sharing g H) (task : Nat) (r : Request) : Sharing g H :=
  { s with handle := s.handle.ask s.asked.length r, asked := s.asked ++ [(task, r)] }

def giveUp (s : Sharing g H) (ticket : Nat) : Sharing g H :=
  { s with handle := s.handle.giveUp ticket, owed := s.owed.filter fun a => a.1 ≠ ticket }

def lockAt (s : Sharing g H) (place : Nat) : Sharing g H :=
  { s with handle := s.handle.grantAt place }

theorem lockAt_eq {s : Sharing g H} (free : s.handle.holder = none) {place ticket : Nat}
    {r : Request} (waits : s.handle.waiting[place]? = some (ticket, r)) :
    s.lockAt place =
      { s with handle := ⟨s.handle.plugin, s.handle.waiting.eraseIdx place,
          some ⟨ticket, r, false, true⟩⟩ } := by
  simp only [lockAt, Handle.grantAt, free, waits]

def begin (s : Sharing g H) : Sharing g H := { s with handle := s.handle.start }

def finish (s : Sharing g H) (w : World H) : Sharing g H :=
  { s with
    handle := (s.handle.finish w).2.1
    owed := s.owed ++ (s.handle.finish w).1.toList }

def take (s : Sharing g H) (ticket : Nat) : Sharing g H :=
  { s with owed := s.owed.filter fun a => a.1 ≠ ticket }

def turn (s : Sharing g H) (o : Holder) (w : World H) : Turn H :=
  ⟨o.ticket, o.request, w, (o.request.run (s.handle.plugin, w)).1⟩

theorem finish_eq {s : Sharing g H} {o : Holder} (holds : s.handle.holder = some o)
    (running : o.running = true) (w : World H) :
    s.finish w =
      ⟨⟨(o.request.run (s.handle.plugin, w)).2.1, s.handle.waiting, none⟩, s.asked,
        s.owed ++ if o.awaited then [(o.ticket, (s.turn o w).reply)] else []⟩ := by
  rw [finish, Handle.finish_eq holds running]
  cases o.awaited <;> rfl

/-- What can happen next. A request that is no call does not leave its task: it takes the lock,
runs, lets the lock go and answers in one go. Here others may come in between, and it may be dropped
there as well, which adds to what can happen. -/
inductive Step (s : Sharing g H) : Event H → Sharing g H → Prop
  | ask (task : Nat) (r : Request) : Step s (.asked task r) (s.ask task r)
  /-- A task may drop a request that waits, runs or is answered. -/
  | giveUp (ticket : Nat) (made : ticket < s.asked.length) :
      Step s (.gaveUp ticket) (s.giveUp ticket)
  /-- Any request that waits may get the lock. -/
  | lock (place ticket : Nat) (r : Request) (free : s.handle.holder = none)
      (waits : s.handle.waiting[place]? = some (ticket, r)) :
      Step s (.locked ticket) (s.lockAt place)
  | begin (o : Holder) (holds : s.handle.holder = some o) (submitted : o.running = false) :
      Step s (.began o.ticket) s.begin
  | finish (o : Holder) (w : World H) (holds : s.handle.holder = some o)
      (running : o.running = true) : Step s (.ended (s.turn o w)) (s.finish w)
  | deliver (ticket task : Nat) (r : Request) (reply : Reply) (there : (ticket, reply) ∈ s.owed)
      (asker : s.asked[ticket]? = some (task, r)) :
      Step s (.delivered ticket task reply) (s.take ticket)

inductive Runs (p : Plugin g H) : List (Event H) → Sharing g H → Prop
  | start : Runs p [] (start p)
  | step {es : List (Event H)} {e : Event H} {s s' : Sharing g H} (before : Runs p es s)
      (next : Step s e s') : Runs p (es ++ [e]) s'

/-- Where requests are that were not dropped while they waited: they have had their turn, have the
lock or wait for it. -/
def places (s : Sharing g H) (es : List (Event H)) : List (Nat × Request) :=
  (turns es).map (fun x => (x.ticket, x.request)) ++
    (s.handle.holder.toList.map (fun o => (o.ticket, o.request)) ++ s.handle.waiting)

section Places
variable (s : Sharing g H) (es : List (Event H))

theorem places_ask (task : Nat) (r : Request) :
    (s.ask task r).places (es ++ [.asked task r]) = s.places es ++ [(s.asked.length, r)] := by
  have ht : turns (es ++ [.asked task r]) = turns es := turns_concat_of_none rfl es
  simp only [places, ht, ask, Handle.ask, List.append_assoc]

theorem places_giveUp (ticket : Nat) :
    (s.giveUp ticket).places (es ++ [.gaveUp ticket]) =
      (turns es).map (fun x => (x.ticket, x.request)) ++
        (s.handle.holder.toList.map (fun o => (o.ticket, o.request)) ++
          s.handle.waiting.filter fun w => w.1 ≠ ticket) := by
  have ht : turns (es ++ [.gaveUp ticket]) = turns es := turns_concat_of_none rfl es
  have hh : (s.giveUp ticket).handle.holder.toList.map (fun o => (o.ticket, o.request)) = _ :=
    s.handle.map_holder_giveUp _ (fun _ => rfl) ticket
  rw [places, ht, hh]
  rfl

theorem places_lockAt {place ticket : Nat} {r : Request} (free : s.handle.holder = none)
    (waits : s.handle.waiting[place]? = some (ticket, r)) :
    ((s.lockAt place).places (es ++ [.locked ticket])).Perm (s.places es) := by
  have ht : turns (es ++ [.locked ticket]) = turns es := turns_concat_of_none rfl es
  obtain ⟨hn, hr⟩ := List.getElem?_eq_some_iff.mp waits
  have hp := List.getElem_cons_eraseIdx_perm hn
  rw [hr] at hp
  rw [places, ht, lockAt_eq free waits, places, free]
  exact hp.append_left _

theorem places_begin {o : Holder} (holds : s.handle.holder = some o) :
    s.begin.places (es ++ [.began o.ticket]) = s.places es := by
  have ht : turns (es ++ [.began o.ticket]) = turns es := turns_concat_of_none rfl es
  rw [places, ht, begin, Handle.start, holds, places, holds]
  rfl

theorem places_finish {o : Holder} (holds : s.handle.holder = some o)
    (running : o.running = true) (w : World H) :
    (s.finish w).places (es ++ [.ended (s.turn o w)]) = s.places es := by
  have ht : turns (es ++ [.ended (s.turn o w)]) = turns es ++ [s.turn o w] := turns_concat ..
  rw [places, ht, finish_eq holds running, places, holds]
  simp [turn]

theorem places_take (ticket task : Nat) (reply : Reply) :
    (s.take ticket).places (es ++ [.delivered ticket task reply]) = s.places es := by
  have ht : turns (es ++ [.delivered ticket task reply]) = turns es := turns_concat_of_none rfl es
  rw [places, ht]
  rfl

end Places

structure Serialized (p : Plugin g H) (es : List (Event H)) (s : Sharing g H) : Prop where
  asked : asks es = s.asked
  /-- All that happens to the lock are turns, each of which is over before the next one begins, and
  what has happened so far in the last one. -/
  exclusive : es.filter Event.ofLock =
    (turns es).flatMap Turn.events ++ s.handle.holder.toList.flatMap Holder.events
  /-- No request is in two places. -/
  once : ((s.places es).map Prod.fst).Nodup
  known : ∀ x ∈ s.places es, ∃ task, s.asked[x.1]? = some (task, x.2)
  /-- A request is lost only if its task drops it. -/
  present : ∀ ticket < s.asked.length, .gaveUp ticket ∈ es ∨ ticket ∈ (s.places es).map Prod.fst
  serial : p.serve ((turns es).map Turn.work) = ((turns es).map Turn.reply, s.handle.plugin)

theorem Serialized.made {p : Plugin g H} {es : List (Event H)} {s : Sharing g H}
    (h : Serialized p es s) {x : Nat × Request} (hx : x ∈ s.places es) : x.1 < s.asked.length := by
  obtain ⟨task, ht⟩ := h.known x hx
  exact (List.getElem?_eq_some_iff.mp ht).1

theorem start_serialized (p : Plugin g H) : Serialized p [] (start p) where
  asked := rfl
  exclusive := rfl
  once := List.nodup_nil
  known := nofun
  present := nofun
  serial := rfl

section Serialized
variable {p : Plugin g H} {es : List (Event H)} {e : Event H} {s s' : Sharing g H}

/-- What makes no request and drops none leaves requests where they are, or moves them on. -/
theorem Serialized.of_perm (h : Serialized p es s) (quiet : e.ask? = none)
    (asked : s'.asked = s.asked) (perm : (s'.places (es ++ [e])).Perm (s.places es))
    (exclusive : (es ++ [e]).filter Event.ofLock =
      (turns (es ++ [e])).flatMap Turn.events ++ s'.handle.holder.toList.flatMap Holder.events)
    (serial : p.serve ((turns (es ++ [e])).map Turn.work) =
      ((turns (es ++ [e])).map Turn.reply, s'.handle.plugin)) :
    Serialized p (es ++ [e]) s' where
  asked := by
    rw [asks_concat, quiet, asked, ← h.asked]
    exact List.append_nil _
  exclusive := exclusive
  once := (perm.map _).nodup_iff.mpr h.once
  known := by
    intro x hx
    rw [asked]
    exact h.known x (perm.mem_iff.mp hx)
  present := by
    intro ticket ht
    rw [asked] at ht
    rcases h.present ticket ht with hg | hp
    · exact .inl (List.mem_append_left _ hg)
    · exact .inr ((perm.map _).mem_iff.mpr hp)
  serial := serial

theorem Serialized.ask (h : Serialized p es s) (task : Nat) (r : Request) :
    Serialized p (es ++ [.asked task r]) (s.ask task r) where
  asked := by
    rw [asks_concat, h.asked]
    rfl
  exclusive := by
    rw [List.filter_append, turns_concat_of_none rfl, h.exclusive]
    exact List.append_nil _
  once := by
    rw [places_ask, List.map_append, List.nodup_append]
    refine ⟨h.once, List.pairwise_singleton .., fun k hk l hl => ?_⟩
    rintro rfl
    obtain ⟨x, hx, rfl⟩ := List.mem_map.mp hk
    have hn : x.1 = s.asked.length := List.mem_singleton.mp hl
    have hlt := h.made hx
    omega
  known := by
    intro x hx
    rw [places_ask, List.mem_append, List.mem_singleton] at hx
    rcases hx with hx | rfl
    · obtain ⟨t, ht⟩ := h.known x hx
      exact ⟨t, (List.getElem?_append_left (h.made hx)).trans ht⟩
    · exact ⟨task, by simp [Sharing.ask]⟩
  present := by
    intro ticket ht
    rw [Sharing.ask, List.length_append, List.length_singleton] at ht
    rw [places_ask, List.map_append, List.mem_append, List.mem_append]
    rcases Nat.lt_succ_iff_lt_or_eq.mp ht with ht | rfl
    · rcases h.present ticket ht with hg | hp
      · exact .inl (.inl hg)
      · exact .inr (.inl hp)
    · exact .inr (.inr List.mem_cons_self)
  serial := by
    rw [turns_concat_of_none rfl]
    exact h.serial

theorem Serialized.giveUp (h : Serialized p es s) (ticket : Nat) :
    Serialized p (es ++ [.gaveUp ticket]) (s.giveUp ticket) := by
  -- Only the request itself may be nowhere afterwards, and that it is dropped is on record.
  have hsub : ((s.giveUp ticket).places (es ++ [.gaveUp ticket])).Sublist (s.places es) := by
    rw [places_giveUp]
    exact (List.filter_sublist.append_left _).append_left _
  exact {
    asked := by
      rw [asks_concat, h.asked]
      exact List.append_nil _
    exclusive := by
      have hh : (s.handle.giveUp ticket).holder.toList.flatMap Holder.events =
          (s.handle.holder.toList.flatMap Holder.events : List (Event H)) := by
        rw [List.flatMap_def, s.handle.map_holder_giveUp _ (fun _ => rfl), ← List.flatMap_def]
      rw [List.filter_append, turns_concat_of_none rfl, h.exclusive]
      exact (List.append_nil _).trans (congrArg _ hh.symm)
    once := (hsub.map _).nodup h.once
    known := fun x hx => h.known x (hsub.mem hx)
    present := by
      intro k hk
      rcases h.present k hk with hg | hp
      · exact .inl (List.mem_append_left _ hg)
      · by_cases he : k = ticket
        · exact .inl (by simp [he])
        · right
          rw [places_giveUp]
          rw [places] at hp
          simp only [List.map_append, List.mem_append] at hp ⊢
          rcases hp with hp | hp | hp
          · exact .inl hp
          · exact .inr (.inl hp)
          · obtain ⟨x, hx, rfl⟩ := List.mem_map.mp hp
            exact .inr (.inr (List.mem_map_of_mem (List.mem_filter.mpr ⟨hx, by simpa using he⟩)))
    serial := by
      rw [turns_concat_of_none rfl]
      exact h.serial }

theorem Step.serialized (hs : Step s e s') (h : Serialized p es s) :
    Serialized p (es ++ [e]) s' := by
  cases hs with
  | ask task r => exact h.ask task r
  | giveUp ticket made => exact h.giveUp ticket
  | lock place ticket r free waits =>
    refine h.of_perm rfl rfl (places_lockAt s es free waits) ?_ ?_
    · rw [List.filter_append, turns_concat_of_none rfl, h.exclusive, free, lockAt_eq free waits]
      simp [Event.ofLock, Holder.events]
    · rw [turns_concat_of_none rfl, h.serial, lockAt_eq free waits]
  | begin o holds submitted =>
    refine h.of_perm rfl rfl (places_begin s es holds ▸ .refl _) ?_ ?_
    · rw [List.filter_append, turns_concat_of_none rfl, h.exclusive, holds, Sharing.begin,
        Handle.start, holds]
      simp [Event.ofLock, Holder.events, submitted]
    · rw [turns_concat_of_none rfl]
      exact h.serial
  | finish o w holds running =>
    refine h.of_perm rfl rfl (places_finish s es holds running w ▸ .refl _) ?_ ?_
    · rw [List.filter_append, turns_concat, h.exclusive, holds, finish_eq holds running]
      simp [Event.ofLock, Event.turn?, Holder.events, Turn.events, running, turn]
    · rw [turns_concat, finish_eq holds running]
      change p.serve ((turns es ++ [s.turn o w]).map Turn.work) =
        ((turns es ++ [s.turn o w]).map Turn.reply, _)
      rw [List.map_append, List.map_append, Plugin.serve_append, h.serial]
      rfl
  | deliver ticket task r reply there asker =>
    refine h.of_perm rfl rfl (places_take s es ticket task reply ▸ .refl _) ?_ ?_
    · rw [List.filter_append, turns_concat_of_none rfl, h.exclusive]
      exact List.append_nil _
    · rw [turns_concat_of_none rfl]
      exact h.serial

theorem Runs.serialized (h : Runs p es s) : Serialized p es s := by
  induction h with
  | start => exact start_serialized p
  | step before next ih => exact next.serialized ih

theorem Serialized.turn_mem {x : Turn H} (hx : x ∈ turns es) :
    (x.ticket, x.request) ∈ s.places es :=
  List.mem_append_left _ (List.mem_map_of_mem hx)

theorem Serialized.turn_unique (h : Serialized p es s) {x y : Turn H} (hx : x ∈ turns es)
    (hy : y ∈ turns es) (he : x.ticket = y.ticket) : x = y := by
  have hn := h.once
  rw [places, List.map_append, List.nodup_append, List.map_map] at hn
  exact List.inj_on_of_nodup_map hn.1 hx hy he

/-- A request that has the lock has not had its turn. -/
theorem Serialized.holder_new (h : Serialized p es s) {o : Holder}
    (holds : s.handle.holder = some o) {x : Turn H} (hx : x ∈ turns es) : x.ticket ≠ o.ticket := by
  have hn := h.once
  rw [places, holds, List.map_append, List.nodup_append, List.map_map] at hn
  exact hn.2.2 _ (List.mem_map_of_mem hx) _ List.mem_cons_self

end Serialized

end Sharing

end PluginHost
