import Mathlib.Data.Finset.Card
import Mathlib.Data.List.Induction
import PluginHost.Proofs.Linking
/-!
A registry through its whole history. Whatever functions are offered to it, and in whichever order,
it is the map from pairs of a namespace and a name to the first function that was offered there; the
namespace of the host's own services has none. Names are never read as one text, so pairs that are
written alike stay apart.
-/
namespace PluginHost
variable {H : Type}

def HostFunction.key (f : HostFunction H) : String × String := (f.ns, f.name)

namespace Registry
variable {r : Registry H} {fs : List (HostFunction H)} {f f' : HostFunction H} {ns name : String}

def offer (r : Registry H) (f : HostFunction H) : Registry H :=
  match r.register f with
  | .ok r' => r'
  | .error _ => r

def offered (fs : List (HostFunction H)) : Registry H := fs.foldl offer empty

def first? (fs : List (HostFunction H)) (ns name : String) : Option (HostFunction H) :=
  if ns = "plinth" then none else fs.find? fun f => f.ns = ns && f.name = name

/-- All that a registry shows is what a map from pairs to functions says: its functions one by one,
whether there is one, how many there are, and all of them, each once. -/
structure Shows (r : Registry H) (m : String → String → Option (HostFunction H)) : Prop where
  resolve : ∀ ns name, r.resolve ns name =
    match m ns name with
    | some f => .ok f
    | none => .error (.unknownImport ns name)
  contains : ∀ ns name, r.contains ns name = (m ns name).isSome
  size : ∃ keys : Finset (String × String),
    (∀ ns name, (ns, name) ∈ keys ↔ (m ns name).isSome) ∧ r.size = keys.card
  isEmpty : r.isEmpty = true ↔ ∀ ns name, m ns name = none
  toList : ∀ f, f ∈ r.toList ↔ m f.ns f.name = some f
  once : (r.toList.map HostFunction.key).Nodup

inductive Offered (r : Registry H) (f : HostFunction H) : Prop
  | reserved (own : f.ns = "plinth")
      (refused : r.register f = .error (.argument .reservedNamespace))
  | taken (foreign : f.ns ≠ "plinth") (g : HostFunction H) (found : r.find? f.ns f.name = some g)
      (refused : r.register f = .error (.duplicateRegistration f.ns f.name))
  | added (foreign : f.ns ≠ "plinth") (free : r.find? f.ns f.name = none)
      (done : r.register f = .ok ⟨r.functions ++ [f]⟩)

theorem register_offered (r : Registry H) (f : HostFunction H) : r.Offered f := by
  by_cases hs : f.ns = "plinth"
  · exact .reserved hs (if_pos hs)
  · have hr : r.register f = if r.contains f.ns f.name then
        .error (.duplicateRegistration f.ns f.name) else .ok ⟨r.functions ++ [f]⟩ := if_neg hs
    unfold contains at hr
    cases hf : r.find? f.ns f.name with
    | some g =>
      rw [hf] at hr
      exact .taken hs g hf hr
    | none =>
      rw [hf] at hr
      exact .added hs hf hr

theorem offer_of_error {e : Failure} (h : r.register f = .error e) : r.offer f = r := by
  unfold offer
  rw [h]

theorem offer_of_ok {r' : Registry H} (h : r.register f = .ok r') : r.offer f = r' := by
  unfold offer
  rw [h]

theorem offered_concat (fs : List (HostFunction H)) (f : HostFunction H) :
    offered (fs ++ [f]) = (offered fs).offer f := by
  simp [offered]

theorem offered_built (fs : List (HostFunction H)) : (offered fs).Built := by
  induction fs using List.reverseRecOn with
  | nil => exact .empty
  | append_singleton fs f ih =>
    rw [offered_concat]
    cases register_offered (offered fs) f with
    | reserved own refused => rwa [offer_of_error refused]
    | taken foreign g found refused => rwa [offer_of_error refused]
    | added foreign free done =>
      rw [offer_of_ok done]
      exact .register _ _ f ih done

theorem first?_concat_of_key (hk : f.key = (ns, name)) (hs : ns ≠ "plinth") :
    first? (fs ++ [f]) ns name = (first? fs ns name).or (some f) := by
  obtain ⟨hn, hm⟩ := Prod.mk.inj hk
  simp [first?, hs, List.find?_append, hn, hm]

theorem first?_concat_of_ne (hk : f.key ≠ (ns, name)) :
    first? (fs ++ [f]) ns name = first? fs ns name := by
  have hf : (f.ns = ns && f.name = name) = false := by
    simpa [HostFunction.key] using hk
  simp [first?, List.find?_append, hf]

theorem find?_concat (r : Registry H) (f : HostFunction H) (ns name : String) :
    (⟨r.functions ++ [f]⟩ : Registry H).find? ns name =
      (r.find? ns name).or (if f.key = (ns, name) then some f else none) := by
  by_cases hk : f.key = (ns, name)
  · obtain ⟨hn, hm⟩ := Prod.mk.inj hk
    simp [find?, List.find?_append, hk, hn, hm]
  · have hf : (f.ns = ns && f.name = name) = false := by
      simpa [HostFunction.key] using hk
    simp [find?, List.find?_append, hk, hf]

/-- What is found is what was offered first. -/
theorem find?_offered (fs : List (HostFunction H)) (ns name : String) :
    (offered fs).find? ns name = first? fs ns name := by
  -- From the last function back: one that is refused was reserved, or came after another.
  induction fs using List.reverseRecOn with
  | nil => simp [offered, empty, find?, first?]
  | append_singleton fs f ih =>
    rw [offered_concat]
    by_cases hk : f.key = (ns, name)
    · obtain ⟨hn, hm⟩ := Prod.mk.inj hk
      cases register_offered (offered fs) f with
      | reserved own refused =>
        rw [offer_of_error refused, ih]
        rw [hn] at own
        rw [first?, if_pos own, first?, if_pos own]
      | taken foreign g found refused =>
        rw [hn, hm, ih] at found
        rw [offer_of_error refused, ih, first?_concat_of_key hk (hn ▸ foreign), found]
        rfl
      | added foreign free done =>
        rw [offer_of_ok done, find?_concat, if_pos hk, ih,
          first?_concat_of_key hk (hn ▸ foreign)]
    · rw [first?_concat_of_ne hk, ← ih]
      cases register_offered (offered fs) f with
      | reserved own refused => rw [offer_of_error refused]
      | taken foreign g found refused => rw [offer_of_error refused]
      | added foreign free done => rw [offer_of_ok done, find?_concat, if_neg hk, Option.or_none]

theorem Built.nodup (h : r.Built) : (r.functions.map HostFunction.key).Nodup := by
  induction h with
  | empty => exact .nil
  | register r r' f before done ih =>
    obtain ⟨-, hn, rfl⟩ := of_register done
    rw [List.map_append, List.nodup_append]
    refine ⟨ih, List.nodup_singleton _, ?_⟩
    intro k hk k' hk' he
    obtain ⟨g, hg, rfl⟩ := List.mem_map.mp hk
    obtain rfl := List.mem_singleton.mp hk'
    exact (r.find?_eq_none_iff _ _).mp hn g hg (Prod.mk.inj he)

theorem Built.shows (h : r.Built) : r.Shows r.find? where
  resolve ns name := by
    unfold Registry.resolve
    cases r.find? ns name <;> rfl
  contains ns name := rfl
  size := by
    refine ⟨(r.functions.map HostFunction.key).toFinset, fun ns name => ?_, ?_⟩
    · rw [List.mem_toFinset, Option.isSome_iff_exists, List.mem_map]
      refine exists_congr fun f => ?_
      rw [h.find?_eq_some_iff]
      exact and_congr_right fun _ => Prod.mk_inj
    · rw [List.toFinset_card_of_nodup h.nodup, List.length_map]
      rfl
  isEmpty := by
    unfold Registry.isEmpty
    rw [List.isEmpty_iff]
    constructor
    · intro he ns name
      rw [find?, he]
      rfl
    · intro hn
      rw [List.eq_nil_iff_forall_not_mem]
      intro f hf
      exact (r.find?_eq_none_iff _ _).mp (hn f.ns f.name) f hf ⟨rfl, rfl⟩
  toList f := by
    rw [h.find?_eq_some_iff]
    exact (and_iff_left ⟨rfl, rfl⟩).symm
  once := h.nodup

/-- After any functions were offered, by whichever way, a registry shows just the map from pairs to
the first function offered there. The next one is taken exactly if its namespace is not reserved and
its pair is free; the reserved namespace is refused as an argument, a pair that is taken as a
duplicate, and then the registry stays as it was. A function that is offered under another pair
changes nothing for a pair, not even if the two are written alike. -/
theorem registry_keeps_first (fs : List (HostFunction H)) :
    (offered fs).Shows (first? fs) ∧
    ∀ f,
      ((∃ r, (offered fs).register f = .ok r) ↔ f.ns ≠ "plinth" ∧ first? fs f.ns f.name = none) ∧
      (f.ns = "plinth" → (offered fs).register f = .error (.argument .reservedNamespace)) ∧
      (f.ns ≠ "plinth" → first? fs f.ns f.name ≠ none →
        (offered fs).register f = .error (.duplicateRegistration f.ns f.name)) ∧
      (∀ r, (offered fs).register f = .ok r → r = offered (fs ++ [f])) ∧
      (∀ e, (offered fs).register f = .error e → offered (fs ++ [f]) = offered fs) ∧
      ∀ ns name, (f.ns, f.name) ≠ (ns, name) →
        (offered (fs ++ [f])).resolve ns name = (offered fs).resolve ns name := by
  have hm : (offered fs).find? = first? fs := funext₂ (find?_offered fs)
  have hs := (offered_built fs).shows
  rw [hm] at hs
  refine ⟨hs, fun f => ⟨?_, ?_, ?_, ?_, ?_, ?_⟩⟩
  · rw [← hm]
    cases register_offered (offered fs) f with
    | reserved own refused => simp [refused, own]
    | taken foreign g found refused => simp [refused, found]
    | added foreign free done => simp [done, foreign, free]
  · intro hn
    exact if_pos hn
  · intro hn ht
    rw [← hm] at ht
    cases register_offered (offered fs) f with
    | reserved own refused => exact absurd own hn
    | taken foreign g found refused => exact refused
    | added foreign free done => exact absurd free ht
  · intro r hr
    rw [offered_concat, offer_of_ok hr]
  · intro e he
    rw [offered_concat, offer_of_error he]
  · intro ns name hk
    have hs' := (offered_built (fs ++ [f])).shows
    rw [hs'.resolve, hs.resolve, find?_offered, first?_concat_of_ne hk]

/-- Two pairs that are both written `a::b::c`. Each keeps its own function, whatever else is
offered. -/
theorem alike_names_kept_apart :
    let f : HostFunction Unit := (HostFunction.ofValues "c" ⟨[], []⟩ .done).inNamespace "a::b"
    let f' : HostFunction Unit := (HostFunction.ofBytes "b::c" .done).inNamespace "a"
    let own : HostFunction Unit := (HostFunction.ofBytes "var_get" .done).inNamespace "plinth"
    f.qualifiedName = f'.qualifiedName ∧
      (offered [f, own]).register f' = .ok (offered [f, own, f']) ∧
      (offered [f, own, f']).resolve "a::b" "c" = .ok f ∧
      (offered [f, own, f']).resolve "a" "b::c" = .ok f' ∧
      (offered [f, own, f']).register { f' with callable := f.callable } =
        .error (.duplicateRegistration "a" "b::c") := by
  intro f f' own
  obtain ⟨hs, hn⟩ := registry_keeps_first [f, own, f']
  obtain ⟨-, ht⟩ := registry_keeps_first [f, own]
  obtain ⟨ho, -, -, hr, -⟩ := ht f'
  obtain ⟨r, hok⟩ := ho.mpr ⟨by decide, by decide⟩
  refine ⟨by decide, ?_, (hs.resolve _ _).trans ?_, (hs.resolve _ _).trans ?_,
    (hn _).2.2.1 (by decide) (by decide)⟩
  · rw [hok, hr r hok]
    rfl
  · rfl
  · rfl

end Registry

end PluginHost
