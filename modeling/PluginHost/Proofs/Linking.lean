import Mathlib.Data.List.Forall2
import PluginHost.Proofs.HostTypes
import PluginHost.Proofs.Opened
/-!
How imports get their providers. The priority of the providers is one relation; linking follows it
for imports in any number and order and never defines a name twice.
-/
namespace PluginHost
variable {g : Guest} {H α β : Type}

namespace Registry

inductive Built : Registry H → Prop
  | empty : Built empty
  | register (r r' : Registry H) (f : HostFunction H) (before : Built r)
      (done : r.register f = .ok r') : Built r'

theorem of_register {r r' : Registry H} {f : HostFunction H} (h : r.register f = .ok r') :
    f.ns ≠ Name.serviceNamespace ∧ r.find? f.ns f.name = none ∧ r' = ⟨r.functions ++ [f]⟩ := by
  unfold register at h
  split at h
  · cases h
  · rename_i hn
    split at h
    · cases h
    · rename_i hc
      exact ⟨hn, by simpa [contains] using hc, (Except.ok.inj h).symm⟩

theorem find?_eq_none_iff (r : Registry H) (ns name : String) :
    r.find? ns name = none ↔ ∀ f ∈ r.functions, ¬ (f.ns = ns ∧ f.name = name) := by
  simp [find?]

theorem Built.find?_eq_some_iff {r : Registry H} (h : r.Built) (ns name : String)
    (f : HostFunction H) :
    r.find? ns name = some f ↔ f ∈ r.functions ∧ f.ns = ns ∧ f.name = name := by
  induction h with
  | empty => simp [Registry.empty, find?]
  | register r r' f' before done ih =>
    obtain ⟨-, hn, rfl⟩ := of_register done
    have hd : ∀ f ∈ r.functions, ¬ (f.ns = f'.ns ∧ f.name = f'.name) :=
      (r.find?_eq_none_iff _ _).mp hn
    have hs : (⟨r.functions ++ [f']⟩ : Registry H).find? ns name =
        (r.find? ns name).or (if f'.ns = ns ∧ f'.name = name then some f' else none) := by
      by_cases hf : f'.ns = ns ∧ f'.name = name <;> simp [find?, List.find?_append, hf]
    rw [hs, Option.or_eq_some_iff, ih, r.find?_eq_none_iff]
    constructor
    · rintro (⟨hm, hf⟩ | ⟨-, hf⟩)
      · exact ⟨List.mem_append_left _ hm, hf⟩
      · split at hf
        · rename_i he
          obtain rfl := Option.some.inj hf
          exact ⟨List.mem_append_right _ (List.mem_singleton_self _), he⟩
        · cases hf
    · rintro ⟨hm, hf⟩
      rcases List.mem_append.mp hm with hm | hm
      · exact .inl ⟨hm, hf⟩
      · obtain rfl := List.mem_singleton.mp hm
        refine .inr ⟨fun f₀ h₀ he => hd f₀ h₀ ⟨?_, ?_⟩, by rw [if_pos hf]⟩
        · rw [he.1, hf.1]
        · rw [he.2, hf.2]

theorem Built.eq_of_name {r : Registry H} (h : r.Built) {f f' : HostFunction H}
    (hf : f ∈ r.functions) (hf' : f' ∈ r.functions) (hn : f.ns = f'.ns)
    (hm : f.name = f'.name) : f = f' := by
  have h₁ := (h.find?_eq_some_iff f'.ns f'.name f).mpr ⟨hf, hn, hm⟩
  have h₂ := (h.find?_eq_some_iff f'.ns f'.name f').mpr ⟨hf', rfl, rfl⟩
  exact Option.some.inj (h₁.symm.trans h₂)

end Registry

namespace Choice

theorem run_define (linker : Linker H) (ns name : String) (p : Provider H)
    (es : List Log.Event) (h : linker.lookup (ns, name) = none) :
    (define linker ns name p).run es = (.ok (linker ++ [((ns, name), p)]), es) := by
  unfold define
  rw [h]
  rfl

end Choice

namespace Binder

/-- What an import leads to. The constructors stand in the order of their priority, and each holds
only where none before it does. -/
inductive Serves (b : Binder H) (i : FunctionImport) : Provider H → Prop
  | system (left : b.isSystem i = true) (c : SystemCall)
      (known : SystemCall.ofName? i.name = some c) : Serves b i (.system c)
  | noSystem (left : b.isSystem i = true) (unknown : SystemCall.ofName? i.name = none)
      (answers : i.signature.results = [.i32]) : Serves b i (.noSystem i.name i.signature)
  | service (own : b.isSystem i = false) (s : Service) (named : service? i = some s) :
      Serves b i (.service s)
  | function (own : b.isSystem i = false) (free : service? i = none) (f : HostFunction H)
      (registered : f ∈ b.registry.functions) (ns : f.ns = i.ns) (name : f.name = i.name) :
      Serves b i (.function f)
  | unresolved (own : b.isSystem i = false) (free : service? i = none)
      (unregistered : ∀ f ∈ b.registry.functions, ¬ (f.ns = i.ns ∧ f.name = i.name))
      (allowed : b.allowUnresolved = true) : Serves b i (.unresolved i.ns i.name i.signature)

inductive Refuses (b : Binder H) (i : FunctionImport) : Failure → Prop
  | systemCall (left : b.isSystem i = true) (unknown : SystemCall.ofName? i.name = none)
      (odd : i.signature.results ≠ [.i32]) :
      Refuses b i (.unsupported (.systemCall i.name i.signature))
  | service (own : b.isSystem i = false) (s : Service) (named : service? i = some s)
      (other : i.signature ≠ s.signature) :
      Refuses b i (.opening (.serviceSignature i.name s.signature i.signature))
  | function (own : b.isSystem i = false) (free : service? i = none) (f : HostFunction H)
      (registered : f ∈ b.registry.functions) (ns : f.ns = i.ns) (name : f.name = i.name)
      (other : f.signature ≠ i.signature) :
      Refuses b i (.opening (.functionSignature f.qualifiedName f.signature i.signature))
  | unresolved (own : b.isSystem i = false) (free : service? i = none)
      (unregistered : ∀ f ∈ b.registry.functions, ¬ (f.ns = i.ns ∧ f.name = i.name))
      (forbidden : b.allowUnresolved = false) :
      Refuses b i (.opening (.unresolved i.ns i.name))
  | reference (foreign : i.signature.isHosted = false) :
      Refuses b i (.unsupported (.referenceType i.signature))

structure Fits (b : Binder H) (i : FunctionImport) (p : Provider H) : Prop where
  serves : b.Serves i p
  signature : p.signature = i.signature
  hosted : i.signature.isHosted = true

variable {b : Binder H} {i j : FunctionImport} {p q : Provider H} {e : Failure}

/-- The priority leaves one provider at most. -/
theorem Serves.unique (hr : b.registry.Built) (hp : b.Serves i p) (hq : b.Serves i q) :
    p = q := by
  cases hp with
  | function own free f registered ns name =>
    cases hq with
    | function _ _ f' registered' ns' name' =>
      have hf := hr.eq_of_name registered registered' (ns.trans ns'.symm) (name.trans name'.symm)
      rw [hf]
    | _ => simp_all
  | _ => cases hq <;> simp_all

theorem Refuses.not_fits (hr : b.registry.Built) (h : b.Refuses i e) : ¬ b.Fits i p := by
  intro hf
  obtain ⟨hs, hg, hh⟩ := hf
  cases h with
  | service own s named other =>
    have hp : p = .service s := hs.unique hr (.service own s named)
    rw [hp] at hg
    exact other hg.symm
  | function own free f registered ns name other =>
    have hp : p = .function f := hs.unique hr (.function own free f registered ns name)
    rw [hp] at hg
    exact other hg
  | systemCall left unknown odd => cases hs <;> simp_all
  | unresolved own free unregistered forbidden => cases hs <;> simp_all
  | reference foreign => simp_all

/-- Whichever of several imports of one name a provider was made for, it serves those that have its
signature. -/
theorem Serves.of_repeat (h : b.Serves j p) (hns : j.ns = i.ns) (hname : j.name = i.name)
    (hs : p.signature = i.signature) : b.Serves i p := by
  obtain ⟨ns, name, s⟩ := i
  obtain ⟨ns', name', s'⟩ := j
  obtain rfl : ns' = ns := hns
  obtain rfl : name' = name := hname
  cases h with
  | system left c known =>
    apply Serves.system
    · exact left
    · exact known
  | noSystem left unknown answers =>
    obtain rfl : s' = s := hs
    exact .noSystem left unknown answers
  | service own sv named =>
    apply Serves.service
    · exact own
    · exact named
  | function own free f registered ns name =>
    apply Serves.function
    · exact own
    · exact free
    · exact registered
    · exact ns
    · exact name
  | unresolved own free unregistered allowed =>
    obtain rfl : s' = s := hs
    exact .unresolved own free unregistered allowed

def Settles (b : Binder H) (i : FunctionImport) : Except Failure (Provider H) → Prop
  | .ok p => b.Fits i p
  | .error e => b.Refuses i e

theorem stub_settles (hi : b.isSystem i = true) (hu : SystemCall.ofName? i.name = none)
    (es : List Log.Event) : b.Settles i ((stub i).run es).1 := by
  unfold stub
  simp only [Choice.requireHosted_eq]
  by_cases hr : i.signature.results = [.i32]
  · cases hh : i.signature.isHosted with
    | true =>
      simp only [hr, ne_eq, not_true_eq_false, if_false, if_true]
      exact ⟨.noSystem hi hu hr, rfl, hh⟩
    | false =>
      simp only [hr, ne_eq, not_true_eq_false, Bool.false_eq_true, if_false]
      exact Refuses.reference hh
  · simp only [hr, ne_eq, not_false_eq_true, if_true]
    exact Refuses.systemCall hi hu hr

theorem service_hosted (s : Service) : s.signature.isHosted = true := by
  cases s <;> rfl

theorem other_settles (hr : b.registry.Built) (hi : b.isSystem i = false)
    (es : List Log.Event) : b.Settles i ((b.other i).run es).1 := by
  unfold other
  simp only [Choice.requireHosted_eq]
  cases hs : service? i with
  | some s =>
    by_cases hn : i.signature = s.signature
    · simp only [hn, ne_eq, not_true_eq_false, if_false]
      exact ⟨.service hi s hs, hn.symm, by rw [hn]; exact service_hosted s⟩
    · simp only [hn, ne_eq, not_false_eq_true, if_true]
      exact Refuses.service hi s hs hn
  | none =>
    cases hf : b.registry.find? i.ns i.name with
    | some f =>
      obtain ⟨hm, hns, hname⟩ := (hr.find?_eq_some_iff ..).mp hf
      by_cases hn : f.signature = i.signature
      · cases hh : i.signature.isHosted with
        | true =>
          simp only [hn, hh, ne_eq, not_true_eq_false, if_false, if_true]
          exact ⟨.function hi hs f hm hns hname, hn, hh⟩
        | false =>
          simp only [hn, hh, ne_eq, not_true_eq_false, Bool.false_eq_true, if_false]
          exact Refuses.reference hh
      · simp only [hn, ne_eq, not_false_eq_true, if_true]
        exact Refuses.function hi hs f hm hns hname hn
    | none =>
      have hn := (b.registry.find?_eq_none_iff ..).mp hf
      cases ha : b.allowUnresolved with
      | true =>
        cases hh : i.signature.isHosted with
        | true =>
          simp only [not_true_eq_false, if_false, if_true]
          exact ⟨.unresolved hi hs hn ha, rfl, hh⟩
        | false =>
          simp only [not_true_eq_false, Bool.false_eq_true, if_false]
          exact Refuses.reference hh
      | false =>
        simp only [Bool.false_eq_true, not_false_eq_true, if_true]
        exact Refuses.unresolved hi hs hn ha

/-- What a linker holds while imports are linked: all system calls where they are enabled, nothing
but them and providers that fit one of the imports, and nothing twice. -/
structure Linked (b : Binder H) (imports : List FunctionImport) (linker : Linker H) : Prop where
  once : (linker.map Prod.fst).Nodup
  calls : b.enableWasi = true → ∀ name c, SystemCall.ofName? name = some c →
    linker.lookup (Name.systemNamespace, name) = some (.system c)
  served : ∀ ns name p, linker.lookup (ns, name) = some p →
    (b.enableWasi = true ∧ ns = Name.systemNamespace ∧
        ∃ c, SystemCall.ofName? name = some c ∧ p = .system c) ∨
      ∃ i ∈ imports, i.ns = ns ∧ i.name = name ∧ b.Fits i p

variable {imports is : List FunctionImport} {linker : Linker H}

theorem Linked.mono {imports' : List FunctionImport} (h : b.Linked imports linker)
    (hi : ∀ i ∈ imports, i ∈ imports') : b.Linked imports' linker where
  once := h.once
  calls := h.calls
  served := by
    intro ns name p hp
    rcases h.served ns name p hp with hc | ⟨i, hm, hf⟩
    · exact .inl hc
    · exact .inr ⟨i, hi i hm, hf⟩

theorem lookup_cons_ite {κ : Type} [BEq κ] [LawfulBEq κ] [DecidableEq κ] (k k' : κ) (a : α)
    (l : List (κ × α)) :
    ((k, a) :: l).lookup k' = if k' = k then some a else l.lookup k' := by
  rw [List.lookup_cons]
  by_cases hk : k' = k
  · simp [hk]
  · simp [hk, beq_false_of_ne hk]

theorem lookup_defined (linker : Linker H) (k k' : String × String) (p : Provider H) :
    (linker ++ [(k, p)]).lookup k' =
      (linker.lookup k').or (if k' = k then some p else none) := by
  rw [List.lookup_append, lookup_cons_ite, List.lookup_nil]

theorem not_mem_of_lookup {k : String × String} (h : linker.lookup k = none) :
    k ∉ linker.map Prod.fst := by
  intro hk
  obtain ⟨x, hx, rfl⟩ := List.mem_map.mp hk
  have hn := List.lookup_eq_none_iff.mp h x hx
  simp at hn

theorem Linked.define (h : b.Linked imports linker) (hi : i ∈ imports) (hf : b.Fits i p)
    (hn : linker.lookup (i.ns, i.name) = none) :
    b.Linked imports (linker ++ [((i.ns, i.name), p)]) where
  once := by
    rw [List.map_append, List.map_singleton]
    refine List.nodup_append.mpr ⟨h.once, by simp, ?_⟩
    intro k hk k' hk' he
    obtain rfl := List.mem_singleton.mp hk'
    rw [he] at hk
    exact not_mem_of_lookup hn hk
  calls := by
    intro hw name c hc
    rw [lookup_defined, h.calls hw name c hc, Option.some_or]
  served := by
    intro ns name q hq
    rw [lookup_defined, Option.or_eq_some_iff] at hq
    rcases hq with hq | ⟨-, hq⟩
    · exact h.served ns name q hq
    · split at hq
      · rename_i hk
        obtain rfl := Option.some.inj hq
        obtain ⟨hns, hname⟩ := Prod.mk.inj hk
        exact .inr ⟨i, hi, hns.symm, hname.symm, hf⟩
      · cases hq

def Links (b : Binder H) (imports is : List FunctionImport) (linker : Linker H) :
    Except Failure (Linker H) → Prop
  | .ok l => b.Linked imports l ∧ (∀ k, (linker.lookup k).isSome → (l.lookup k).isSome) ∧
      ∀ i ∈ is, (l.lookup (i.ns, i.name)).isSome
  | .error e => ∃ i ∈ is, b.Refuses i e

variable {r : Except Failure (Linker H)}

theorem Links.skip (h : b.Links imports is linker r)
    (hl : (linker.lookup (i.ns, i.name)).isSome) : b.Links imports (i :: is) linker r := by
  cases r with
  | ok l =>
    obtain ⟨hd, hk, hc⟩ := h
    refine ⟨hd, hk, fun j hj => ?_⟩
    rcases List.mem_cons.mp hj with rfl | hj
    · exact hk _ hl
    · exact hc j hj
  | error e =>
    obtain ⟨j, hj, hr⟩ := h
    exact ⟨j, List.mem_cons_of_mem _ hj, hr⟩

theorem Links.define (h : b.Links imports is (linker ++ [((i.ns, i.name), p)]) r) :
    b.Links imports (i :: is) linker r := by
  have hp : ((linker ++ [((i.ns, i.name), p)]).lookup (i.ns, i.name)).isSome := by
    rw [lookup_defined, if_pos rfl, Option.isSome_or, Option.isSome_some, Bool.or_true]
  have hs := h.skip hp
  cases r with
  | ok l =>
    obtain ⟨hd, hk, hc⟩ := hs
    refine ⟨hd, fun k hl => hk k ?_, hc⟩
    rw [lookup_defined, Option.isSome_or, hl, Bool.true_or]
  | error e => exact hs

theorem linkStubs_links (hi : ∀ i ∈ imports, b.isSystem i = true) (is : List FunctionImport)
    (his : ∀ i ∈ is, i ∈ imports) (linker : Linker H) (h : b.Linked imports linker)
    (es : List Log.Event) : b.Links imports is linker ((linkStubs is linker).run es).1 := by
  induction is generalizing linker es with
  | nil => exact ⟨h, fun _ hk => hk, fun i hm => absurd hm List.not_mem_nil⟩
  | cons i is ih =>
    have hm : i ∈ imports := his i (List.mem_cons_self ..)
    have his' : ∀ j ∈ is, j ∈ imports := fun j hj => his j (List.mem_cons_of_mem _ hj)
    have hs : b.isSystem i = true := hi i hm
    unfold linkStubs
    cases hl : linker.lookup (i.ns, i.name) with
    | some p =>
      simp only [Option.isSome_some, if_true]
      exact (ih his' linker h es).skip (by rw [hl]; rfl)
    | none =>
      have hu : SystemCall.ofName? i.name = none := by
        cases hc : SystemCall.ofName? i.name with
        | none => rfl
        | some c =>
          obtain ⟨hw, hns⟩ := Bool.and_eq_true_iff.mp hs
          have hk := h.calls hw i.name c hc
          rw [← eq_of_beq hns, hl] at hk
          cases hk
      have hc := stub_settles hs hu es
      simp only [Option.isSome_none, Bool.false_eq_true, if_false, run_fallible_bind]
      rcases hr : (stub i : Choice (Provider H)).run es with ⟨e | p, es'⟩ <;> rw [hr] at hc
      · exact ⟨i, List.mem_cons_self .., hc⟩
      · simp only [Choice.run_define linker _ _ p es' hl]
        exact (ih his' _ (h.define hm hc hl) es').define

/-- Each name is linked once, since the list of what was linked knows all but system calls. -/
theorem linkOthers_links (hr : b.registry.Built) (is : List FunctionImport)
    (his : ∀ i ∈ is, i ∈ imports ∧ b.isSystem i = false) (linked : List (String × String))
    (linker : Linker H) (h : b.Linked imports linker)
    (hk : ∀ k ∈ linked, (linker.lookup k).isSome)
    (hn : ∀ i, b.isSystem i = false → (linker.lookup (i.ns, i.name)).isSome →
      (i.ns, i.name) ∈ linked)
    (es : List Log.Event) :
    b.Links imports is linker ((b.linkOthers is linked linker).run es).1 := by
  induction is generalizing linked linker es with
  | nil => exact ⟨h, fun _ hk => hk, fun i hm => absurd hm List.not_mem_nil⟩
  | cons i is ih =>
    obtain ⟨hm, hs⟩ := his i (List.mem_cons_self ..)
    have his' : ∀ j ∈ is, j ∈ imports ∧ b.isSystem j = false :=
      fun j hj => his j (List.mem_cons_of_mem _ hj)
    unfold linkOthers
    by_cases hl : (i.ns, i.name) ∈ linked
    · simp only [hl, if_true]
      exact (ih his' linked linker h hk hn es).skip (hk _ hl)
    -- The list of what was linked knows all names but those of the system interface.
    · have hd : linker.lookup (i.ns, i.name) = none :=
        Option.not_isSome_iff_eq_none.mp fun hd => hl (hn i hs hd)
      have hc := other_settles hr hs es
      simp only [hl, if_false, run_fallible_bind]
      rcases ho : (b.other i).run es with ⟨e | p, es'⟩ <;> rw [ho] at hc
      · exact ⟨i, List.mem_cons_self .., hc⟩
      · simp only [Choice.run_define linker _ _ p es' hd]
        refine (ih his' _ _ (h.define hm hc hd) ?_ ?_ es').define
        · intro k hk'
          rw [lookup_defined, Option.isSome_or]
          rcases List.mem_cons.mp hk' with rfl | hk'
          · simp
          · rw [hk k hk', Bool.true_or]
        · intro j hj hk'
          rw [lookup_defined, Option.isSome_or, Bool.or_eq_true_iff] at hk'
          rcases hk' with hk' | hk'
          · exact List.mem_cons_of_mem _ (hn j hj hk')
          · split at hk'
            · rename_i he
              rw [he]
              exact List.mem_cons_self ..
            · cases hk'

def systemLinker (calls : List (String × SystemCall)) : Linker H :=
  calls.map fun (name, c) => ((Name.systemNamespace, name), .system c)

theorem lookup_systemLinker (calls : List (String × SystemCall)) (ns name : String) :
    (systemLinker calls : Linker H).lookup (ns, name) =
      if ns = Name.systemNamespace then (calls.lookup name).map .system else none := by
  induction calls with
  | nil => simp [systemLinker]
  | cons x calls ih =>
    have hs : (systemLinker (x :: calls) : Linker H) =
        ((Name.systemNamespace, x.1), .system x.2) :: systemLinker calls := rfl
    rw [hs, lookup_cons_ite, ih, ← Prod.eta x, lookup_cons_ite]
    by_cases hns : ns = Name.systemNamespace <;> by_cases hn : name = x.1 <;> simp [hns, hn]

theorem run_addSystem (calls : List (String × SystemCall)) (linker : Linker H)
    (es : List Log.Event) (hc : (calls.map Prod.fst).Nodup)
    (hl : ∀ name ∈ calls.map Prod.fst, linker.lookup (Name.systemNamespace, name) = none) :
    (addSystem calls linker).run es = (.ok (linker ++ systemLinker calls), es) := by
  induction calls generalizing linker with
  | nil =>
    unfold addSystem systemLinker
    rw [List.map_nil, List.append_nil]
    rfl
  | cons x calls ih =>
    obtain ⟨hx, hc⟩ := List.nodup_cons.mp hc
    have hd : linker.lookup (Name.systemNamespace, x.1) = none := hl x.1 (List.mem_cons_self ..)
    unfold addSystem
    rw [run_fallible_bind, Choice.run_define linker _ _ _ es hd]
    dsimp only
    rw [ih _ hc, List.append_assoc]
    · rfl
    · intro name hn
      rw [lookup_defined, hl name (List.mem_cons_of_mem _ hn), Option.none_or, if_neg]
      intro he
      rw [(Prod.mk.inj he).2] at hn
      exact hx hn

theorem calls_nodup : (SystemCall.all.map Prod.fst).Nodup := by decide +kernel

theorem linked_systemLinker (hw : b.enableWasi = true) :
    b.Linked [] (systemLinker SystemCall.all) where
  once := by
    have hk : (systemLinker SystemCall.all : Linker H).map Prod.fst =
        (SystemCall.all.map Prod.fst).map fun name => (Name.systemNamespace, name) := by
      unfold systemLinker
      rw [List.map_map, List.map_map]
      rfl
    rw [hk]
    exact List.Pairwise.map _ (fun _ _ hn he => hn (Prod.mk.inj he).2) calls_nodup
  calls := by
    intro _ name c hc
    have hc : SystemCall.all.lookup name = some c := hc
    rw [lookup_systemLinker, if_pos rfl, hc]
    rfl
  served := by
    intro ns name p hp
    rw [lookup_systemLinker] at hp
    split at hp
    · rename_i hns
      obtain ⟨c, hc, rfl⟩ := Option.map_eq_some_iff.mp hp
      exact .inl ⟨hw, hns, c, hc, rfl⟩
    · cases hp

theorem isSystem_eq_true_iff (b : Binder H) (i : FunctionImport) :
    b.isSystem i = true ↔ b.enableWasi = true ∧ i.ns = Name.systemNamespace := by
  simp [isSystem]

/-- Before other imports are linked there are no functions but those of the system interface. -/
theorem Linked.lookup_other (h : b.Linked (imports.filter b.isSystem) linker)
    (hj : b.isSystem j = false) : linker.lookup (j.ns, j.name) = none := by
  cases hl : linker.lookup (j.ns, j.name) with
  | none => rfl
  | some p =>
    have hs : b.isSystem j = true := by
      rcases h.served _ _ _ hl with ⟨hw, hns, -⟩ | ⟨i, hi, hns, -, -⟩
      · exact (b.isSystem_eq_true_iff j).mpr ⟨hw, hns⟩
      · have hb := (b.isSystem_eq_true_iff i).mp (List.mem_filter.mp hi).2
        exact (b.isSystem_eq_true_iff j).mpr ⟨hb.1, hns.symm.trans hb.2⟩
    rw [hs] at hj
    cases hj

theorem Linked.linkOthers_own (hr : b.registry.Built)
    (h : b.Linked (imports.filter b.isSystem) linker) (es : List Log.Event) :
    b.Links imports (imports.filter fun i => ¬ b.isSystem i) linker
      ((b.linkOthers (imports.filter fun i => ¬ b.isSystem i) [] linker).run es).1 :=
  Binder.linkOthers_links hr (imports.filter fun i => ¬ b.isSystem i)
    (fun i hi => ⟨(List.mem_filter.mp hi).1, by simpa using (List.mem_filter.mp hi).2⟩) []
    linker (h.mono fun i hi => (List.mem_filter.mp hi).1) (by simp)
    (fun j hj hs => by rw [h.lookup_other hj] at hs; cases hs) es

/-- The imports of the system interface are linked; the others follow. -/
theorem Linked.linkOthers_links (hr : b.registry.Built)
    (h : b.Linked (imports.filter b.isSystem) linker)
    (hc : ∀ i ∈ imports.filter b.isSystem, (linker.lookup (i.ns, i.name)).isSome)
    (es : List Log.Event) :
    b.Links imports imports []
      ((b.linkOthers (imports.filter fun i => ¬ b.isSystem i) [] linker).run es).1 := by
  have ho := h.linkOthers_own hr es
  rcases hl : ((b.linkOthers (imports.filter fun i => ¬ b.isSystem i) [] linker).run es).1
    with e | l <;> rw [hl] at ho
  · obtain ⟨i, hi, he⟩ := ho
    exact ⟨i, (List.mem_filter.mp hi).1, he⟩
  · obtain ⟨hd, hk, ho⟩ := ho
    refine ⟨hd, fun k hn => absurd hn (by simp), fun i hi => ?_⟩
    cases hs : b.isSystem i with
    | true => exact hk _ (hc i (List.mem_filter.mpr ⟨hi, hs⟩))
    | false => exact ho i (List.mem_filter.mpr ⟨hi, by simp [hs]⟩)

/-- All imports are linked, or one of them cannot be. -/
theorem linkAll_links (hr : b.registry.Built) (imports : List FunctionImport)
    (es : List Log.Event) : b.Links imports imports [] ((b.linkAll imports).run es).1 := by
  unfold linkAll
  cases hw : b.enableWasi with
  | false =>
    have he : imports.filter b.isSystem = [] := by simp [isSystem, hw]
    have hl : b.Linked (imports.filter b.isSystem) [] :=
      ⟨List.nodup_nil, fun h => absurd (hw.symm.trans h) Bool.false_ne_true, nofun⟩
    exact hl.linkOthers_links hr (fun i hi => by rw [he] at hi; cases hi) es
  | true =>
    have hl : b.Linked (imports.filter b.isSystem) (systemLinker SystemCall.all) :=
      (linked_systemLinker hw).mono fun i hi => by cases hi
    have hs := linkStubs_links (fun i hi => (List.mem_filter.mp hi).2)
      (imports.filter b.isSystem) (fun _ hi => hi) _ hl es
    simp only [if_true, run_fallible_bind,
      run_addSystem SystemCall.all ([] : Linker H) es calls_nodup (by simp), List.nil_append]
    rcases ht : (linkStubs (imports.filter b.isSystem) (systemLinker SystemCall.all : Linker H)).run
      es with ⟨e | l, es'⟩ <;> rw [ht] at hs
    · obtain ⟨i, hi, he⟩ := hs
      exact ⟨i, (List.mem_filter.mp hi).1, he⟩
    · exact hs.1.linkOthers_links hr hs.2.2 es'

structure Binds (b : Binder H) (imports : List FunctionImport) (ps : List (Provider H)) :
    Prop where
  fits : List.Forall₂ b.Fits imports ps
  agree : ∀ i ∈ imports, ∀ j ∈ imports, i.ns = j.ns → i.name = j.name → i.signature = j.signature

variable {ps : List (Provider H)}

theorem forall₂_getElem? {R : α → β → Prop} {l : List α} {l' : List β} (h : List.Forall₂ R l l')
    {n : Nat} {a : α} (ha : l[n]? = some a) : ∃ a', l'[n]? = some a' ∧ R a a' := by
  induction h generalizing n with
  | nil => cases ha
  | cons hr _ ih =>
    cases n with
    | zero =>
      obtain rfl := Option.some.inj ha
      exact ⟨_, rfl, hr⟩
    | succ n => exact ih ha

theorem providers?_eq_some_iff (linker : Linker H) (imports : List FunctionImport)
    (ps : List (Provider H)) :
    providers? linker imports = some ps ↔
      List.Forall₂ (fun i p => linker.lookup (i.ns, i.name) = some p ∧ p.signature = i.signature)
        imports ps := by
  induction imports generalizing ps with
  | nil => cases ps <;> simp [providers?]
  | cons i is ih =>
    unfold providers? at ih ⊢
    simp only [List.mapM_cons, Option.bind_eq_bind, Option.bind_eq_some_iff, Option.pure_def,
      Option.some.injEq]
    constructor
    · rintro ⟨p, hp, ps', hps, rfl⟩
      refine .cons ?_ ((ih ps').mp hps)
      split at hp
      · split at hp
        · rename_i hl hs
          obtain rfl := Option.some.inj hp
          exact ⟨hl, hs⟩
        · cases hp
      · cases hp
    · intro h
      cases h with
      | @cons _ p _ ps' hp hps =>
        exact ⟨p, by simp [hp.1, hp.2], ps', (ih ps').mpr hps, rfl⟩

theorem calls_hosted : ∀ x ∈ SystemCall.all, x.2.signature.isHosted = true := by decide +kernel

theorem call_hosted {name : String} {c : SystemCall} (h : SystemCall.ofName? name = some c) :
    c.signature.isHosted = true := by
  obtain ⟨before, after, ha, -⟩ := List.lookup_eq_some_iff.mp h
  have hm : (name, c) ∈ SystemCall.all := by
    rw [ha]
    exact List.mem_append_right _ (List.mem_cons_self ..)
  exact calls_hosted _ hm

theorem Linked.fits (h : b.Linked imports linker) (hl : linker.lookup (i.ns, i.name) = some p)
    (hs : p.signature = i.signature) : b.Fits i p := by
  rcases h.served _ _ _ hl with ⟨hw, hns, c, hc, rfl⟩ | ⟨j, hj, hns, hname, hf⟩
  · refine ⟨.system ((b.isSystem_eq_true_iff i).mpr ⟨hw, hns⟩) c hc, hs, ?_⟩
    rw [← hs]
    exact call_hosted hc
  · refine ⟨hf.serves.of_repeat hns hname hs, hs, ?_⟩
    rw [← hs, hf.signature]
    exact hf.hosted

theorem Linked.binds (h : b.Linked imports linker) (hp : providers? linker imports = some ps) :
    b.Binds imports ps := by
  have hf := (providers?_eq_some_iff ..).mp hp
  have hall : ∀ i ∈ imports, ∃ p, linker.lookup (i.ns, i.name) = some p ∧
      p.signature = i.signature := by
    intro i hi
    obtain ⟨n, hn⟩ := List.getElem?_of_mem hi
    obtain ⟨p, -, hp⟩ := forall₂_getElem? hf hn
    exact ⟨p, hp⟩
  refine ⟨hf.imp fun _ _ hp => h.fits hp.1 hp.2, fun i hi j hj hns hname => ?_⟩
  obtain ⟨p, hp, hs⟩ := hall i hi
  obtain ⟨q, hq, ht⟩ := hall j hj
  rw [hns, hname, hq] at hp
  obtain rfl := Option.some.inj hp
  exact hs.symm.trans ht

/-- Where each import has a provider that fits, those are the providers that were linked. -/
theorem Binds.providers?_eq (hr : b.registry.Built) (h : b.Binds imports ps)
    (hl : b.Linked imports linker)
    (hc : ∀ i ∈ imports, (linker.lookup (i.ns, i.name)).isSome) :
    providers? linker imports = some ps := by
  rw [providers?_eq_some_iff]
  have hm := (List.forall₂_and_left imports ps).mpr ⟨fun i (hi : i ∈ imports) => hi, h.fits⟩
  refine hm.imp fun i p ⟨hi, hf⟩ => ?_
  obtain ⟨q, hq⟩ := Option.isSome_iff_exists.mp (hc i hi)
  have hqp : q = p := by
    rcases hl.served _ _ _ hq with ⟨hw, hns, c, hk, rfl⟩ | ⟨j, hj, hns, hname, hg⟩
    · exact Serves.unique hr (.system ((b.isSystem_eq_true_iff i).mpr ⟨hw, hns⟩) c hk) hf.serves
    · have hs : q.signature = i.signature := hg.signature.trans (h.agree j hj i hi hns hname)
      exact (hg.serves.of_repeat hns hname hs).unique hr hf.serves
  rw [hq, hqp]
  exact ⟨rfl, hf.signature⟩

end Binder

end PluginHost
