import Mathlib.Data.List.Perm.Basic
import PluginHost.Proofs.Accounts
/-!
Host and guest agree on octets. An export that the kit makes of a handler returns what the handler
makes of its input and of the answers of the functions that it calls; each of them is given the very
octets that the handler passes, and the handler the very octets that the function returned. The
buffers that the handler holds meanwhile keep their contents, and when the call is over, the guest
has allocated what it had before.
-/
namespace PluginHost
open GuestKit Stage

namespace GuestKit

namespace Routine

theorem bind_assoc {α β γ : Type} (r : Routine α) (f : α → Routine β) (k : β → Routine γ) :
    (r.bind f).bind k = r.bind fun a => (f a).bind k := by
  induction r with
  | done a => rfl
  | abort => rfl
  | allocate length next ih => exact congrArg (Routine.allocate length) (funext ih)
  | release address length next ih => exact congrArg (Routine.release address length) ih
  | load address length next ih => exact congrArg (Routine.load address length) (funext ih)
  | store address bytes next ih => exact congrArg (Routine.store address bytes) ih
  | call index args next ih => exact congrArg (Routine.call index args) (funext ih)

end Routine

namespace Handler
variable {H : Type}

/-- What the handler returns, given what the functions that it calls return in order. -/
def output {n : Nat} : Handler n → List Bytes → Bytes
  | .done v, _ => v
  | .call _ _ _, [] | .lend _ _ _, [] => []
  | .call _ _ next, a :: as | .lend _ _ next, a :: as => (next a).output as
  | .hold _ _ next, as | .release _ next, as => next.output as

/-- The calls that a handler whose buffers have these contents makes of functions of the host, in
order: each with what the handler passes to it, and the handler goes on with what it returned. -/
def Makes {n : Nat} (providers : Array (Provider H)) :
    Handler n → Vector Bytes n → List Served → Prop
  | .done _, _, ds => ds = []
  | .call index input next, held, ds => ∃ f output rest, providers[index]? = some (.function f) ∧
      ds = ⟨f.ns, f.name, input, output⟩ :: rest ∧ (next output).Makes providers held rest
  | .hold bytes _ next, held, ds => next.Makes providers (held.push bytes) ds
  | .lend index place next, held, ds => ∃ f output rest,
      providers[index]? = some (.function f) ∧
      ds = ⟨f.ns, f.name, held[place], output⟩ :: rest ∧ (next output).Makes providers held rest
  | .release place next, held, ds => next.Makes providers (held.eraseIdx place place.isLt) ds

def Calls {n : Nat} (P : Nat → Prop) : Handler n → Prop
  | .done _ => True
  | .call index _ next | .lend index _ next => P index ∧ ∀ answer, (next answer).Calls P
  | .hold _ _ next | .release _ next => next.Calls P

def effort {n : Nat} : Handler n → List Bytes → Nat
  | .done _, _ => 0
  | .call _ _ next, as => (next (as.headD [])).effort as.tail + 6
  | .hold _ _ next, as => next.effort as + 3
  | .lend _ _ next, as => (next (as.headD [])).effort as.tail + 2
  | .release _ next, as => next.effort as + 1

/-- What a handler returns does not depend on answers to calls that it does not make. -/
theorem output_append {n : Nat} {providers : Array (Provider H)} {f : Handler n}
    {held : Vector Bytes n} {ds : List Served} (h : f.Makes providers held ds)
    (rest : List Served) :
    f.output ((ds ++ rest).map Served.output) = f.output (ds.map Served.output) := by
  induction f generalizing ds with
  | done v => rfl
  | call index input next ih =>
    obtain ⟨g, answer, ds', -, rfl, h'⟩ := h
    exact ih answer h'
  | hold bytes filled next ih => exact ih h
  | lend index place next ih =>
    obtain ⟨g, answer, ds', -, rfl, h'⟩ := h
    exact ih answer h'
  | release place next ih => exact ih h

end Handler

end GuestKit

def Block.stretches (b : Block) : List Stretch := if b.isEmpty then [] else [b.stretch]

theorem Block.Proper.stretches_eq {b : Block} (h : b.Proper) : b.stretches = [b.stretch] := by
  unfold stretches
  rw [h.isEmpty_eq]
  rfl

namespace Stage
variable {steps : Nat} {H : Type} {F : Fixed (Build.machine steps) H} {h : Heap}
  {own : List Stretch} {served all : List Served} {s s' : Stage (Build.machine steps) H}
  {b : Bridge} {block : Block} {bytes : Bytes}

/-- The books do not depend on the order of what the call does not own. -/
theorem Books.of_perm {own' : List Stretch} (hb : s.Books F h own served) (hp : own.Perm own') :
    s.Books F h own' served :=
  { hb with live := hb.live.trans (hp.append_left _) }

theorem Books.release {t : Stretch} (hb : s.Books F h (t :: own) served) :
    (s.stepped 1 (s.guest.release t)).Books F h own served := by
  have hl : s.guest.live.Perm (t :: (s.tracked.map Block.stretch ++ own)) :=
    hb.live.trans List.perm_middle
  have ht : t ∈ s.guest.live := hl.mem_iff.mpr List.mem_cons_self
  have he := Heap.release_eq ht
  refine hb.of_aside (stepped_aside s 1 _) ?_ ?_ ?_ ?_
  · change (s.guest.release t).live.Perm _
    rw [he]
    have hp := hl.erase t
    rwa [List.erase_cons_head] at hp
  · change (s.guest.release t).strays = _
    rw [he]
  · change (s.guest.release t).refusals = _
    rw [he]
  · exact Nat.le_of_eq (congrArg Heap.size he).symm

theorem Spares.release {t : Stretch} (ht : t ∈ s.guest.live) :
    s.Spares own (s.stepped 1 (s.guest.release t)) := by
  have hg : (s.stepped 1 (s.guest.release t)).guest =
    { s.guest with live := s.guest.live.erase t } := Heap.release_eq ht
  exact ⟨Nat.le_of_eq (congrArg Heap.size hg).symm, fun u _ => by rw [hg]; rfl⟩

theorem Books.stepped (hb : s.Books F h own served) :
    (s.stepped 1 s.guest).Books F h own served := hb.of_same (stepped_aside s 1 _) rfl

theorem Books.stored (hb : s.Books F h own served) (address : Nat) (bytes : Bytes) :
    (s.stepped 1 (s.guest.write address bytes)).Books F h own served :=
  hb.of_aside (stepped_aside s 1 _) hb.live rfl rfl (Nat.le_refl _)

structure Contains (s : Stage (Build.machine steps) H) (t : Stretch) (bytes : Bytes) : Prop where
  positive : 0 < t.address
  filled : 0 < t.length
  inside : t.stop ≤ s.guest.size
  small : t.stop ≤ UInt32.size
  read : s.guest.read t.address t.length = bytes

namespace Contains
variable {t : Stretch}

theorem spared (hk : s.Contains t bytes) (hs : s.Spares own s') (ht : t ∈ own) :
    s'.Contains t bytes :=
  { hk with
    inside := Nat.le_trans hk.inside hs.size
    read := (hs.read t ht).trans hk.read }

theorem ptr (hk : s.Contains t bytes) : (UInt32.ofNat t.address).toNat = t.address := by
  have hs : t.address + t.length ≤ UInt32.size := hk.small
  have hf := hk.filled
  exact UInt32.toNat_ofNat_of_lt' (by omega)

theorem len (hk : s.Contains t bytes) : (UInt32.ofNat t.length).toNat = t.length := by
  have hs : t.address + t.length ≤ UInt32.size := hk.small
  have hp := hk.positive
  exact UInt32.toNat_ofNat_of_lt' (by omega)

end Contains

theorem Fits.contains {p : Nat} (hf : Fits ⟨p, bytes.length⟩ s s') (hn : bytes ≠ []) :
    (s'.stepped 1 (s'.guest.write p bytes)).Contains ⟨p, bytes.length⟩ bytes :=
  ⟨hf.positive, List.length_pos_iff.mpr hn, hf.inside, hf.small, s'.guest.read_write p bytes⟩

def Carries {n : Nat} (s : Stage (Build.machine steps) H) (held : Vector Stretch n)
    (contents : Vector Bytes n) : Prop :=
  ∀ i (hi : i < n), s.Contains held[i] contents[i]

namespace Carries
variable {n : Nat} {held : Vector Stretch n} {contents : Vector Bytes n}

theorem spared (hh : s.Carries held contents) (hs : s.Spares (held.toList ++ own) s') :
    s'.Carries held contents := fun i hi =>
  (hh i hi).spared hs (List.mem_append_left own (Vector.mem_toList_iff.mpr (Vector.getElem_mem hi)))

theorem push (hh : s.Carries held contents) {t : Stretch} (hk : s.Contains t bytes) :
    s.Carries (held.push t) (contents.push bytes) := by
  intro i hi
  rw [Vector.getElem_push, Vector.getElem_push]
  split
  · exact hh i _
  · exact hk

theorem eraseIdx {held : Vector Stretch (n + 1)} {contents : Vector Bytes (n + 1)}
    (hh : s.Carries held contents) {place : Nat} (hp : place < n + 1) :
    s.Carries (held.eraseIdx place hp) (contents.eraseIdx place hp) := by
  intro i hi
  rw [Vector.getElem_eraseIdx, Vector.getElem_eraseIdx]
  split
  · exact hh i _
  · exact hh (i + 1) _

end Carries

theorem Books.due {e : Served} (hb : s.Books F h own (served ++ [e])) (ho : s.Orderly h all) :
    all.drop served.length = e :: all.drop (served ++ [e]).length := by
  obtain ⟨due, hdue⟩ := ho.served
  rw [hb.served] at hdue
  subst hdue
  simp

theorem Fits.not_owned (hf : Fits block.stretch s s') (hb : s.Books F h own served)
    (hp : block.Proper) : s'.store.owns block = false := by
  have hlen := hp.length_pos
  rw [owns_eq, hf.tracked, List.any_eq_false]
  intro c hc
  have hm : c.stretch ∈ s.guest.live :=
    hb.live.mem_iff.mpr (List.mem_append_left _ (List.mem_map_of_mem hc))
  have ha := hf.fresh c.stretch hm
  simp only [Stretch.Apart, Stretch.stop, Block.stretch] at ha
  simp only [Block.startsIn, Bool.and_eq_true, decide_eq_true_eq]
  omega

theorem execute_call (n d : Nat) {index : Nat} (args : List Value)
    (next : List Value → Routine (List Value)) {p : Provider H}
    (hp : s.providers[index]? = some p) :
    execute (n + 1) (Build.Code.running d (.call index args next)) s =
      match ImportCall.provider (runner s.module n (d + 1)) p .guest args s with
      | (.ok results, s') => execute n (Build.Code.running d (next results)) s'
      | (.error e, s') => (.error e, s') := by
  have hs : (Build.machine steps).step s.module
      (Build.Code.running d (.call index args next)) s.guest =
        .call index args .guest (d + 1) (Build.Code.waiting d next) s.guest := rfl
  rw [execute_succ, hs]
  dsimp only
  rw [hp]
  dsimp only
  split
  · rename_i results s' he
    have hr : ImportCall.provider (runner s.module n (d + 1)) p .guest args s =
      (.ok results, s') := he
    rw [hr]
    rfl
  · rename_i e s' he
    have hr : ImportCall.provider (runner s.module n (d + 1)) p .guest args s =
      (.error e, s') := he
    rw [hr]

namespace Leads
variable {k d : Nat} {Q : Ending → Stage (Build.machine steps) H → Prop}

/-- What is to be shown of code that starts here can use that no obstacle was met so far. -/
theorem of_orderly {code : Build.Code} (hl : s.Orderly h all → s.Leads h all k code Q) :
    s.Leads h all k code Q := by
  intro n hn ho
  exact hl (ho.of_onward (execute_onward n code s)) n hn ho

/-- An imported function on octets is given a slice of memory, and answers with a buffer that holds
what it returned. -/
theorem call (hk : F.Kitted b) {index : Nat} {f : HostFunction H}
    (hp : F.providers[index]? = some (.function f)) (hf : f.OnBytes) {ptr len : UInt32}
    {next : List Value → Routine (List Value)} (hb : s.Books F h own served)
    (hi : ptr.toNat + len.toNat ≤ s.guest.size) (h₃ : 3 ≤ k)
    (hl : ∀ output block (s' : Stage (Build.machine steps) H), s'.Books F h own
        (served ++ [⟨f.ns, f.name, s.guest.read ptr.toNat len.toNat, output⟩]) →
      s.Spares own s' → s'.Filled block output →
        s'.Leads h all k (.running d (next [.i64 block.pack])) Q) :
    s.Leads h all (k + 1) (.running d (.call index [.i32 ptr, .i32 len] next)) Q := by
  intro n hn ho
  cases n with
  | zero => omega
  | succ n =>
    have hprov : s.providers[index]? = some (.function f) := by
      rw [← hp, ← hb.fixed]
      rfl
    have hm : s.module = F.module := congrArg Fixed.module hb.fixed
    rw [execute_call n d _ next hprov, hm] at ho ⊢
    have hend : (ImportCall.provider (runner F.module n (d + 1) : Runner (Build.machine steps) H)
        (.function f) .guest [.i32 ptr, .i32 len] s).2.Orderly h all := by
      rcases hr : ImportCall.provider (runner F.module n (d + 1)) (.function f) .guest
        [.i32 ptr, .i32 len] s with ⟨e | results, s'⟩ <;> rw [hr] at ho
      · exact ho
      · exact ho.of_onward (execute_onward n _ s')
    obtain ⟨output, block, s', hr, hb', hs, hh⟩ :=
      (runner_supplies (by omega) hk.alloc).provider_books hk hf .guest hb hi hend
    rw [hr] at ho ⊢
    exact hl output block s' hb' hs hh n (by omega) ho

theorem imported (hk : F.Kitted b) {index : Nat} {f : HostFunction H}
    (hp : F.providers[index]? = some (.function f)) (hf : f.OnBytes) {ptr len : UInt32}
    {rest : UInt64 → Routine (List Value)} (hb : s.Books F h own served)
    (hi : ptr.toNat + len.toNat ≤ s.guest.size) (h₃ : 3 ≤ k)
    (hl : ∀ output block (s' : Stage (Build.machine steps) H), s'.Books F h own
        (served ++ [⟨f.ns, f.name, s.guest.read ptr.toNat len.toNat, output⟩]) →
      s.Spares own s' → s'.Filled block output →
        s'.Leads h all k (.running d (rest block.pack)) Q) :
    s.Leads h all (k + 1)
      (.running d ((GuestKit.imported index ptr len).bind rest)) Q :=
  call hk hp hf hb hi h₃ hl

theorem readInput (hb : s.Books F h own served) (hh : s.Filled block bytes)
    {rest : Bytes → Routine (List Value)}
    (hl : ∀ s' : Stage (Build.machine steps) H, s'.Books F h own served → s'.guest = s.guest →
      s'.Leads h all k (.running d (rest bytes)) Q) :
    s.Leads h all (k + 1) (.running d ((GuestKit.readInput block.ptr block.len).bind rest)) Q := by
  unfold GuestKit.readInput
  by_cases hn : bytes = []
  · subst hn
    have hz : isPositive block.len = false := by
      simp [isPositive, hh.length]
    rw [if_neg (by simp [hz])]
    exact (hl s hb rfl).mono (Nat.le_succ k)
  · have hp := hh.proper hn
    rw [if_pos (by simp [hp.ptr, hp.len])]
    refine load (by rw [hh.length]; exact hh.inside) ?_
    rw [hh.length, hh.read]
    exact hl _ hb.stepped rfl

theorem readPacked (hb : s.Books F h own served) (hh : s.Filled block bytes)
    {rest : Bytes → Routine (List Value)}
    (hl : ∀ s' : Stage (Build.machine steps) H, s'.Books F h own served → s'.guest = s.guest →
      s'.Leads h all k (.running d (rest bytes)) Q) :
    s.Leads h all (k + 1) (.running d ((GuestKit.readPacked block.pack).bind rest)) Q := by
  unfold GuestKit.readPacked
  rw [Block.unpack_pack]
  exact readInput hb hh hl

theorem callOn (hk : F.Kitted b) {index : Nat} {f : HostFunction H}
    (hp : F.providers[index]? = some (.function f)) (hf : f.OnBytes) {ptr len : UInt32}
    (hb : s.Books F h own served) (hi : ptr.toNat + len.toNat ≤ s.guest.size)
    {rest : Bytes → Routine (List Value)} (h₂ : 2 ≤ k)
    (hl : ∀ output (s' : Stage (Build.machine steps) H), s'.Books F h own
        (served ++ [⟨f.ns, f.name, s.guest.read ptr.toNat len.toNat, output⟩]) →
      s.Spares own s' → s'.Leads h all k (.running d (rest output)) Q) :
    s.Leads h all (k + 2)
      (.running d ((GuestKit.callOn (GuestKit.imported index) ptr len).bind rest)) Q := by
  change s.Leads h all (k + 2) (.running d
    (((GuestKit.imported index ptr len).bind GuestKit.readPacked).bind rest)) Q
  rw [Routine.bind_assoc]
  refine imported (k := k + 1) hk hp hf hb hi (by omega) fun output block s₁ hb₁ hs₁ hh => ?_
  exact readPacked hb₁ hh fun s₂ hb₂ hg => hl output s₂ hb₂ (hs₁.trans (.of_guest hg))

/-- An imported function is called on octets that guest code holds. -/
theorem lend (hk : F.Kitted b) {index : Nat} {f : HostFunction H}
    (hp : F.providers[index]? = some (.function f)) (hf : f.OnBytes) {t : Stretch}
    (hb : s.Books F h own served) (hh : s.Contains t bytes)
    {rest : Bytes → Routine (List Value)} (h₂ : 2 ≤ k)
    (hl : ∀ output (s' : Stage (Build.machine steps) H),
      s'.Books F h own (served ++ [⟨f.ns, f.name, bytes, output⟩]) → s.Spares own s' →
        s'.Leads h all k (.running d (rest output)) Q) :
    s.Leads h all (k + 2) (.running d ((GuestKit.callOn (GuestKit.imported index)
      (UInt32.ofNat t.address) (UInt32.ofNat t.length)).bind rest)) Q := by
  refine callOn hk hp hf hb ?_ h₂ fun output s' hb' => ?_
  · rw [hh.ptr, hh.len]
    exact hh.inside
  · rw [hh.ptr, hh.len, hh.read] at hb'
    exact hl output s' hb'

/-- A handler calls an imported function on octets that it puts into memory for the call. -/
theorem callHost (hk : F.Kitted b) {index : Nat} {f : HostFunction H}
    (hp : F.providers[index]? = some (.function f)) (hf : f.OnBytes)
    (hb : s.Books F h own served) (input : Bytes) {rest : Bytes → Routine (List Value)}
    (h₂ : 2 ≤ k)
    (hl : ∀ output (s' : Stage (Build.machine steps) H),
      s'.Books F h own (served ++ [⟨f.ns, f.name, input, output⟩]) → s.Spares own s' →
        s'.Leads h all k (.running d (rest output)) Q) :
    s.Leads h all (k + 6)
      (.running d ((GuestKit.callHost (GuestKit.imported index) input).bind rest)) Q := by
  unfold GuestKit.callHost lending
  by_cases hn : input = []
  · subst hn
    have hc : s.Leads h all (k + 2) (.running d
        ((GuestKit.callOn (GuestKit.imported index) 1 0).bind rest)) Q := by
      have hi : (1 : UInt32).toNat + (0 : UInt32).toNat ≤ s.guest.size := hb.room
      exact callOn hk hp hf hb hi h₂ hl
    exact hc.mono (by omega)
  · rw [if_neg (by simpa using hn)]
    refine allocate hb fun p s₁ hb₁ hf₁ => store (k := k + 3) hf₁.inside ?_
    let t : Stretch := ⟨p, input.length⟩
    let s₂ := s₁.stepped 1 (s₁.guest.write p input)
    have hb₂ : s₂.Books F h (t :: own) served := hb₁.stored p input
    have hs₂ : s.Spares own s₂ := hf₁.spares_write hb rfl rfl
    change s₂.Leads h all (k + 3) (.running d (((GuestKit.callOn (GuestKit.imported index)
      (UInt32.ofNat t.address) (UInt32.ofNat t.length)).bind fun answer =>
        .release p input.length (.done answer)).bind rest)) Q
    rw [Routine.bind_assoc]
    refine lend hk hp hf hb₂ (hf₁.contains hn) (by omega) fun output s₃ hb₃ hs₃ => ?_
    have hs₄ : s₃.Spares own (s₃.stepped 1 (s₃.guest.release t)) :=
      .release (hb₃.mem_live List.mem_cons_self)
    exact release (hl output _ hb₃.release ((hs₂.trans hs₃.of_cons).trans hs₄))

/-- A handler runs to its end: it makes calls, returns what it computes of their answers, and holds
none of its buffers any more. -/
theorem handler (hk : F.Kitted b) {n : Nat} {f : Handler n} {held : Vector Stretch n}
    {contents : Vector Bytes n} (hf : f.Calls (OctetsAt F.providers))
    (hb : s.Books F h (held.toList ++ own) served) (hh : s.Carries held contents)
    {rest : Bytes → Routine (List Value)} (h₂ : 2 ≤ k)
    (hl : ∀ ds (s' : Stage (Build.machine steps) H), f.Makes F.providers contents ds →
      s'.Books F h own (served ++ ds) →
        s'.Leads h all k (.running d (rest (f.output (ds.map Served.output)))) Q) :
    s.Leads h all (k + f.effort ((all.drop served.length).map Served.output))
      (.running d ((f.routine held).bind rest)) Q := by
  induction f generalizing s served with
  | done v =>
    have hnone : held.toList = [] := List.eq_nil_of_length_eq_zero held.length_toList
    rw [hnone] at hb
    exact hl [] s rfl (by rwa [List.append_nil])
  | call index input next ih =>
    obtain ⟨⟨g, hp, hg⟩, hnext⟩ := hf
    change s.Leads h all (k + _ + 6) (.running d
      (((GuestKit.callHost (GuestKit.imported index) input).bind
        fun answer => (next answer).routine held).bind rest)) Q
    rw [Routine.bind_assoc]
    refine callHost hk hp hg hb input (by omega) fun answer s' hb' hs => of_orderly fun ho => ?_
    -- The answer is the one that was expected, or something has gone wrong by the end.
    rw [hb'.due ho]
    exact ih answer (hnext answer) hb' (hh.spared hs) fun ds s'' hm hb'' =>
      hl (⟨g.ns, g.name, input, answer⟩ :: ds) s'' ⟨g, answer, ds, hp, rfl, hm⟩ (by
        rwa [List.append_assoc] at hb'')
  | hold bytes filled next ih =>
    change s.Leads h all (k + _ + 3) _ Q
    refine allocate hb fun p s₁ hb₁ hf₁ => store hf₁.inside ?_
    have hpush : (⟨p, bytes.length⟩ :: (held.toList ++ own)).Perm
        ((held.push ⟨p, bytes.length⟩).toList ++ own) := by
      rw [Vector.toList_push, List.append_assoc]
      exact List.perm_middle.symm
    exact ih hf ((hb₁.stored p bytes).of_perm hpush)
      ((hh.spared (hf₁.spares_write hb rfl rfl)).push (hf₁.contains filled)) hl
  | lend index place next ih =>
    obtain ⟨⟨g, hp, hg⟩, hnext⟩ := hf
    change s.Leads h all (k + _ + 2) (.running d
      (((GuestKit.callOn (GuestKit.imported index) (UInt32.ofNat held[place].address)
        (UInt32.ofNat held[place].length)).bind fun answer =>
          (next answer).routine held).bind rest)) Q
    rw [Routine.bind_assoc]
    refine lend hk hp hg hb (hh place place.isLt) (by omega) fun answer s' hb' hs =>
      of_orderly fun ho => ?_
    rw [hb'.due ho]
    exact ih answer (hnext answer) hb' (hh.spared hs) fun ds s'' hm hb'' =>
      hl (⟨g.ns, g.name, contents[place], answer⟩ :: ds) s'' ⟨g, answer, ds, hp, rfl, hm⟩ (by
        rwa [List.append_assoc] at hb'')
  | release place next ih =>
    change s.Leads h all (k + _ + 1) _ Q
    have hpick : (held.toList ++ own).Perm
        (held[place] :: ((held.eraseIdx place).toList ++ own)) := by
      rw [Vector.toList_eraseIdx]
      exact (List.getElem_cons_eraseIdx_perm _).symm.append_right own
    have hb' := hb.of_perm hpick
    have hs : s.Spares (held.toList ++ own) (s.stepped 1 (s.guest.release held[place])) :=
      .release (hb'.mem_live List.mem_cons_self)
    exact Leads.release (ih hf hb'.release ((hh.spared hs).eraseIdx place.isLt) hl)

/-- Octets that guest code returns are put into a buffer that is no part of what the call owns. -/
theorem writeOutput (hb : s.Books F h own served) {v : Bytes} (hm : v.length ≤ Buffer.maxLength)
    {rest : UInt64 → Routine (List Value)}
    (hl : ∀ block (s' : Stage (Build.machine steps) H),
      s'.Books F h (block.stretches ++ own) served → s'.Filled block v →
        s'.store.owns block = false → s'.Leads h all k (.running d (rest block.pack)) Q) :
    s.Leads h all (k + 3) (.running d ((GuestKit.writeOutput v).bind rest)) Q := by
  cases hv : v with
  | nil =>
    subst hv
    have ho : s.store.owns Block.empty = false := by
      rw [owns_eq, List.any_eq_false]
      intro c hc
      have hp := (hb.proper c hc).ptr
      have hz : c.ptr.toNat ≠ 0 := fun hn => hp (UInt32.toNat_inj.mp hn)
      simp only [Block.startsIn, Block.empty, UInt32.toNat_zero, Bool.and_eq_true,
        decide_eq_true_eq]
      omega
    exact (hl Block.empty s hb (filled_nothing s) ho).mono (by omega)
  | cons x xs =>
    rw [← hv]
    have hn : 0 < v.length := by
      rw [hv]
      exact Nat.succ_pos _
    have hlen := Buffer.length_toNat hm
    unfold GuestKit.writeOutput
    rw [if_neg (by simpa using List.length_pos_iff.mp hn)]
    dsimp only
    rw [alloc_eq (isPositive_ofNat hn hm), hlen]
    refine allocate hb fun p s₁ hb₁ hf₁ => ?_
    let block : Block := ⟨UInt32.ofNat p, UInt32.ofNat v.length⟩
    have hblock : block.Proper ∧ block.stretch = ⟨p, v.length⟩ :=
      block_of_place hf₁.positive hf₁.small hn hm
    obtain ⟨hproper, hstretch⟩ := hblock
    rw [← hstretch] at hb₁ hf₁
    have hin : block.ptr.toNat + v.length ≤ s₁.guest.size := by
      have hi := hf₁.inside
      rwa [Stretch.stop, Block.stretch, hlen] at hi
    change s₁.Leads h all (k + 1) (.running d (Routine.bind (if block.ptr = 0 then
      if v.length < twoTo 31 then Routine.abort else .done 0
      else .store block.ptr.toNat v (.done block.pack)) rest)) Q
    rw [if_neg hproper.ptr]
    refine store hin (hl block _ ?_ ⟨fun _ => hproper, hlen, hin, s₁.guest.read_write _ v⟩
      (hf₁.not_owned hb hproper))
    rw [hproper.stretches_eq]
    exact hb₁.stored block.ptr.toNat v

/-- An export that the kit makes of a handler returns a buffer with what the handler makes of its
input, if the conversation that it then has is the one that is expected. -/
theorem octets (hk : F.Kitted b) {f : Bytes → Handler 0}
    (hf : (f bytes).Calls (OctetsAt F.providers))
    (hb : s.Books F h own []) (hh : s.Filled block bytes)
    (hm : ((f bytes).output (all.map Served.output)).length ≤ Buffer.maxLength) :
    s.Leads h all (5 + (f bytes).effort (all.map Served.output)) (.running d
      (Entry.octets (fun input => (f input).routine #v[]) [.i32 block.ptr, .i32 block.len]))
      fun r s' => ∃ ds block', (f bytes).Makes F.providers #v[] ds ∧
        s'.Books F h (block'.stretches ++ own) ds ∧
        s'.Filled block' ((f bytes).output (ds.map Served.output)) ∧
        s'.store.owns block' = false ∧ r = .ok [.i64 block'.pack] := by
  change s.Leads h all _ (.running d (((GuestKit.readInput block.ptr block.len).bind fun input =>
    ((f input).routine #v[]).bind GuestKit.writeOutput).bind fun word => .done [.i64 word])) _
  rw [Routine.bind_assoc]
  refine (readInput (k := 4 + (f bytes).effort (all.map Served.output)) hb hh
    fun s₁ hb₁ _ => ?_).mono (by omega)
  rw [Routine.bind_assoc]
  have hnone : s₁.Carries #v[] #v[] := nofun
  refine handler (k := 4) hk hf hb₁ hnone (by omega) fun ds s₂ hd hb₂ => ?_
  refine of_orderly fun ho => ?_
  obtain ⟨rest, hrest⟩ := ho.served
  have hs : Deeds.served s₂.record = ds := hb₂.served
  have hlen : ((f bytes).output (ds.map Served.output)).length ≤ Buffer.maxLength := by
    rw [← hrest, hs, Handler.output_append hd] at hm
    exact hm
  exact writeOutput hb₂ hlen fun block' s₃ hb₃ hh₃ ho₃ =>
    done ⟨ds, block', hd, hb₃, hh₃, ho₃, rfl⟩

end Leads

end Stage

end PluginHost
