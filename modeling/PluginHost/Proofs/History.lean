import PluginHost.Proofs.Binding
import PluginHost.Proofs.Contents
import PluginHost.Proofs.Moments
/-!
The variables of a plugin through its life. Everything that host and guest do with them, from the
start computation on and in calls that fail no less than in others, follows one finite map; the
guest is answered through its memory what the map says.
-/
namespace PluginHost
variable {g : Guest} {H α : Type}

namespace Stage
variable {limit : Nat} {c₀ : Contents} {s s' : Stage g H}

/-- The variables are in order, and are those that a map has come to by what is on record. -/
structure Told (limit : Nat) (c₀ : Contents) (s : Stage g H) : Prop where
  sound : s.store.vars.Sound limit
  follows : ∃ c, Contents.Follows limit c₀ (Deeds.uses s.record) c ∧ s.store.vars.Holds c

theorem uses_note (s : Stage g H) (d : Deed) :
    Deeds.uses (s.note d).record = Deeds.uses s.record ++ d.use?.toList := by
  rw [(Did.note s d).record_eq, Deeds.uses_append]
  cases h : d.use? <;> simp [Deeds.uses, h]

theorem vars_track (t : Store) (b : Block) : (t.track b).vars = t.vars := by
  unfold Store.track
  split <;> rfl

theorem Told.of_same (h : Told limit c₀ s) (hv : s'.store.vars = s.store.vars)
    (hu : Deeds.uses s'.record = Deeds.uses s.record) : Told limit c₀ s' := by
  obtain ⟨hs, hf⟩ := h
  constructor
  · rw [hv]
    exact hs
  · rw [hv, hu]
    exact hf

theorem Told.note (h : Told limit c₀ s) {d : Deed} (hd : d.use? = none) :
    Told limit c₀ (s.note d) := by
  refine h.of_same rfl ?_
  rw [uses_note, hd]
  exact List.append_nil _

/-- The host answers the guest as the map says, and changes the map as it should. -/
theorem Told.host (h : Told limit c₀ s) (t : HostTick s s') : Told limit c₀ s' := by
  obtain ⟨c, hf, hc⟩ := h.follows
  cases t with
  | shared w => exact h.of_same rfl rfl
  | asked length => exact h.note rfl
  | reported octets => exact (h.note (d := .reported octets) rfl).of_same rfl rfl
  | assigned key value vars set =>
    obtain ⟨hs, hstep⟩ := h.sound.of_set set
    obtain ⟨hk, hc'⟩ := hstep c hc
    refine ⟨hs, c.assign key value, ?_, hc'⟩
    have hu : Deeds.uses (s.note (.assigned key value true)).record = _ := uses_note s _
    exact hu ▸ hf.trans (.single hk)
  | refused key value e set =>
    refine ⟨h.sound, c, ?_, hc⟩
    rw [uses_note]
    exact hf.trans (.single (h.sound.of_set_error set hc))
  | lookedUp key =>
    refine ⟨h.sound, c, ?_, hc⟩
    rw [uses_note, hc key]
    exact hf.trans (.single (.lookedUp c key))
  | served ns name input output => exact h.note rfl
  | declined ns name input e => exact h.note rfl

theorem told_lasting (limit : Nat) (c₀ : Contents) :
    Lasting (Told limit c₀ : Stage g H → Prop) fun _ => Told limit c₀ := by
  refine lasting_of_ticks (fun s s' t h => ?_) (fun s s' ha h => h.of_same ha.vars ha.uses)
    fun s name h => h.of_same rfl rfl
  cases t with
  | host _ tick => exact h.host tick
  | placed b block bytes =>
    exact (h.note (d := .given block) rfl).of_same (vars_track s.store block) rfl
  | _ => exact h.of_same rfl rfl

theorem sound_enduring (limit : Nat) :
    Enduring (fun s : Stage g H => s.store.vars.Sound limit) fun _ s =>
      s.store.vars.Sound limit := by
  have ht : ∀ s s' : Stage g H, Tick s s' → s.store.vars.Sound limit →
      s'.store.vars.Sound limit := by
    intro s s' t h
    cases t with
    | host _ tick =>
      cases tick with
      | assigned key value vars set => exact (h.of_set set).1
      | _ => exact h
    | placed b block bytes => exact (vars_track s.store block).symm ▸ h
    | _ => exact h
  have ha : ∀ s s' : Stage g H, s.Apart s' → s.store.vars.Sound limit →
      s'.store.vars.Sound limit := fun s s' h hs => h.vars.symm ▸ hs
  exact { lasting_of_ticks ht ha fun _ _ hs => hs with
    opened := fun _ _ hs => hs
    anew := fun _ _ _ _ hs => hs
    assigned := fun _ _ _ _ hv hs => (hs.of_set hv).1
    cleared := fun _ hs => hs.clear }

end Stage

namespace ImportCall
open Stage

/-- How setting a variable answers the guest. What cannot be read, a key or a value, changes
nothing; otherwise the variables are set or refuse to be, and the guest hears which. -/
structure Sets (run : Runner g H) (s : Stage g H) (caller : Caller)
    (keyPtr keyLen ptr len : UInt32) : Prop where
  unnamed : ∀ e, ((readKey .setVariable caller keyPtr keyLen).run s).1 = .error e →
    provider run (.service .setVariable) caller [.i32 keyPtr, .i32 keyLen, .i32 ptr, .i32 len] s =
      (.error (.raised e), s)
  unread : ∀ key e, ((readKey .setVariable caller keyPtr keyLen).run s).1 = .ok key →
    ((readFor .setVariable caller ptr len).run s).1 = .error e →
      provider run (.service .setVariable) caller [.i32 keyPtr, .i32 keyLen, .i32 ptr, .i32 len] s =
        (.error (.raised e), s)
  accepted : ∀ key value vars, ((readKey .setVariable caller keyPtr keyLen).run s).1 = .ok key →
    ((readFor .setVariable caller ptr len).run s).1 = .ok value →
    s.store.vars.set key value = .ok vars →
      ∃ s', provider run (.service .setVariable) caller
          [.i32 keyPtr, .i32 keyLen, .i32 ptr, .i32 len] s = (.ok [], s') ∧
        s'.store.vars = vars ∧ s'.guest = s.guest ∧ s.Did [.assigned key value true] s'
  refused : ∀ key value e, ((readKey .setVariable caller keyPtr keyLen).run s).1 = .ok key →
    ((readFor .setVariable caller ptr len).run s).1 = .ok value →
    s.store.vars.set key value = .error e →
      provider run (.service .setVariable) caller [.i32 keyPtr, .i32 keyLen, .i32 ptr, .i32 len] s =
        (.error (.raised e), s.note (.assigned key value false))

structure Hits (s : Stage g H) (caller : Caller) (ptr len : UInt32) (key : String) (value : Bytes) :
    Prop where
  named : ((readKey .getVariable caller ptr len).run s).1 = .ok key
  held : s.store.vars.get? key = some value

/-- How looking a variable up answers the guest in a call. A key that cannot be read changes
nothing; a variable that is not set is answered with zero and without an allocation; for the value
of another the allocator is asked. Where it gives a buffer, the guest is answered with that, and the
value is in it. -/
structure Finds (run : Runner g H) (s : Stage g H) (caller : Caller) (ptr len : UInt32) :
    Prop where
  unnamed : ∀ e, ((readKey .getVariable caller ptr len).run s).1 = .error e →
    provider run (.service .getVariable) caller [.i32 ptr, .i32 len] s = (.error (.raised e), s)
  unset : ∀ key, ((readKey .getVariable caller ptr len).run s).1 = .ok key →
    s.store.vars.get? key = none →
      provider run (.service .getVariable) caller [.i32 ptr, .i32 len] s =
        (.ok [.i64 0], s.note (.lookedUp key none))
  unallocated : ∀ key value, Hits s caller ptr len key value → s.store.bridge = none →
    provider run (.service .getVariable) caller [.i32 ptr, .i32 len] s =
      (.error (.raised (.hostFunction Service.getVariable.name
        "guest does not export an allocator")), s.note (.lookedUp key (some value)))
  long : ∀ key value b, Hits s caller ptr len key value → s.store.bridge = some b →
    Buffer.maxLength < value.length →
      provider run (.service .getVariable) caller [.i32 ptr, .i32 len] s =
        (.error (.raised (.outOfMemory value.length)), s.note (.lookedUp key (some value)))
  found : ∀ key value b address u, Hits s caller ptr len key value → s.store.bridge = some b →
    value.length ≤ Buffer.maxLength →
    run b.alloc [.i32 (UInt32.ofNat value.length)] ((s.note (.lookedUp key (some value))).note
      (.asked (UInt32.ofNat value.length))) = (.ok [.i32 address], u) →
    address ≠ 0 → address.toNat + value.length ≤ u.memorySize b.memory →
      ∃ block s' ds, block = ⟨address, UInt32.ofNat value.length⟩ ∧
        provider run (.service .getVariable) caller [.i32 ptr, .i32 len] s =
          (.ok [.i64 block.pack], s') ∧
        s.Did (.lookedUp key (some value) :: .asked block.len :: ds ++ [.given block]) s' ∧
        block.len.toNat = value.length ∧
        g.read s'.guest b.memory block.ptr.toNat value.length = value
  declined : ∀ key value b r u, Hits s caller ptr len key value → s.store.bridge = some b →
    value.length ≤ Buffer.maxLength →
    run b.alloc [.i32 (UInt32.ofNat value.length)] ((s.note (.lookedUp key (some value))).note
      (.asked (UInt32.ofNat value.length))) = (r, u) →
    (∀ address, r = .ok [.i32 address] → address ≠ 0 →
      u.memorySize b.memory < address.toNat + value.length) →
      ∃ e, Buffer.Declines u b value.length r e ∧
        provider run (.service .getVariable) caller [.i32 ptr, .i32 len] s = (.error (.raised e), u)

theorem provider_of_raised {run : Runner g H} {sv : Service} {caller : Caller} {args : List Value}
    {s s' : Stage g H} {e : Failure} (h : (service run sv caller args).run s = (.error e, s')) :
    provider run (.service sv) caller args s = (.error (.raised e), s') := by
  change raising sv.signature caller (service run sv caller args) s = _
  rw [run_raising, h]

theorem provider_of_answered {run : Runner g H} {sv : Service} {caller : Caller}
    {args results : List Value} {s s' : Stage g H}
    (h : (service run sv caller args).run s = (.ok results, s'))
    (hf : fits sv.signature.results results = true) :
    provider run (.service sv) caller args s = (.ok results, s') := by
  change raising sv.signature caller (service run sv caller args) s = _
  rw [run_raising, h]
  dsimp only
  rw [if_pos hf]

theorem run_readKey {sv : Service} {caller : Caller} {ptr len : UInt32} {s : Stage g H}
    {r : Except Failure String} (h : ((readKey sv caller ptr len).run s).1 = r) :
    (readKey sv caller ptr len).run s = (r, s) :=
  Prod.ext h (readKey_stage sv caller ptr len s)

theorem run_readFor {sv : Service} {caller : Caller} {ptr len : UInt32} {s : Stage g H}
    {r : Except Failure Bytes} (h : ((readFor sv caller ptr len).run s).1 = r) :
    (readFor sv caller ptr len).run s = (r, s) :=
  Prod.ext h (readFor_stage sv caller ptr len s)

theorem sets (run : Runner g H) (s : Stage g H) (caller : Caller)
    (keyPtr keyLen ptr len : UInt32) : Sets run s caller keyPtr keyLen ptr len where
  unnamed := by
    intro e hk
    refine provider_of_raised ?_
    unfold service
    rw [Task.run_bind_error (run_readKey hk)]
  unread := by
    intro key e hk hv
    refine provider_of_raised ?_
    unfold service
    rw [Task.run_bind_ok (run_readKey hk), Task.run_bind_error (run_readFor hv)]
  accepted := by
    intro key value vars hk hv hs
    have ha : ∃ s', (service run .setVariable caller
        [.i32 keyPtr, .i32 keyLen, .i32 ptr, .i32 len]).run s = (.ok [], s') ∧
        s'.store.vars = vars ∧ s'.guest = s.guest ∧ s.Did [.assigned key value true] s' := by
      unfold service
      rw [Task.run_bind_ok (run_readKey hk), Task.run_bind_ok (run_readFor hv),
        Task.run_bind_ok (Task.run_get s), Task.run_bind_ok (Task.run_modify _ s), hs]
      exact ⟨_, rfl, rfl, rfl, rfl⟩
    obtain ⟨s', hr, hrest⟩ := ha
    exact ⟨s', provider_of_answered hr rfl, hrest⟩
  refused := by
    intro key value e hk hv hs
    refine provider_of_raised ?_
    unfold service
    rw [Task.run_bind_ok (run_readKey hk), Task.run_bind_ok (run_readFor hv),
      Task.run_bind_ok (Task.run_get s), Task.run_bind_ok (Task.run_modify _ s), hs]
    rfl

theorem placed_for_call (hg : g.Faithful) {run : Runner g H} (hrun : run.Ticking) {b : Bridge}
    {bytes : Bytes} (hn : bytes ≠ []) {s s' : Stage g H} {block : Block}
    (h : (Buffer.placeForCall run b bytes).run s = (.ok block, s')) :
    ∃ ds, s.Did (.asked block.len :: ds ++ [.given block]) s' ∧ block.ptr ≠ 0 ∧
      block.len.toNat = bytes.length ∧
      g.read s'.guest b.memory block.ptr.toNat bytes.length = bytes := by
  cases Buffer.places_of_placeForCall h with
  | nothing empty => exact absurd empty hn
  | placed _ u nonempty ended ptr len room =>
    have ht := hrun b.alloc [.i32 block.len] (s.note (.asked block.len))
    rw [ended] at ht
    obtain ⟨ds, hran, -⟩ := ht.ran
    rw [len] at room
    refine ⟨ds, ?_, ptr, len, hg.read_write u.guest b.memory _ bytes room⟩
    exact ((Did.note s _).trans hran.did).trans (Did.note u (.given block))

theorem run_getVariable (run : Runner g H) {s : Stage g H} (hc : s.store.call.isSome)
    (caller : Caller) (ptr len : UInt32) :
    (service run .getVariable caller [.i32 ptr, .i32 len]).run s =
      match (readKey .getVariable caller ptr len).run s with
      | (.error e, s) => (.error e, s)
      | (.ok key, s) =>
        let s' := s.note (.lookedUp key (s.store.vars.get? key))
        match s.store.vars.get? key with
        | none => (.ok [.i64 0], s')
        | some value =>
          match s.store.bridge with
          | none => (.error (.hostFunction Service.getVariable.name
              "guest does not export an allocator"), s')
          | some b =>
            match (Buffer.placeForCall run b value).run s' with
            | (.ok block, s'') => (.ok [.i64 block.pack], s'')
            | (.error e, s'') => (.error e, s'') := by
  have hn : s.store.call.isNone = false := by rw [← Option.not_isSome, hc]; rfl
  unfold service
  simp only [Task.run_bind, Task.run_get, hn, Bool.false_eq_true, if_false, Task.run_modify]
  rcases (readKey .getVariable caller ptr len).run s with ⟨e | key, s₁⟩
  · rfl
  · dsimp only
    cases s₁.store.vars.get? key with
    | none => rfl
    | some value =>
      cases s₁.store.bridge with
      | none => rfl
      | some b =>
        simp only [Task.run_bind, Task.run_pure]
        rcases (Buffer.placeForCall run b value).run (s₁.note (.lookedUp key (some value))) with
          ⟨e | block, s₂⟩ <;> rfl

/-- The value of a variable is handed over in a fresh buffer. -/
theorem Hits.run_eq {run : Runner g H} {s : Stage g H} {caller : Caller} {ptr len : UInt32}
    {key : String} {value : Bytes} (h : Hits s caller ptr len key value)
    (hc : s.store.call.isSome) {b : Bridge} (hb : s.store.bridge = some b) :
    (service run .getVariable caller [.i32 ptr, .i32 len]).run s =
      match (Buffer.placeForCall run b value).run (s.note (.lookedUp key (some value))) with
      | (.ok block, s') => (.ok [.i64 block.pack], s')
      | (.error e, s') => (.error e, s') := by
  rw [run_getVariable run hc, run_readKey h.named]
  simp only [h.held, hb]

theorem finds (hg : g.Faithful) {run : Runner g H} (hrun : run.Ticking) {limit : Nat}
    {s : Stage g H} (hs : s.store.vars.Sound limit) (hc : s.store.call.isSome) (caller : Caller)
    (ptr len : UInt32) : Finds run s caller ptr len where
  unnamed := by
    intro e hk
    refine provider_of_raised ?_
    rw [run_getVariable run hc, run_readKey hk]
  unset := by
    intro key hk hv
    refine provider_of_answered ?_ rfl
    rw [run_getVariable run hc, run_readKey hk]
    simp only [hv]
  unallocated := by
    intro key value hv hb
    refine provider_of_raised ?_
    rw [run_getVariable run hc, run_readKey hv.named]
    simp only [hv.held, hb]
  long := by
    intro key value b hv hb hl
    refine provider_of_raised ?_
    rw [hv.run_eq hc hb, Buffer.run_placeForCall_long run b hl]
  found := by
    intro key value b address u hv hb hl ended nonzero room
    have hn := hs.get?_nonempty hv.held
    have hp := Buffer.placeForCall_accepted hn hl ended nonzero room
    obtain ⟨ds, hd, -, hlen, hread⟩ := placed_for_call hg hrun hn hp
    refine ⟨_, _, ds, rfl, provider_of_answered ?_ rfl, (Did.note s _).trans hd, hlen, hread⟩
    rw [hv.run_eq hc hb, hp]
  declined := by
    intro key value b r u hv hb hl ended unfit
    obtain ⟨e, he, hp⟩ :=
      Buffer.placeForCall_declined (hs.get?_nonempty hv.held) hl ended unfit
    refine ⟨e, he, provider_of_raised ?_⟩
    rw [hv.run_eq hc hb, hp]

end ImportCall

namespace Plugin
open Stage

/-- What an operation on an open plugin does with its variables: as its answer says, and for a call
as the guest left it on record. -/
def uses (p : Plugin g H) (op : Operation) (w : World H) : List VariableUse :=
  match p.live with
  | none => []
  | some i =>
    match op, ((perform op).run (p, w)).1 with
    | .call name input, _ => Deeds.uses ((Stage.call name input).run ⟨i, w, []⟩).2.record
    | .callValues name args, _ => Deeds.uses ((Stage.callValues name args).run ⟨i, w, []⟩).2.record
    | .setVariable key value, .done r => [.assigned key value r.isOk]
    | .clearVariables, _ => [.cleared]
    | .valueOf key, .value v => [.lookedUp key v]
    | _, _ => []

def history (p : Plugin g H) : List (Operation × World H) → List VariableUse
  | [] => []
  | (op, w) :: ops => p.uses op w ++ history ((perform op).run (p, w)).2.1 ops

def Holds (limit : Nat) (p : Plugin g H) (c : Contents) : Prop :=
  ∀ i, p.live = some i → i.store.vars.Sound limit ∧ i.store.vars.Holds c

variable {limit : Nat} {p : Plugin g H} {c : Contents}

theorem calling_follows {name : String} {t : Task g H α} (ht : Calling name t)
    {i : Instance g H} (hi : p.live = some i) (h : p.Holds limit c) (w : World H) :
    ∃ c', Contents.Follows limit c (Deeds.uses (t.run ⟨i, w, []⟩).2.record) c' ∧
      ((calling name t).run (p, w)).2.1.Holds limit c' := by
  obtain ⟨hs, hc⟩ := h i hi
  have hbefore : Told limit c (⟨i, w, []⟩ : Stage g H) := ⟨hs, c, .refl c, hc⟩
  have hafter : Told limit c (t.run ⟨i, w, []⟩).2 := by
    rcases ht ⟨i, w, []⟩ with ⟨body, ha⟩ | ⟨e, he⟩
    · exact (told_lasting limit c).call ha hbefore
    · rw [he.run_eq]
      exact hbefore
  obtain ⟨c', hf, hc'⟩ := hafter.follows
  refine ⟨c', hf, fun j hj => ?_⟩
  obtain ⟨rfl, -⟩ := live_of_calling hi hj
  exact ⟨hafter.sound, hc'⟩

/-- One operation follows the map, and leaves the variables that the map has come to. -/
theorem perform_follows (h : p.Holds limit c) (op : Operation) (w : World H) :
    ∃ c', Contents.Follows limit c (p.uses op w) c' ∧
      ((perform op).run (p, w)).2.1.Holds limit c' := by
  cases hl : p.live with
  -- A closed plugin answers without variables, and none of these answers counts as a use.
  | none =>
    have hu : p.uses op w = [] := by
      unfold uses
      rw [hl]
    rw [hu, perform_closed op hl]
    exact ⟨c, .refl c, h⟩
  | some i =>
    obtain ⟨hs, hc⟩ := h i hl
    unfold uses
    rw [hl]
    cases op with
    | call name input => exact calling_follows (call_calling name input) hl h w
    | callValues name args => exact calling_follows (callValues_calling name args) hl h w
    | setVariable key value =>
      change ∃ c', Contents.Follows limit c
        [.assigned key value (p.setVariable key value).1.isOk] c' ∧
          (p.setVariable key value).2.Holds limit c'
      unfold setVariable
      rw [hl]
      dsimp only
      cases hv : i.store.vars.set key value with
      | error e => exact ⟨c, .single (hs.of_set_error hv hc), h⟩
      | ok vars =>
        obtain ⟨hs', hstep⟩ := hs.of_set hv
        obtain ⟨hk, hc'⟩ := hstep c hc
        refine ⟨_, .single hk, fun j hj => ?_⟩
        obtain rfl := Option.some.inj hj
        exact ⟨hs', hc'⟩
    | clearVariables =>
      refine ⟨.empty, .single (.cleared c), fun j hj => ?_⟩
      change p.live.map _ = some j at hj
      rw [hl] at hj
      obtain rfl := Option.some.inj hj
      exact ⟨hs.clear, fun _ => rfl⟩
    | valueOf key =>
      have hv : p.valueOf? key = c.lookup key := by
        rw [valueOf?, hl]
        exact hc key
      change ∃ c', Contents.Follows limit c [.lookedUp key (p.valueOf? key)] c' ∧ p.Holds limit c'
      rw [hv]
      exact ⟨c, .single (.lookedUp c key), h⟩
    | memoryPages => exact ⟨c, .refl c, h⟩
    | close =>
      refine ⟨c, .refl c, fun j hj => ?_⟩
      obtain ⟨m, settings, live⟩ := p
      obtain rfl := hl
      cases hj

/-- Operations in order follow the map. -/
theorem history_follows (h : p.Holds limit c) (ops : List (Operation × World H)) :
    ∃ c', Contents.Follows limit c (p.history ops) c' ∧ (p.after ops).Holds limit c' := by
  induction ops generalizing p c with
  | nil => exact ⟨c, .refl c, h⟩
  | cons x ops ih =>
    obtain ⟨c₁, h₁, hp⟩ := perform_follows h x.1 x.2
    obtain ⟨c₂, h₂, hp'⟩ := ih hp
    exact ⟨c₂, h₁.trans h₂, hp'⟩

end Plugin

namespace Opening
open Stage

def Started (registry : Registry H) (m : g.Module) (settings : Settings) (i : Instance g H)
    (s : Stage g H) : Prop :=
  ∃ providers w w', (bind registry settings (g.info m)).run w = (.ok providers, w') ∧
    s = (execute g.stepLimit (g.start m).2 (starting m providers settings w')).2 ∧
    i.module = s.module ∧ i.providers = s.providers ∧ i.guest = s.guest ∧
    i.store = { s.store with deadline := none, bridge := i.store.bridge }

/-- A start computation sets variables as the empty map says. -/
theorem Started.told {registry : Registry H} {m : g.Module} {settings : Settings}
    {i : Instance g H} {s : Stage g H} (h : Started registry m settings i s) :
    Told settings.maxVarBytes .empty s := by
  obtain ⟨providers, w, w', -, rfl, -⟩ := h
  have hl : Lasting (Told settings.maxVarBytes .empty) _ :=
    told_lasting (g := g) (H := H) settings.maxVarBytes .empty
  refine (execute_keeps hl.sustained g.stepLimit _ ?_).2
  exact ⟨Variables.sound_empty _, .empty, .refl .empty, Variables.holds_empty _⟩

theorem started {registry : Registry H} {m : g.Module} {settings : Settings} {w w' : World H}
    {i : Instance g H} (made : (instantiate registry m settings).run w = (.ok i, w')) :
    ∃ s, Started registry m settings i s := by
  obtain ⟨providers, i₀, bridge, w₁, w₂, w₃, -, hp, hb, -, rfl⟩ := of_instantiate made
  obtain ⟨results, s, he, rfl, -⟩ := of_begin hb
  refine ⟨s, providers, w₁, w₂, hp, ?_, rfl, rfl, rfl, rfl⟩
  rw [he]

end Opening

namespace Plugin
open Stage

/-- The variables of a plugin, from its start computation on and through any operations, are one
finite map under the limit that its settings give.

All that host and guest do with them is answered as the map says and changes it as it should, so
each lookup finds what was set last; calls that fail count as others do. At every moment the count
of octets is what the entries take, within the limit, and never less than what one of them takes.
The guest is answered through its memory. -/
theorem variables_follow_map (hg : g.Faithful) {registry : Registry H} {m : g.Module}
    {settings : Settings} {w w' : World H} {i : Instance g H} {p : Plugin g H}
    {ops : List (Operation × World H)}
    (made : (Opening.instantiate registry m settings).run w = (.ok i, w'))
    (used : after ⟨m, settings, some i⟩ ops = p) :
    (∃ s c, Opening.Started registry m settings i s ∧
      Contents.Follows settings.maxVarBytes .empty
        (Deeds.uses s.record ++ history ⟨m, settings, some i⟩ ops) c ∧
      (∀ before key value behind,
        Deeds.uses s.record ++ history ⟨m, settings, some i⟩ ops =
          before ++ .lookedUp key value :: behind → value = VariableUse.latest key before) ∧
      ∀ j, p.live = some j → j.store.vars.Holds c) ∧
    (∀ (a : Activity g H) s, Moment m settings a s →
      s.store.vars.Sound settings.maxVarBytes ∧
        ∀ key, s.store.vars.sizeOf key ≤ s.store.vars.bytes) ∧
    ∀ (s : Stage g H) (n depth : Nat) (caller : Caller),
      s.store.vars.Sound settings.maxVarBytes →
        (∀ keyPtr keyLen ptr len,
          ImportCall.Sets (runner s.module n depth) s caller keyPtr keyLen ptr len) ∧
        (s.store.call.isSome → ∀ ptr len,
          ImportCall.Finds (runner s.module n depth) s caller ptr len) := by
  refine ⟨?_, fun a s hm => ?_, fun s n depth caller hs => ⟨fun _ _ _ _ => ?_, fun hc _ _ => ?_⟩⟩
  · obtain ⟨s, hstart⟩ := Opening.started made
    have htold := hstart.told
    obtain ⟨c₁, h₁, hc₁⟩ := htold.follows
    have hv : i.store.vars = s.store.vars := by
      obtain ⟨_, _, _, -, -, -, -, -, hstore⟩ := hstart
      rw [hstore]
    have hp : Holds settings.maxVarBytes ⟨m, settings, some i⟩ c₁ := by
      intro j hj
      obtain rfl := Option.some.inj hj
      rw [hv]
      exact ⟨htold.sound, hc₁⟩
    obtain ⟨c, h₂, hc⟩ := history_follows hp ops
    rw [used] at hc
    refine ⟨s, c, hstart, h₁.trans h₂, fun before key value behind he => ?_,
      fun j hj => (hc j hj).2⟩
    exact Contents.Follows.found (he ▸ h₁.trans h₂)
  · have hs := hm.keeps (sound_enduring settings.maxVarBytes) fun _ _ =>
      Variables.sound_empty settings.maxVarBytes
    exact ⟨hs, hs.sizeOf_le⟩
  · exact ImportCall.sets ..
  · exact ImportCall.finds hg (fun _ _ _ => execute_ticks _ _ _) hs hc caller _ _

end Plugin

namespace Wasm

/-- A module whose export `keep` sets the variable `k` to two octets of memory, and returns what
looking it up gives. -/
def keeper : Program where
  imports := [
    ⟨Name.serviceNamespace, "var_set", .function Service.setVariable.signature⟩,
    ⟨Name.serviceNamespace, "var_get", .function .bytes⟩]
  exports := [
    ⟨Name.memory, .memory 0 ⟨1, none⟩⟩, ⟨Name.alloc, .function 2 Opening.allocType⟩,
    ⟨Name.dealloc, .function 3 Opening.deallocType⟩, ⟨"keep", .function 4 .bytes⟩]
  imported := #[⟨[.i32, .i32, .i32, .i32], []⟩, ⟨[.i32, .i32], [.i64]⟩]
  functions := #[
    ⟨⟨[.i32], [.i32]⟩, [], [.const (.i32 1024), .end_]⟩,
    ⟨⟨[.i32, .i32], []⟩, [], [.end_]⟩,
    ⟨⟨[.i32, .i32], [.i64]⟩, [],
      [.const (.i32 0), .const (.i32 1), .const (.i32 1), .const (.i32 2), .call 0,
        .const (.i32 0), .const (.i32 1), .call 1, .end_]⟩]
  types := #[]
  memories := [⟨⟨1, none⟩, false, false, none⟩]
  tables := []
  globals := []
  elems := #[]
  data := #[⟨.active 0 [.const (.i32 0)], [0x6b, 7, 8]⟩]
  start := none

end Wasm

namespace Plugin
open Stage

open Wasm in
/-- Four octets of room take the entry that the guest makes, and not a second. The guest has its
value back from the host, and so has the host. -/
theorem keeper_variables_follow_map :
    let settings : Settings := { maxVarBytes := 4 }
    let world : World Unit := ⟨.start none "" default, ()⟩
    ∃ (i : Instance engine Unit) (w : World Unit),
      (Opening.instantiate Registry.empty keeper settings).run world = (.ok i, w) ∧
      ((call "keep" []).run (⟨keeper, settings, some i⟩, w)).1 = .ok [7, 8] ∧
      ∃ s c, Opening.Started Registry.empty keeper settings i s ∧
        Contents.Follows 4 .empty
          (Deeds.uses s.record ++ [.assigned "k" [7, 8] true, .lookedUp "k" (some [7, 8]),
            .assigned "l" [1] false, .lookedUp "k" (some [7, 8]), .cleared, .lookedUp "k" none])
          c := by
  intro settings world
  let opened := (Opening.instantiate Registry.empty keeper settings :
    HostTask Unit (Instance engine Unit)).run world
  let ops (w : World Unit) : List (Operation × World Unit) :=
    [(.call "keep" [], w), (.setVariable "l" [1], w), (.valueOf "k", w), (.clearVariables, w),
      (.valueOf "k", w)]
  have hc : (opened.1.toOption.any fun i =>
      let p : Plugin engine Unit := ⟨keeper, settings, some i⟩
      decide (((call "keep" []).run (p, opened.2)).1.toOption = some [7, 8] ∧
        history p (ops opened.2) = [.assigned "k" [7, 8] true, .lookedUp "k" (some [7, 8]),
          .assigned "l" [1] false, .lookedUp "k" (some [7, 8]), .cleared,
          .lookedUp "k" none])) = true := by
    decide +kernel
  rcases ho : opened with ⟨e | i, w⟩ <;> rw [ho] at hc
  · cases hc
  obtain ⟨hr, hh⟩ := of_decide_eq_true hc
  obtain ⟨⟨s, c, hs, hf, -⟩, -⟩ :=
    variables_follow_map engine_faithful ho (rfl : after _ (ops w) = _)
  rw [hh] at hf
  refine ⟨i, w, ho, ?_, s, c, hs, hf⟩
  rcases hrun : ((call "keep" []).run (⟨keeper, settings, some i⟩, w)).1 with e | v <;>
    rw [hrun] at hr
  · cases hr
  · exact hrun.trans (congrArg Except.ok (Option.some.inj hr))

end Plugin

end PluginHost
