import Mathlib.Data.List.Nodup
import Mathlib.Data.List.Perm.Subperm
import PluginHost.Proofs.Opened
/-!
Which requests an open plugin refuses can be told from the overview of its module. The overview was
made when the module was loaded and the instance finds its exports by name; the two agree because
no module that the engine loads gives two exports one name.
-/
namespace PluginHost
variable {g : Guest} {H α : Type}

namespace ModuleInfo

def bytesNames (i : ModuleInfo) : List String := i.bytesExports.map FunctionExport.name

/-- The functions among exports whose names differ, found by name. -/
theorem find?_functionExport (name : String) (es : List Export)
    (distinct : (es.map Export.name).Nodup) :
    (es.filterMap functionExport?).find? (fun f => f.name = name) =
      (es.find? fun e => e.name = name).bind functionExport? := by
  -- A thing of another kind hides no function of its name, as there is none.
  induction es with
  | nil => rfl
  | cons e es ih =>
    obtain ⟨hn, hd⟩ := List.nodup_cons.mp distinct
    by_cases he : e.name = name
    · have hr : es.find? (fun e => e.name = name) = none := by
        refine List.find?_eq_none.mpr fun e' he' => ?_
        have hne : e'.name ≠ name := fun h => hn (List.mem_map.mpr ⟨e', he', h.trans he.symm⟩)
        simpa using hne
      cases hk : e.kind <;> simp [functionExport?, hk, he, ih hd, hr]
    · cases hk : e.kind <;> simp [functionExport?, hk, he, ih hd]

end ModuleInfo

namespace Guest

def Distinct (g : Guest) (m : g.Module) : Prop := ((g.exports m).map Export.name).Nodup

variable {m : g.Module}

/-- The overview shows an export under a name exactly if the instance finds a function there. -/
theorem Distinct.export?_info (h : g.Distinct m) (name : String) :
    (g.info m).export? name = (g.function? m name).map fun f => ⟨name, f.2⟩ := by
  have hf := ModuleInfo.find?_functionExport name (g.exports m) h
  unfold ModuleInfo.export? info ModuleInfo.ofInterface function? export?
  dsimp only
  rw [hf]
  cases he : (g.exports m).find? fun e => e.name = name with
  | none => rfl
  | some e =>
    have hn : e.name = name := by simpa using List.find?_some he
    cases hk : e.kind <;> simp [ModuleInfo.functionExport?, hk, hn]

theorem Distinct.find?_of_mem (h : g.Distinct m) {e : Export} (he : e ∈ g.exports m) :
    (g.exports m).find? (fun e' => e'.name = e.name) = some e := by
  obtain ⟨before, after, hs⟩ := List.append_of_mem he
  refine List.find?_eq_some_iff_append.mpr ⟨by simp, before, after, hs, fun e' he' => ?_⟩
  unfold Distinct at h
  rw [hs, List.map_append, List.map_cons] at h
  have hne : e'.name ≠ e.name := fun hn =>
    List.disjoint_of_nodup_append h (List.mem_map_of_mem he') (hn ▸ List.mem_cons_self)
  simpa using hne

theorem Distinct.function?_eq_some_iff (h : g.Distinct m) (name : String) (function : Nat)
    (signature : Signature) :
    g.function? m name = some (function, signature) ↔
      ⟨name, .function function signature⟩ ∈ g.exports m := by
  constructor
  · intro hf
    unfold function? export? at hf
    cases he : (g.exports m).find? fun e => e.name = name with
    | none => simp [he] at hf
    | some e =>
      have hn : e.name = name := by simpa using List.find?_some he
      have hm := List.mem_of_find?_eq_some he
      obtain ⟨n, kind⟩ := e
      cases kind <;> simp_all
  · intro he
    have hf := h.find?_of_mem he
    simp [function?, export?, hf]

/-- The overview lists a name for octets exactly if the instance finds a function on octets. -/
theorem Distinct.mem_bytesNames_iff (h : g.Distinct m) (name : String) :
    name ∈ (g.info m).bytesNames ↔ ∃ function, g.function? m name = some (function, .bytes) := by
  simp only [h.function?_eq_some_iff, ModuleInfo.bytesNames, ModuleInfo.bytesExports, info,
    ModuleInfo.ofInterface, List.mem_map, List.mem_filter, List.mem_filterMap]
  constructor
  · rintro ⟨f, ⟨⟨⟨n, kind⟩, he, hf⟩, hb⟩, rfl⟩
    cases kind with
    | function function signature =>
      obtain rfl := Option.some.inj hf
      have hs : signature = .bytes := by simpa [Signature.isBytes] using hb
      exact ⟨function, hs ▸ he⟩
    | memory | other => cases hf
  · rintro ⟨function, he⟩
    exact ⟨⟨name, .bytes⟩, ⟨⟨_, he, rfl⟩, by simp [Signature.isBytes]⟩, rfl⟩

end Guest

namespace Wasm

namespace Typing

theorem distinct_iff (names : List String) : distinct names = true ↔ names.Nodup := by
  have hp : (Std.HashSet.ofList names).toList.Nodup :=
    Std.HashSet.distinct_toList.imp fun h => by simpa using h
  have hs : (Std.HashSet.ofList names).toList ⊆ names := by
    intro name
    simp
  simp only [distinct, decide_eq_true_eq]
  constructor
  · intro h
    have hl : names.length ≤ (Std.HashSet.ofList names).toList.length :=
      Nat.le_of_eq (h.symm.trans Std.HashSet.length_toList.symm)
    exact ((hp.subperm hs).perm_of_length_le hl).nodup_iff.mp hp
  · intro h
    exact Std.HashSet.size_ofList (h.imp fun hn => by simpa using hn)

theorem of_bind_ok {ε α β : Type} {x : Except ε α} {f : α → Except ε β} {b : β}
    (h : x >>= f = .ok b) : ∃ a, x = .ok a ∧ f a = .ok b := by
  cases x with
  | error e => cases h
  | ok a => exact ⟨a, rfl, h⟩

theorem of_rule {holds : Bool} {text : String} (h : rule holds text = .ok ()) : holds = true := by
  cases holds with
  | true => rfl
  | false => cases h

def exportType (s : Scope) (e : ModuleExport) : Except Fault (String × ExternType) :=
  match externAt? s e.sort e.index with
  | some t => .ok (e.name, t)
  | none => .error (.invalid "unknown export")

theorem moduleType_exports {features : Features} {known : Types} {m : Module}
    {t : ModuleType × Types} (h : moduleType features known m = .ok t) :
    ∃ types exports, m.exports.mapM (exportType (scope features types m)) = .ok exports ∧
      (m.exports.map ModuleExport.name).Nodup := by
  unfold moduleType at h
  obtain ⟨types, -, h⟩ := of_bind_ok h
  obtain ⟨-, -, h⟩ := of_bind_ok h
  obtain ⟨-, -, h⟩ := of_bind_ok h
  obtain ⟨-, -, h⟩ := of_bind_ok h
  obtain ⟨-, -, h⟩ := of_bind_ok h
  -- Tags need a proposal; with or without them the rule on names comes after four more steps.
  dsimp only at h
  by_cases ht : m.tagged = true
  on_goal 1 =>
    rw [if_pos ht] at h
    obtain ⟨-, -, h⟩ := of_bind_ok h
  on_goal 2 => rw [if_neg ht] at h
  all_goals
    obtain ⟨-, -, h⟩ := of_bind_ok h
    obtain ⟨-, -, h⟩ := of_bind_ok h
    obtain ⟨-, -, h⟩ := of_bind_ok h
    obtain ⟨exports, he, h⟩ := of_bind_ok h
    obtain ⟨⟨⟩, hr, -⟩ := of_bind_ok h
    exact ⟨types, exports, he, (distinct_iff _).mp (of_rule hr)⟩

theorem moduleType_of_checkModule {features : Features} {m : Module}
    (h : checkModule features m = .ok ()) : ∃ t, moduleType features {} m = .ok t := by
  unfold checkModule at h
  cases ht : moduleType features {} m with
  | error e =>
    rw [ht] at h
    cases h
  | ok t => exact ⟨t, rfl⟩

end Typing

structure Loads (bytes : Bytes) (m : Module) (p : Program) : Prop where
  written : Reader.whole Binary.contents bytes = .ok (.module m)
  valid : Typing.checkModule Features.all m = .ok ()
  plain : Typing.checkModule Features.engine m = .ok ()
  running : p = Program.ofModule m

theorem load_eq_ok_iff (bytes : Bytes) (p : Program) :
    engine.load bytes = .ok p ↔ ∃ m, Loads bytes m p := by
  change load bytes = .ok p ↔ _
  constructor
  · intro h
    unfold load at h
    split at h
    · cases h
    · rename_i m hm
      unfold loadModule at h
      split at h
      · cases h
      · rename_i ha
        split at h
        · cases h
        · rename_i he
          exact ⟨m, hm, ha, he, (Except.ok.inj h).symm⟩
    · split at h <;> cases h
  · rintro ⟨m, hm, ha, he, rfl⟩
    unfold load loadModule
    rw [hm]
    dsimp only
    rw [ha, he]

theorem engine_distinct {bytes : Bytes} {p : Program} (h : engine.load bytes = .ok p) :
    engine.Distinct p := by
  obtain ⟨m, h⟩ := (load_eq_ok_iff bytes p).mp h
  obtain ⟨t, ht⟩ := Typing.moduleType_of_checkModule h.valid
  obtain ⟨-, -, -, hd⟩ := Typing.moduleType_exports ht
  obtain rfl := h.running
  change (List.map Export.name (List.map _ m.exports)).Nodup
  simpa [List.map_map, Function.comp_def] using hd

end Wasm

namespace Stage
variable {s : Stage g H} {name : String} {t body : Task g H α} {e : Failure}

theorem Accepts.idle (h : s.Accepts name t body) : s.store.phase = .idle := by
  cases h with
  | octets _ _ _ idle | values _ _ _ idle => exact idle

theorem Refuses.not_accepts (h : s.Refuses name t e) : ¬ s.Accepts name t body := by
  intro ha
  -- Neither looks at the call in progress, which a refusal leaves and an accepted call ends.
  let s' : Stage g H := s.updateStore fun u => { u with call := some ⟨name, []⟩ }
  have hr : s'.Refuses name t e := by
    cases h with
    | unknown input missing => exact .unknown input missing
    | notBytes function signature input found other =>
      exact .notBytes function signature input found other
    | noAllocator function input found bridge => exact .noAllocator function input found bridge
    | busy function b input found bridge busy => exact .busy function b input found bridge busy
    | unknownValues args missing => exact .unknownValues args missing
    | argumentTypes function signature args found other =>
      exact .argumentTypes function signature args found other
    | busyValues function signature args found typed busy =>
      exact .busyValues function signature args found typed busy
  have ha' : s'.Accepts name t body := by
    cases ha with
    | octets function b input idle found bridge => exact .octets function b input idle found bridge
    | values function signature args idle found typed =>
      exact .values function signature args idle found typed
  rcases hb : body.run (s'.begun name) with ⟨r, s₁⟩
  obtain ⟨-, -, -, c, s₂, -, -, hq⟩ := ha'.released hb
  have hc : (t.run s').2.store.call = none := by
    rw [hq]
    exact ended_call ..
  rw [hr.run_eq] at hc
  cases hc

end Stage

namespace Plugin

/-- A request is taken: a call of it begins on the instance, and what the task does is the body of
that call. -/
def Takes (p : Plugin g H) (w : World H) (name : String) (t : Task g H α) : Prop :=
  ∃ i body, p.live = some i ∧ (⟨i, w, []⟩ : Stage g H).Accepts name t body ∧
    (Stage.begin name : Task g H Unit).run ⟨i, w, []⟩ =
      (.ok (), (⟨i, w, []⟩ : Stage g H).begun name) ∧
    t.run ⟨i, w, []⟩ =
      (Stage.during i.store.bridge name body).run ((⟨i, w, []⟩ : Stage g H).begun name)

/-- A request is refused before any guest code runs: it is not taken, and its answer is all that
comes of it, as neither the plugin nor what plugins share is touched. -/
structure Refuses (p : Plugin g H) (w : World H) (name : String) (t : Task g H α) (e : Failure) :
    Prop where
  answer : (calling name t).run (p, w) = (.error e, (p, w))
  before : ¬ p.Takes w name t

variable {p : Plugin g H} {i : Instance g H} {name : String} {t body : Task g H α} {e : Failure}

theorem Takes.of_stage (hi : p.live = some i) {w : World H}
    (h : (⟨i, w, []⟩ : Stage g H).Accepts name t body) : p.Takes w name t :=
  ⟨i, body, hi, h, Stage.run_begin name h.idle, h.run_eq⟩

theorem Refuses.of_stage (hi : p.live = some i) (hs : i.store.poisoned = false) {w : World H}
    (h : (⟨i, w, []⟩ : Stage g H).Refuses name t e) (hk : e.isFatal = false) :
    p.Refuses w name t e where
  answer := by
    have hc : closes (.error e : Except Failure α) (⟨i, w, []⟩ : Stage g H) = false := by
      simp [closes, hs, hk]
    have hw : shared name (.error e : Except Failure α) (⟨i, w, []⟩ : Stage g H) = w := by
      simp [shared, hs, hk]
    rw [run_calling_open name t hi w h.run_eq, hc, hw]
    simp [← hi]
  before := by
    rintro ⟨j, body, hj, ha, -⟩
    obtain rfl : i = j := Option.some.inj (hi.symm.trans hj)
    exact h.not_accepts ha

/-- What decides over a request to a plugin: whether the overview shows an export of its name, and
whether what it asks is unfit for that export. -/
structure Decided (p : Plugin g H) (w : World H) (name : String) (t : Task g H α)
    (unfit : Prop) : Prop where
  unknown : p.Refuses w name t (.unknownExport name) ↔ p.functionExists name = false
  argument : (∃ reason, p.Refuses w name t (.argument reason)) ↔
    p.functionExists name = true ∧ unfit
  taken : p.Takes w name t ↔ p.functionExists name = true ∧ ¬ unfit
  only : ∀ e, p.Refuses w name t e → e = .unknownExport name ∨ ∃ reason, e = .argument reason

/-- One of three things happens to a request, each for its own reason. -/
theorem Decided.of_cases {w : World H} {unfit : Prop}
    (missing : p.functionExists name = false → p.Refuses w name t (.unknownExport name))
    (misfit : p.functionExists name = true → unfit →
      ∃ reason, p.Refuses w name t (.argument reason))
    (fit : p.functionExists name = true → ¬ unfit → p.Takes w name t) :
    p.Decided w name t unfit := by
  have hu {e e' : Failure} (h : p.Refuses w name t e) (h' : p.Refuses w name t e') : e = e' :=
    Except.error.inj (Prod.mk.inj (h.answer.symm.trans h'.answer)).1
  by_cases hx : p.functionExists name = true
  · by_cases hn : unfit
    · obtain ⟨reason, hr⟩ := misfit hx hn
      exact {
        unknown := ⟨fun h => (nomatch hu h hr), fun h => by simp [hx] at h⟩
        argument := ⟨fun _ => ⟨hx, hn⟩, fun _ => ⟨reason, hr⟩⟩
        taken := ⟨fun h => absurd h hr.before, fun h => absurd hn h.2⟩
        only := fun e h => .inr ⟨reason, hu h hr⟩ }
    · have ht := fit hx hn
      exact {
        unknown := ⟨fun h => absurd ht h.before, fun h => by simp [hx] at h⟩
        argument := ⟨fun ⟨_, h⟩ => absurd ht h.before, fun h => absurd h.2 hn⟩
        taken := ⟨fun _ => ⟨hx, hn⟩, fun _ => ht⟩
        only := fun e h => absurd ht h.before }
  · have hr := missing (by simpa using hx)
    exact {
      unknown := ⟨fun _ => by simpa using hx, fun _ => hr⟩
      argument := ⟨fun ⟨_, h⟩ => (nomatch hu h hr), fun h => absurd h.1 hx⟩
      taken := ⟨fun h => absurd h hr.before, fun h => absurd h.1 hx⟩
      only := fun e h => .inl (hu h hr) }

variable (hd : g.Distinct p.module) (hi : p.live = some i) (hs : i.Ready p.module p.settings)

include hd in
theorem functionExists_eq (name : String) :
    p.functionExists name = (g.function? p.module name).isSome := by
  simp [functionExists, info, hd.export?_info]

include hd hi hs

/-- A request with octets is decided by whether the overview lists its name for octets, and by
whether the module has an allocator. -/
theorem call_decided (input : Bytes) (w : World H) :
    p.Decided w name (Stage.call name input)
      (name ∉ p.info.bytesNames ∨ i.store.bridge = none) := by
  have hx := functionExists_eq hd name
  have hl := hd.mem_bytesNames_iff name
  change name ∈ p.info.bytesNames ↔ _ at hl
  have hm : (⟨i, w, []⟩ : Stage g H).module = p.module := hs.module
  cases hf : g.function? p.module name with
  | none =>
    exact .of_cases (fun _ => .of_stage hi hs.sound (.unknown input (hm ▸ hf)) rfl)
      (fun h => by simp [hx, hf] at h) (fun h => by simp [hx, hf] at h)
  | some f =>
    obtain ⟨function, signature⟩ := f
    refine .of_cases (fun h => by simp [hx, hf] at h) (fun _ hn => ?_) (fun _ hn => ?_)
    · by_cases hb : signature = .bytes
      · subst hb
        have hn : i.store.bridge = none := hn.resolve_left (· (hl.mpr ⟨function, hf⟩))
        exact ⟨_, .of_stage hi hs.sound (.noAllocator function input (hm ▸ hf) hn) rfl⟩
      · exact ⟨_, .of_stage hi hs.sound (.notBytes function signature input (hm ▸ hf) hb) rfl⟩
    · obtain ⟨hn, hb⟩ := not_or.mp hn
      obtain ⟨function, hf⟩ := hl.mp (not_not.mp hn)
      obtain ⟨b, hb⟩ := Option.ne_none_iff_exists'.mp hb
      exact .of_stage hi (.octets function b input hs.idle (hm ▸ hf) hb)

/-- A request with values is decided by the types that the overview shows for its export. -/
theorem callValues_decided (args : List Value) (w : World H) :
    p.Decided w name (Stage.callValues name args)
      (∃ f, p.info.export? name = some f ∧ args.map Value.kind ≠ f.signature.params) := by
  have hx := functionExists_eq hd name
  have he := hd.export?_info name
  change p.info.export? name = _ at he
  have hm : (⟨i, w, []⟩ : Stage g H).module = p.module := hs.module
  cases hf : g.function? p.module name with
  | none =>
    exact .of_cases (fun _ => .of_stage hi hs.sound (.unknownValues args (hm ▸ hf)) rfl)
      (fun h => by simp [hx, hf] at h) (fun h => by simp [hx, hf] at h)
  | some f =>
    obtain ⟨function, signature⟩ := f
    rw [hf, Option.map_some] at he
    refine .of_cases (fun h => by simp [hx, hf] at h) (fun _ hn => ?_) (fun _ hn => ?_)
    · obtain ⟨f, hf', hk⟩ := hn
      obtain rfl := Option.some.inj (he.symm.trans hf')
      exact ⟨_, .of_stage hi hs.sound (.argumentTypes function signature args (hm ▸ hf) hk) rfl⟩
    · have hk : args.map Value.kind = signature.params := by
        by_contra hk
        exact hn ⟨_, he, hk⟩
      exact .of_stage hi (.values function signature args hs.idle (hm ▸ hf) hk)

end Plugin

namespace Wasm

/-- An open plugin refuses a request before any guest code runs exactly as the overview of its
module foretells. That an export is unknown it answers where the overview shows none of that name;
that an export does not take octets, where the overview does not list it for octets or the module
has no allocator; that values do not fit, where their types are not those in the overview. Such an
answer leaves the plugin and all that plugins share as they were; every other request is taken. -/
theorem refused_as_introspected {bytes : Bytes} {p : Plugin engine H}
    (loaded : engine.load bytes = .ok p.module) (opened : p.Opened) {i : Instance engine H}
    (live : p.live = some i) (name : String) (w : World H) :
    (∀ input, p.Decided w name (Stage.call name input)
      (name ∉ p.info.bytesNames ∨ i.store.bridge = none)) ∧
    ∀ args, p.Decided w name (Stage.callValues name args)
      (∃ f, p.info.export? name = some f ∧ args.map Value.kind ≠ f.signature.params) := by
  have hd := engine_distinct loaded
  have hs := opened.ready i live
  exact ⟨fun input => Plugin.call_decided hd live hs input w,
    fun args => Plugin.callValues_decided hd live hs args w⟩

namespace Sole
open Typing

/-- A module with one export, `zero`, which takes octets and answers with none. It has no memory. -/
def bytes : Bytes :=
  [0, 97, 115, 109, 1, 0, 0, 0, 1, 7, 1, 96, 2, 127, 127, 1, 126, 3, 2, 1, 0,
    7, 8, 1, 4, 122, 101, 114, 111, 0, 0, 10, 6, 1, 4, 0, 66, 0, 11]

def type : SubType := ⟨true, none, ⟨false, .function ⟨[.i32, .i32], [.i64]⟩⟩⟩

def module : Module where
  types := #[type]
  groups := [⟨1, false⟩]
  functions := #[0]
  exports := [⟨"zero", .function, 0⟩]
  bodies := #[⟨[], [.const (.i64 0), .end_]⟩]

def program : Program where
  imports := []
  exports := [⟨"zero", .function 0 .bytes⟩]
  imported := #[]
  functions := #[⟨⟨[.i32, .i32], [.i64]⟩, [], [.const (.i64 0), .end_]⟩]
  types := #[type]
  memories := []
  tables := []
  globals := []
  elems := #[]
  data := #[]
  start := none

theorem ofModule_eq : Program.ofModule module = program := by
  have hs : (⟨[.i32, .i32], [.i64]⟩ : FuncType).signature = .bytes := rfl
  simp [Program.ofModule, module, program, Module.importedFunctions, Module.funcType?, type,
    Program.exportKind, Module.allFunctions, Program.localValues, hs]

theorem addGroup_eq :
    Types.addGroup {} [type] = ⟨#[type], (∅ : Std.HashMap _ _).insert [type] 0, #[0]⟩ := by
  have ht (f : Nat → Nat) : type.mapIndices f = type := rfl
  simp [Types.addGroup, ht]
  rfl

theorem addTypes_eq (features : Features) :
    addTypes features {} module.types module.groups =
      .ok ⟨#[type], (∅ : Std.HashMap _ _).insert [type] 0, #[0]⟩ := by
  have hg : Types.addGroups {} module.types module.groups = .ok (Types.addGroup {} [type]) := rfl
  unfold addTypes
  rw [hg, addGroup_eq]
  rfl

theorem checkModule_eq (features : Features) (h : features = .all ∨ features = .engine) :
    checkModule features module = .ok () := by
  have hd : distinct (module.exports.map ModuleExport.name) = true :=
    (distinct_iff _).mpr (by simp [module])
  have ht := addTypes_eq features
  unfold checkModule moduleType
  rw [show Types.restart {} = {} from rfl, ht, hd]
  rcases h with rfl | rfl <;> rfl

theorem loads : engine.load bytes = .ok program :=
  (load_eq_ok_iff ..).mpr
    ⟨module, rfl, checkModule_eq _ (.inl rfl), checkModule_eq _ (.inr rfl), ofModule_eq.symm⟩

theorem opens : ∃ (i : Instance engine Unit) (w : World Unit),
    (Opening.instantiate Registry.empty program {} : HostTask Unit (Instance engine Unit)).run
      echoing.world = (.ok i, w) := Opening.of_isOk (by decide +kernel)

end Sole

/-- Of the only export of `Sole`, values are taken and octets are not; another name is unknown. -/
theorem sole_refused_as_introspected :
    ∃ (i : Instance engine Unit) (w : World Unit),
      let p : Plugin engine Unit := ⟨Sole.program, {}, some i⟩
      engine.load Sole.bytes = .ok p.module ∧ p.Opened ∧
        p.Refuses w "one" (Stage.call "one" [1]) (.unknownExport "one") ∧
        (∃ reason, p.Refuses w "zero" (Stage.call "zero" [1]) (.argument reason)) ∧
        (∃ reason, p.Refuses w "zero" (Stage.callValues "zero" []) (.argument reason)) ∧
        p.Takes w "zero" (Stage.callValues "zero" [.i32 0, .i32 0]) := by
  obtain ⟨i, w, ho⟩ := Sole.opens
  have hp : (⟨Sole.program, {}, some i⟩ : Plugin engine Unit).Opened := .opened _ _ _ _ _ _ ho
  have hb : i.store.bridge = none := (Except.ok.inj (hp.ready i rfl).bridge).symm
  have hone := refused_as_introspected Sole.loads hp rfl "one" w
  have hzero := refused_as_introspected Sole.loads hp rfl "zero" w
  refine ⟨i, w, Sole.loads, hp, (hone.1 [1]).unknown.mpr rfl,
    (hzero.1 [1]).argument.mpr ⟨rfl, .inr hb⟩,
    (hzero.2 []).argument.mpr ⟨rfl, ⟨"zero", .bytes⟩, rfl, by decide⟩,
    (hzero.2 _).taken.mpr ⟨rfl, ?_⟩⟩
  rintro ⟨f, hf, hk⟩
  obtain rfl : (⟨"zero", .bytes⟩ : FunctionExport) = f := Option.some.inj hf
  exact hk rfl

end Wasm

end PluginHost
