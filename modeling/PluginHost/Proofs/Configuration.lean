import PluginHost.Settings
import PluginHost.Proofs.Json.Layout
/-!
Settings as they are written in JSON: what an object says decides the settings, no matter in which
order and layout it says it, and whatever else is in it.
-/
namespace PluginHost
open Json Json.Reader

variable {key : String} {t t' : Tree} {entries : List (Option String × Tree)}

/-! ### Options of the system interface -/

namespace SystemOptions
variable {o o' : SystemOptions}

/-- What the members of an object say: each field is what its key gives, and without it the
default. -/
structure Says (entries : List (Option String × Tree)) (o : SystemOptions) : Prop where
  texts : ∀ e ∈ entries, e.1 ≠ none
  programName : Gives (Tree.string? · = some ·) "programName" entries "plugin" o.programName
  args : Gives (Tree.list? Tree.string? · = some ·) "args" entries [] o.args
  env : Gives (Tree.list? (Tree.pair? Tree.string? Tree.string?) · = some ·) "env" entries [] o.env
  inheritStdin : Gives (Tree.flag? · = some ·) "inheritStdin" entries false o.inheritStdin
  inheritStdout : Gives (Tree.flag? · = some ·) "inheritStdout" entries true o.inheritStdout
  inheritStderr : Gives (Tree.flag? · = some ·) "inheritStderr" entries true o.inheritStderr

def Fits (t : Tree) (o : SystemOptions) : Prop :=
  ∃ entries, recordForm.entries? t = some entries ∧ Says entries o

def change? (key : String) (t : Tree) : Option (SystemOptions → SystemOptions) :=
  match key with
  | "programName" => t.string?.map fun v o => { o with programName := v }
  | "args" => (t.list? Tree.string?).map fun v o => { o with args := v }
  | "env" => (t.list? (Tree.pair? Tree.string? Tree.string?)).map fun v o => { o with env := v }
  | "inheritStdin" => t.flag?.map fun v o => { o with inheritStdin := v }
  | "inheritStdout" => t.flag?.map fun v o => { o with inheritStdout := v }
  | "inheritStderr" => t.flag?.map fun v o => { o with inheritStderr := v }
  | _ => none

theorem recordForm_viewed : recordForm.Viewed change? where
  distinct := by decide
  sees := by
    have hs := sees_text "a string"
    simp only [recordForm, List.forall_mem_cons, List.not_mem_nil, false_implies, implies_true,
      and_true]
    exact ⟨hs.map _, hs.list.map _, (hs.pair hs).list.map _, sees_bool.map _, sees_bool.map _,
      sees_bool.map _⟩

theorem recordForm_free : ∀ f ∈ recordForm.fields, f.required = false := by decide

structure SameBut (key : String) (o o' : SystemOptions) : Prop where
  programName : key ≠ "programName" → o'.programName = o.programName
  args : key ≠ "args" → o'.args = o.args
  env : key ≠ "env" → o'.env = o.env
  inheritStdin : key ≠ "inheritStdin" → o'.inheritStdin = o.inheritStdin
  inheritStdout : key ≠ "inheritStdout" → o'.inheritStdout = o.inheritStdout
  inheritStderr : key ≠ "inheritStderr" → o'.inheritStderr = o.inheritStderr

theorem sameBut_change {change : SystemOptions → SystemOptions} (h : change? key t = some change)
    (o : SystemOptions) : SameBut key o (change o) := by
  unfold change? at h
  split at h
  case h_7 => exact nomatch h
  all_goals
    obtain ⟨v, -, rfl⟩ := Option.map_eq_some_iff.mp h
    constructor <;> intro hn <;> first | rfl | exact absurd rfl hn

theorem said_of_told (h : recordForm.told change? entries [] {} = some o) : Says entries o where
  texts := ((Record.told_isSome_iff _).mp (Option.isSome_of_eq_some h)).texts
  programName := Record.told_gives (·.programName) (by decide) (fun _ => rfl) (fun _ _ => rfl)
    (fun hc o => (sameBut_change hc o).programName) h
  args := Record.told_gives (·.args) (by decide) (fun _ => rfl) (fun _ _ => rfl)
    (fun hc o => (sameBut_change hc o).args) h
  env := Record.told_gives (·.env) (by decide) (fun _ => rfl) (fun _ _ => rfl)
    (fun hc o => (sameBut_change hc o).env) h
  inheritStdin := Record.told_gives (·.inheritStdin) (by decide) (fun _ => rfl) (fun _ _ => rfl)
    (fun hc o => (sameBut_change hc o).inheritStdin) h
  inheritStdout := Record.told_gives (·.inheritStdout) (by decide) (fun _ => rfl) (fun _ _ => rfl)
    (fun hc o => (sameBut_change hc o).inheritStdout) h
  inheritStderr := Record.told_gives (·.inheritStderr) (by decide) (fun _ => rfl) (fun _ _ => rfl)
    (fun hc o => (sameBut_change hc o).inheritStderr) h

theorem Says.unique (h : Says entries o) (h' : Says entries o') : o = o' := by
  cases o
  cases o'
  exact (SystemOptions.mk.injEq ..).mpr ⟨h.programName.unique h'.programName, h.args.unique h'.args,
    h.env.unique h'.env, h.inheritStdin.unique h'.inheritStdin,
    h.inheritStdout.unique h'.inheritStdout, h.inheritStderr.unique h'.inheritStderr⟩

theorem Says.admits (h : Says entries o) : recordForm.Admits change? entries [] where
  texts := h.texts
  stands := by
    simp only [Record.keys, recordForm, List.map_cons, List.map_nil, List.forall_mem_cons,
      List.not_mem_nil, false_implies, implies_true, and_true]
    exact ⟨Record.stands_of_gives h.programName fun _ => rfl,
      Record.stands_of_gives h.args fun _ => rfl, Record.stands_of_gives h.env fun _ => rfl,
      Record.stands_of_gives h.inheritStdin fun _ => rfl,
      Record.stands_of_gives h.inheritStdout fun _ => rfl,
      Record.stands_of_gives h.inheritStderr fun _ => rfl⟩
  complete := fun f hf hr => absurd hr (by simp [recordForm_free f hf])

/-- What the reader makes of the members of an object is what they say. -/
theorem told_eq_some_iff (entries : List (Option String × Tree)) (o : SystemOptions) :
    recordForm.told change? entries [] {} = some o ↔ Says entries o := by
  refine ⟨said_of_told, fun h => ?_⟩
  obtain ⟨o', ho⟩ := Option.isSome_iff_exists.mp ((Record.told_isSome_iff {}).mpr h.admits)
  rw [ho, (said_of_told ho).unique h]

theorem Says.of_alike {entries' : List (Option String × Tree)} (h : Says entries o)
    (ht : ∀ e ∈ entries', e.1 ≠ none) (ha : Alike recordForm.keys Says entries entries') :
    Says entries' o :=
  have hsaid := told_eq_some_iff
  have hfree := recordForm_free
  { texts := ht
    programName :=
      Record.gives_of_alike hsaid hfree (·.programName) (by decide) (·.programName) ha h
    args := Record.gives_of_alike hsaid hfree (·.args) (by decide) (·.args) ha h
    env := Record.gives_of_alike hsaid hfree (·.env) (by decide) (·.env) ha h
    inheritStdin :=
      Record.gives_of_alike hsaid hfree (·.inheritStdin) (by decide) (·.inheritStdin) ha h
    inheritStdout :=
      Record.gives_of_alike hsaid hfree (·.inheritStdout) (by decide) (·.inheritStdout) ha h
    inheritStderr :=
      Record.gives_of_alike hsaid hfree (·.inheritStderr) (by decide) (·.inheritStderr) ha h }

def ofTree? (t : Tree) : Option SystemOptions := recordForm.view? change? t

theorem fits_eq : Fits = (ofTree? · = some ·) := by
  funext t o
  unfold ofTree? Fits Record.view?
  rw [Option.bind_eq_some_iff]
  exact propext (exists_congr fun entries => and_congr_right fun _ => (told_eq_some_iff _ _).symm)

theorem Says.rewritten_iff {es es' : List (Option String × Tree)} (h : Rewritten es entries es') :
    Says es o ↔ Says es' o := by
  have hs := layless_string
  refine ⟨fun ho => ⟨h.texts_iff.mp ho.texts, (h.gives_iff hs).mp ho.programName,
    (h.gives_iff hs.list).mp ho.args, (h.gives_iff (hs.pair hs).list).mp ho.env,
    (h.gives_iff layless_flag).mp ho.inheritStdin, (h.gives_iff layless_flag).mp ho.inheritStdout,
    (h.gives_iff layless_flag).mp ho.inheritStderr⟩, fun ho => ⟨h.texts_iff.mpr ho.texts,
    (h.gives_iff hs).mpr ho.programName, (h.gives_iff hs.list).mpr ho.args,
    (h.gives_iff (hs.pair hs).list).mpr ho.env, (h.gives_iff layless_flag).mpr ho.inheritStdin,
    (h.gives_iff layless_flag).mpr ho.inheritStdout,
    (h.gives_iff layless_flag).mpr ho.inheritStderr⟩⟩

theorem layless_ofTree : Layless ofTree? := by
  intro t t' h
  have hiff (o : SystemOptions) : ofTree? t = some o ↔ ofTree? t' = some o := by
    change (fun t o => ofTree? t = some o) t o ↔ (fun t o => ofTree? t = some o) t' o
    rw [← fits_eq]
    obtain ⟨hn, hn'⟩ | ⟨es, entries, es', he, he', hr⟩ := rewritten_entries recordForm h
    · simp [Fits, hn, hn']
    · simp [Fits, he, he', Says.rewritten_iff hr]
  exact Option.ext hiff

/-- In whatever way a value is written, it changes the same. -/
theorem layless_change (key : String) : Layless (change? key) := by
  intro t t' h
  unfold change?
  split
  · exact layless_string.map _ _ _ h
  · exact layless_string.list.map _ _ _ h
  · exact (layless_string.pair layless_string).list.map _ _ _ h
  · exact layless_flag.map _ _ _ h
  · exact layless_flag.map _ _ _ h
  · exact layless_flag.map _ _ _ h
  · rfl

theorem saySame_of_relaid (h : t.Relaid t') : SaySame Says key t t' := fun o => by
  rw [← told_eq_some_iff, ← told_eq_some_iff]
  simp only [Record.told, layless_change key t t' h]

end SystemOptions

/-! ### Settings -/

namespace Settings
variable {s s' : Settings}

def levels : List (String × Log.Level) := Log.Level.all.map fun l => (l.name, l)

def formats : List (String × Log.Format) := [("compact", .compact), ("json", .json)]

def target? (t : Tree) : Option (Option Log.Target) :=
  (t.orNull? Tree.string?).map (Option.map Log.Target.ofText)

structure Says (entries : List (Option String × Tree)) (s : Settings) : Prop where
  texts : ∀ e ∈ entries, e.1 ≠ none
  enableWasi : Gives (Tree.flag? · = some ·) "enableWasi" entries false s.enableWasi
  maxMemoryPages :
    Gives (Tree.below? UInt32.size · = some ·) "maxMemoryPages" entries 256 s.maxMemoryPages
  logTarget : Gives (target? · = some ·) "logTarget" entries none s.logTarget
  logLevel :
    Gives (Tree.orNull? (Tree.choice? levels) · = some ·) "logLevel" entries none s.logLevel
  logFormat : Gives (Tree.choice? formats · = some ·) "logFormat" entries .compact s.logFormat
  maxVarBytes :
    Gives (Tree.below? UInt64.size · = some ·) "maxVarBytes" entries (1024 * 1024) s.maxVarBytes
  fuelLimit :
    Gives (Tree.orNull? (Tree.below? UInt64.size) · = some ·) "fuelLimit" entries none s.fuelLimit
  timeoutMillis :
    Gives (Tree.orNull? (Tree.below? UInt64.size) · = some ·) "timeoutMs" entries none
      s.timeoutMillis
  allowUnresolvedImports :
    Gives (Tree.flag? · = some ·) "allowUnresolvedImports" entries false s.allowUnresolvedImports
  wasi : Gives SystemOptions.Fits "wasi" entries {} s.wasi

def change? (key : String) (t : Tree) : Option (Settings → Settings) :=
  match key with
  | "enableWasi" => t.flag?.map fun v s => { s with enableWasi := v }
  | "maxMemoryPages" => (t.below? UInt32.size).map fun v s => { s with maxMemoryPages := v }
  | "logTarget" => (target? t).map fun v s => { s with logTarget := v }
  | "logLevel" => (t.orNull? (Tree.choice? levels)).map fun v s => { s with logLevel := v }
  | "logFormat" => (t.choice? formats).map fun v s => { s with logFormat := v }
  | "maxVarBytes" => (t.below? UInt64.size).map fun v s => { s with maxVarBytes := v }
  | "fuelLimit" => (t.orNull? (Tree.below? UInt64.size)).map fun v s => { s with fuelLimit := v }
  | "timeoutMs" =>
    (t.orNull? (Tree.below? UInt64.size)).map fun v s => { s with timeoutMillis := v }
  | "allowUnresolvedImports" => t.flag?.map fun v s => { s with allowUnresolvedImports := v }
  | "wasi" => (SystemOptions.ofTree? t).map fun v s => { s with wasi := v }
  | _ => none

theorem recordForm_viewed : recordForm.Viewed change? where
  distinct := by decide
  sees := by
    have htarget (t : Tree) : (t.orNull? Tree.string?).map (fun v (s : Settings) =>
        { s with logTarget := v.map Log.Target.ofText }) = change? "logTarget" t := by
      change _ = (target? t).map _
      rw [target?, Option.map_map]
      rfl
    simp only [recordForm, List.forall_mem_cons, List.not_mem_nil, false_implies, implies_true,
      and_true]
    exact ⟨sees_bool.map _, sees_u32.map _, ((sees_text _).optional.map _).congr htarget,
      (sees_choice levels).optional.map _,
      (sees_choice formats).map _, sees_u64.map _, sees_u64.optional.map _,
      sees_u64.optional.map _, sees_bool.map _,
      (sees_record SystemOptions.recordForm_viewed).map _⟩

theorem recordForm_free : ∀ f ∈ recordForm.fields, f.required = false := by decide

structure SameBut (key : String) (s s' : Settings) : Prop where
  enableWasi : key ≠ "enableWasi" → s'.enableWasi = s.enableWasi
  maxMemoryPages : key ≠ "maxMemoryPages" → s'.maxMemoryPages = s.maxMemoryPages
  logTarget : key ≠ "logTarget" → s'.logTarget = s.logTarget
  logLevel : key ≠ "logLevel" → s'.logLevel = s.logLevel
  logFormat : key ≠ "logFormat" → s'.logFormat = s.logFormat
  maxVarBytes : key ≠ "maxVarBytes" → s'.maxVarBytes = s.maxVarBytes
  fuelLimit : key ≠ "fuelLimit" → s'.fuelLimit = s.fuelLimit
  timeoutMillis : key ≠ "timeoutMs" → s'.timeoutMillis = s.timeoutMillis
  allowUnresolvedImports :
    key ≠ "allowUnresolvedImports" → s'.allowUnresolvedImports = s.allowUnresolvedImports
  wasi : key ≠ "wasi" → s'.wasi = s.wasi

theorem sameBut_change {change : Settings → Settings} (h : change? key t = some change)
    (s : Settings) : SameBut key s (change s) := by
  unfold change? at h
  split at h
  case h_11 => exact nomatch h
  all_goals
    obtain ⟨v, -, rfl⟩ := Option.map_eq_some_iff.mp h
    constructor <;> intro hn <;> first | rfl | exact absurd rfl hn

theorem said_of_told (h : recordForm.told change? entries [] {} = some s) : Says entries s where
  texts := ((Record.told_isSome_iff _).mp (Option.isSome_of_eq_some h)).texts
  enableWasi := Record.told_gives (·.enableWasi) (by decide) (fun _ => rfl) (fun _ _ => rfl)
    (fun hc s => (sameBut_change hc s).enableWasi) h
  maxMemoryPages := Record.told_gives (·.maxMemoryPages) (by decide) (fun _ => rfl) (fun _ _ => rfl)
    (fun hc s => (sameBut_change hc s).maxMemoryPages) h
  logTarget := Record.told_gives (·.logTarget) (by decide) (fun _ => rfl) (fun _ _ => rfl)
    (fun hc s => (sameBut_change hc s).logTarget) h
  logLevel := Record.told_gives (·.logLevel) (by decide) (fun _ => rfl) (fun _ _ => rfl)
    (fun hc s => (sameBut_change hc s).logLevel) h
  logFormat := Record.told_gives (·.logFormat) (by decide) (fun _ => rfl) (fun _ _ => rfl)
    (fun hc s => (sameBut_change hc s).logFormat) h
  maxVarBytes := Record.told_gives (·.maxVarBytes) (by decide) (fun _ => rfl) (fun _ _ => rfl)
    (fun hc s => (sameBut_change hc s).maxVarBytes) h
  fuelLimit := Record.told_gives (·.fuelLimit) (by decide) (fun _ => rfl) (fun _ _ => rfl)
    (fun hc s => (sameBut_change hc s).fuelLimit) h
  timeoutMillis := Record.told_gives (·.timeoutMillis) (by decide) (fun _ => rfl) (fun _ _ => rfl)
    (fun hc s => (sameBut_change hc s).timeoutMillis) h
  allowUnresolvedImports := Record.told_gives (·.allowUnresolvedImports) (by decide)
    (fun _ => rfl) (fun _ _ => rfl) (fun hc s => (sameBut_change hc s).allowUnresolvedImports) h
  wasi := SystemOptions.fits_eq ▸ Record.told_gives (·.wasi) (by decide) (fun _ => rfl)
    (fun _ _ => rfl) (fun hc s => (sameBut_change hc s).wasi) h

theorem Says.unique (h : Says entries s) (h' : Says entries s') : s = s' := by
  have hwasi := h.wasi
  have hwasi' := h'.wasi
  rw [SystemOptions.fits_eq] at hwasi hwasi'
  cases s
  cases s'
  exact (Settings.mk.injEq ..).mpr ⟨h.enableWasi.unique h'.enableWasi,
    h.maxMemoryPages.unique h'.maxMemoryPages, h.logTarget.unique h'.logTarget,
    h.logLevel.unique h'.logLevel, h.logFormat.unique h'.logFormat,
    h.maxVarBytes.unique h'.maxVarBytes, h.fuelLimit.unique h'.fuelLimit,
    h.timeoutMillis.unique h'.timeoutMillis,
    h.allowUnresolvedImports.unique h'.allowUnresolvedImports, hwasi.unique hwasi'⟩

theorem Says.admits (h : Says entries s) : recordForm.Admits change? entries [] where
  texts := h.texts
  stands := by
    have hwasi := h.wasi
    rw [SystemOptions.fits_eq] at hwasi
    simp only [Record.keys, recordForm, List.map_cons, List.map_nil, List.forall_mem_cons,
      List.not_mem_nil, false_implies, implies_true, and_true]
    exact ⟨Record.stands_of_gives h.enableWasi fun _ => rfl,
      Record.stands_of_gives h.maxMemoryPages fun _ => rfl,
      Record.stands_of_gives h.logTarget fun _ => rfl,
      Record.stands_of_gives h.logLevel fun _ => rfl,
      Record.stands_of_gives h.logFormat fun _ => rfl,
      Record.stands_of_gives h.maxVarBytes fun _ => rfl,
      Record.stands_of_gives h.fuelLimit fun _ => rfl,
      Record.stands_of_gives h.timeoutMillis fun _ => rfl,
      Record.stands_of_gives h.allowUnresolvedImports fun _ => rfl,
      Record.stands_of_gives hwasi fun _ => rfl⟩
  complete := fun f hf hr => absurd hr (by simp [recordForm_free f hf])

theorem told_eq_some_iff (entries : List (Option String × Tree)) (s : Settings) :
    recordForm.told change? entries [] {} = some s ↔ Says entries s := by
  refine ⟨said_of_told, fun h => ?_⟩
  obtain ⟨s', hs⟩ := Option.isSome_iff_exists.mp ((Record.told_isSome_iff {}).mpr h.admits)
  rw [hs, (said_of_told hs).unique h]

theorem Says.of_alike {entries' : List (Option String × Tree)} (h : Says entries s)
    (ht : ∀ e ∈ entries', e.1 ≠ none) (ha : Alike recordForm.keys Says entries entries') :
    Says entries' s :=
  have hsaid := told_eq_some_iff
  have hfree := recordForm_free
  { texts := ht
    enableWasi := Record.gives_of_alike hsaid hfree (·.enableWasi) (by decide) (·.enableWasi) ha h
    maxMemoryPages :=
      Record.gives_of_alike hsaid hfree (·.maxMemoryPages) (by decide) (·.maxMemoryPages) ha h
    logTarget := Record.gives_of_alike hsaid hfree (·.logTarget) (by decide) (·.logTarget) ha h
    logLevel := Record.gives_of_alike hsaid hfree (·.logLevel) (by decide) (·.logLevel) ha h
    logFormat := Record.gives_of_alike hsaid hfree (·.logFormat) (by decide) (·.logFormat) ha h
    maxVarBytes :=
      Record.gives_of_alike hsaid hfree (·.maxVarBytes) (by decide) (·.maxVarBytes) ha h
    fuelLimit := Record.gives_of_alike hsaid hfree (·.fuelLimit) (by decide) (·.fuelLimit) ha h
    timeoutMillis :=
      Record.gives_of_alike hsaid hfree (·.timeoutMillis) (by decide) (·.timeoutMillis) ha h
    allowUnresolvedImports := Record.gives_of_alike hsaid hfree (·.allowUnresolvedImports)
      (by decide) (·.allowUnresolvedImports) ha h
    wasi := SystemOptions.fits_eq ▸ Record.gives_of_alike hsaid hfree (·.wasi) (by decide)
      (fun h => SystemOptions.fits_eq ▸ h.wasi) ha h }

theorem layless_target : Layless target? := layless_string.orNull.map _

theorem layless_change (key : String) : Layless (change? key) := by
  intro t t' h
  unfold change?
  split
  · exact layless_flag.map _ _ _ h
  · exact (layless_below _).map _ _ _ h
  · exact layless_target.map _ _ _ h
  · exact (layless_choice levels).orNull.map _ _ _ h
  · exact (layless_choice formats).map _ _ _ h
  · exact (layless_below _).map _ _ _ h
  · exact (layless_below _).orNull.map _ _ _ h
  · exact (layless_below _).orNull.map _ _ _ h
  · exact layless_flag.map _ _ _ h
  · exact SystemOptions.layless_ofTree.map _ _ _ h
  · rfl

theorem saySame_of_relaid (h : t.Relaid t') : SaySame Says key t t' := fun s => by
  rw [← told_eq_some_iff, ← told_eq_some_iff]
  simp only [Record.told, layless_change key t t' h]

/-! ### Texts -/

theorem ofJson_object (before inner after : Blanks) (ms : Members) (s : Settings) :
    ofJson ((Tree.object inner ms).document before after) = .ok s ↔ Says ms.entries s := by
  have hw := whole_document (sees_record recordForm_viewed) before (.object inner ms) after
  change _ = recordForm.told change? ms.entries [] {} at hw
  rw [← told_eq_some_iff, ← hw]
  unfold ofJson
  cases whole (record recordForm) ((Tree.object inner ms).document before after) with
  | ok s' => simp [Except.toOption]
  | error f => simp [Except.toOption]

/-- A text that is not read is refused as an argument. -/
theorem ofJson_refused {text : String} (h : ∀ s, ofJson text ≠ .ok s) :
    ∃ message, ofJson text = .error (.argument (.settings message)) := by
  unfold ofJson at h ⊢
  split
  · rename_i s hs
    exact absurd (by rw [hs]) (h s)
  · exact ⟨_, rfl⟩

theorem fits_object_iff {inner : Blanks} {ms : Members} {o : SystemOptions} :
    SystemOptions.Fits (.object inner ms) o ↔ SystemOptions.Says ms.entries o :=
  ⟨fun ⟨_, he, ho⟩ => Option.some.inj he ▸ ho, fun ho => ⟨_, rfl, ho⟩⟩

/-- An object with nothing but options of the system interface says these, and all else is as it is
by default. -/
theorem said_options_iff :
    Says [(some "wasi", t)] s ↔ SystemOptions.Fits t s.wasi ∧ s = { wasi := s.wasi } := by
  constructor
  · intro h
    refine ⟨h.wasi, ?_⟩
    cases s
    exact (Settings.mk.injEq ..).mpr ⟨h.enableWasi, h.maxMemoryPages, h.logTarget, h.logLevel,
      h.logFormat, h.maxVarBytes, h.fuelLimit, h.timeoutMillis, h.allowUnresolvedImports, rfl⟩
  · rintro ⟨hf, hs⟩
    rw [hs]
    exact ⟨by simp, rfl, rfl, rfl, rfl, rfl, rfl, rfl, rfl, rfl, hf⟩

theorem saySame_of_alike {inner inner' : Blanks} {ms ms' : Members}
    (ht : ∀ e ∈ ms.entries, e.1 ≠ none) (ht' : ∀ e ∈ ms'.entries, e.1 ≠ none)
    (ha : Alike SystemOptions.recordForm.keys SystemOptions.Says ms.entries ms'.entries) :
    SaySame Says "wasi" (.object inner ms) (.object inner' ms') := by
  intro s
  rw [said_options_iff, said_options_iff, fits_object_iff, fits_object_iff]
  exact and_congr_left fun _ => ⟨fun h => h.of_alike ht' ha, fun h => h.of_alike ht ha.symm⟩

/-- Settings are what an object says, in whatever order and layout and with whatever else in it. An
object with values of the right types says some; one with a known key twice or with a value of the
wrong type says none and is refused. The same goes for the object that is the value of `wasi`. -/
theorem written_settings_read (before inner after : Blanks) (ms : Members) :
    (Typed recordForm.keys Says ms.entries →
      ∃ s, Says ms.entries s ∧ ofJson ((Tree.object inner ms).document before after) = .ok s) ∧
    (∀ s, Says ms.entries s →
      ofJson ((Tree.object inner ms).document before after) = .ok s ∧
      ∀ (before' inner' after' : Blanks) (ms' : Members), (∀ e ∈ ms'.entries, e.1 ≠ none) →
        Alike recordForm.keys Says ms.entries ms'.entries →
        ofJson ((Tree.object inner' ms').document before' after') = .ok s) ∧
    (Faulty recordForm.keys Says ms.entries →
      ∃ message, ofJson ((Tree.object inner ms).document before after) =
        .error (.argument (.settings message))) ∧
    (∀ t t' : Tree, t.Relaid t' →
      ∀ key, SaySame Says key t t' ∧ SaySame SystemOptions.Says key t t') ∧
    (Typed SystemOptions.recordForm.keys SystemOptions.Says ms.entries →
      ∃ s, Says [(some "wasi", .object inner ms)] s) ∧
    (∀ (inner' : Blanks) (ms' : Members),
      (∀ e ∈ ms.entries, e.1 ≠ none) → (∀ e ∈ ms'.entries, e.1 ≠ none) →
      Alike SystemOptions.recordForm.keys SystemOptions.Says ms.entries ms'.entries →
      SaySame Says "wasi" (.object inner ms) (.object inner' ms')) ∧
    (Faulty SystemOptions.recordForm.keys SystemOptions.Says ms.entries →
      ∀ s, ¬Says [(some "wasi", .object inner ms)] s) := by
  have hread := ofJson_object before inner after ms
  refine ⟨fun h => ?_, fun s h => ⟨(hread s).mpr h, fun before' inner' after' ms' ht ha => ?_⟩,
    fun h => ?_, fun t t' h key => ⟨saySame_of_relaid h, SystemOptions.saySame_of_relaid h⟩,
    fun h => ?_, fun inner' ms' ht ht' ha => saySame_of_alike ht ht' ha, fun h s hs => ?_⟩
  · obtain ⟨s, hs⟩ := Record.said_of_typed told_eq_some_iff recordForm_free h
    exact ⟨s, hs, (hread s).mpr hs⟩
  · exact (ofJson_object before' inner' after' ms' s).mpr (h.of_alike ht ha)
  · refine ofJson_refused fun s hs => ?_
    exact Record.not_said_of_faulty told_eq_some_iff recordForm_free h s ((hread s).mp hs)
  · obtain ⟨o, ho⟩ := Record.said_of_typed SystemOptions.told_eq_some_iff
      SystemOptions.recordForm_free h
    exact ⟨{ wasi := o }, said_options_iff.mpr ⟨fits_object_iff.mpr ho, rfl⟩⟩
  · exact Record.not_said_of_faulty SystemOptions.told_eq_some_iff
      SystemOptions.recordForm_free h _ (fits_object_iff.mp (said_options_iff.mp hs).1)

def plainly (cs : List Char) : List Piece :=
  cs.filterMap fun c =>
    if h : 0x20 ≤ c.toNat ∧ c ≠ '"' ∧ c ≠ '\\' then some (.plain c h) else none

def mixedMembers : Members :=
  let blank : Blanks := ⟨[' '], by simp⟩
  .cons noBlanks (plainly ['n', 'e', 'w']) noBlanks blank
    (.list noBlanks (.cons noBlanks (.object noBlanks .nil) noBlanks
      (.cons blank (.number ⟨true, 2, some ⟨['5'], by simp⟩, none⟩) noBlanks .nil))) blank <|
  .cons noBlanks (plainly ['w', 'a', 's', 'i']) noBlanks blank
    (.object noBlanks (.cons noBlanks
      (plainly ['i', 'n', 'h', 'e', 'r', 'i', 't', 'S', 't', 'd', 'i', 'n']) noBlanks noBlanks
      (.flag true) noBlanks .nil)) noBlanks <|
  .cons blank (plainly ['f', 'u', 'e', 'l', 'L', 'i', 'm', 'i', 't']) blank noBlanks
    (.number ⟨false, 18446744073709551615, none, none⟩) noBlanks <|
  .cons noBlanks (plainly ['e', 'n', 'a', 'b', 'l', 'e'] ++
      [.unit ⟨⟨0, false⟩, ⟨0, false⟩, ⟨5, false⟩, ⟨7, false⟩⟩] ++ plainly ['a', 's', 'i'])
    noBlanks noBlanks (.flag true) noBlanks .nil

example : (Tree.object noBlanks mixedMembers).document noBlanks noBlanks =
    "\x7b\"new\": [\x7b\x7d, -2.5] ,\"wasi\": \x7b\"inheritStdin\":true\x7d, " ++
      "\"fuelLimit\" :18446744073709551615,\"enable\\u0057asi\":true\x7d" := by decide

theorem mixed_settings_read :
    ofJson ((Tree.object noBlanks mixedMembers).document noBlanks noBlanks) =
      .ok { enableWasi := true, fuelLimit := some 18446744073709551615,
            wasi := { inheritStdin := true } } := by
  have hs : Says mixedMembers.entries
      { enableWasi := true, fuelLimit := some 18446744073709551615,
        wasi := { inheritStdin := true } } :=
    { texts := by decide
      enableWasi := rfl
      maxMemoryPages := rfl
      logTarget := rfl
      logLevel := rfl
      logFormat := rfl
      maxVarBytes := rfl
      fuelLimit := rfl
      timeoutMillis := rfl
      allowUnresolvedImports := rfl
      wasi := ⟨_, rfl, by decide, rfl, rfl, rfl, rfl, rfl, rfl⟩ }
  exact ((written_settings_read noBlanks noBlanks noBlanks mixedMembers).2.1 _ hs).1

end Settings

end PluginHost
