import PluginHost.Proofs.Binding
import PluginHost.Proofs.Context
/-!
The summary of what the system interface grants. It is written to the log before any guest code of
the plugin runs; how many arguments there are, which variables and which streams is all that it
depends on.
-/
namespace PluginHost

namespace SystemOptions

/-- Options that grant the same, apart from texts that could be secret: those of the arguments, the
values of the variables and the name of the program. -/
structure SameGrants (o o' : SystemOptions) : Prop where
  count : o.args.length = o'.args.length
  keys : o.env.map Prod.fst = o'.env.map Prod.fst
  stdin : o.inheritStdin = o'.inheritStdin
  stdout : o.inheritStdout = o'.inheritStdout
  stderr : o.inheritStderr = o'.inheritStderr

structure GrantsNothing (o : SystemOptions) : Prop where
  args : o.args = []
  env : o.env = []
  stdin : o.inheritStdin = false
  stdout : o.inheritStdout = false
  stderr : o.inheritStderr = false

def grantsOf (count : Nat) (keys streams : List String) : List String :=
  (if count = 0 then [] else ["args: " ++ toString count]) ++
  (if keys = [] then [] else ["env: [" ++ ", ".intercalate keys ++ "]"]) ++
  (if streams = [] then [] else ["stdio: [" ++ ", ".intercalate streams ++ "]"])

def grants (o : SystemOptions) : List String :=
  grantsOf o.args.length (o.env.map Prod.fst) o.streams

theorem summary_eq (o : SystemOptions) :
    o.summary = if o.grants = [] then "none" else ", ".intercalate o.grants := by
  simp [summary, grants, grantsOf]

theorem streams_eq_nil_iff (o : SystemOptions) :
    o.streams = [] ↔
      o.inheritStdin = false ∧ o.inheritStdout = false ∧ o.inheritStderr = false := by
  simp [streams]

theorem SameGrants.grants_eq {o o' : SystemOptions} (h : o.SameGrants o') :
    o.grants = o'.grants := by
  simp only [grants, streams, h.count, h.keys, h.stdin, h.stdout, h.stderr]

theorem SameGrants.summary_eq {o o' : SystemOptions} (h : o.SameGrants o') :
    o.summary = o'.summary := by
  rw [SystemOptions.summary_eq, SystemOptions.summary_eq, h.grants_eq]

theorem start_of_mem_grants {o : SystemOptions} {part : String} (h : part ∈ o.grants) :
    ∃ c, part.toList.head? = some c ∧ c ≠ 'n' := by
  simp only [grants, grantsOf, List.mem_append, List.mem_ite_nil_left, List.mem_singleton] at h
  obtain (⟨-, rfl⟩ | ⟨-, rfl⟩) | ⟨-, rfl⟩ := h
  · exact ⟨'a', by simp, by decide⟩
  · exact ⟨'e', by simp, by decide⟩
  · exact ⟨'s', by simp, by decide⟩

theorem grants_eq_nil_iff (o : SystemOptions) : o.grants = [] ↔ o.GrantsNothing := by
  have hp : o.grants = [] ↔ o.args = [] ∧ o.env = [] ∧ o.streams = [] := by
    simp [grants, grantsOf]
  rw [hp, streams_eq_nil_iff]
  exact ⟨fun ⟨ha, he, hi, ho, hr⟩ => ⟨ha, he, hi, ho, hr⟩, fun ⟨ha, he, hi, ho, hr⟩ =>
    ⟨ha, he, hi, ho, hr⟩⟩

theorem intercalate_ne_none {part : String} {parts : List String} {c : Char}
    (h : part.toList.head? = some c) (hc : c ≠ 'n') :
    ", ".intercalate (part :: parts) ≠ "none" := by
  intro he
  obtain ⟨cs, h⟩ := List.head?_eq_some_iff.mp h
  have hl := congrArg String.toList he
  cases parts <;> simp [h, hc] at hl

theorem summary_eq_none_iff (o : SystemOptions) : o.summary = "none" ↔ o.GrantsNothing := by
  rw [summary_eq, ← grants_eq_nil_iff]
  cases hg : o.grants with
  | nil => simp
  | cons part parts =>
    obtain ⟨c, hp, hc⟩ := start_of_mem_grants (hg ▸ List.mem_cons_self : part ∈ o.grants)
    simp [intercalate_ne_none hp hc]

end SystemOptions

namespace Opening
variable {g : Guest} {H : Type}

/-- What comes before guest code is the same task, whatever texts the options hold. -/
theorem link_eq (registry : Registry H) (m : g.Module) (settings : Settings)
    {o o' : SystemOptions} (h : o.SameGrants o') :
    link registry m { settings with wasi := o } = link registry m { settings with wasi := o' } := by
  simp only [link, h.summary_eq]
  rfl

/-- With system calls, the summary is logged and then what there is to say of the imports. -/
theorem link_logs (registry : Registry H) {m : g.Module} {settings : Settings}
    (hw : settings.enableWasi = true) (hm : (g.info m).otherImports = []) (w : World H) :
    ∃ events, ((link registry m settings).run w).2 =
      (w.log (.systemContextBuilt settings.wasi.summary)).logAll events := by
  rcases hs : ((settings.binder registry).linkAll (g.info m).imports).run [] with ⟨r, events⟩
  refine ⟨events, ?_⟩
  have hb := run_bind hs (w.log (.systemContextBuilt settings.wasi.summary))
  have hl : (link registry m settings).run w = (bind registry settings (g.info m)).run
      (w.log (.systemContextBuilt settings.wasi.summary)) := by
    simp only [link, hm, hw]
    rfl
  rw [hl, hb]

/-- Two plugins whose options differ only in texts that could be secret have the same summary, and
up to their guest code the host does and logs the same for both. -/
theorem summary_keeps_secrets (registry : Registry H) (m : g.Module) (settings : Settings)
    (w : World H) :
    (∀ o o' : SystemOptions, o.SameGrants o' →
      o.summary = o'.summary ∧
      (link registry m { settings with wasi := o }).run w =
        (link registry m { settings with wasi := o' }).run w) ∧
    (∀ o : SystemOptions, o.summary = "none" ↔ o.GrantsNothing) ∧
    (instantiate registry m settings).run w =
      (link registry m settings >>= complete m settings).run w ∧
    (settings.enableWasi = true → (g.info m).otherImports = [] →
      ∃ events, ((link registry m settings).run w).2 =
        (w.log (.systemContextBuilt settings.wasi.summary)).logAll events) :=
  ⟨fun _ _ h => ⟨h.summary_eq, by rw [link_eq registry m settings h]⟩,
    SystemOptions.summary_eq_none_iff, instantiate_eq registry m settings w,
    fun hw hm => link_logs registry hw hm w⟩

def holding (secret : String) : SystemOptions where
  programName := secret
  args := [secret]
  env := [("TOKEN", secret)]

/-- Which of two secrets the options hold makes no difference to the summary. -/
theorem token_not_logged :
    (holding "alpha").summary = (holding "omega").summary ∧
    (holding "alpha").summary = "args: 1, env: [TOKEN], stdio: [stdout, stderr]" ∧
    ∃ events, ((link (g := Errand.guest) ⟨[]⟩ ()
        { enableWasi := true, wasi := holding "alpha" }).run Script.world).2 =
      (Script.world.log (.systemContextBuilt (holding "alpha").summary)).logAll events := by
  obtain ⟨hsame, -, -, hlog⟩ := summary_keeps_secrets (g := Errand.guest) ⟨[]⟩ ()
    { enableWasi := true, wasi := holding "alpha" } Script.world
  exact ⟨(hsame _ _ ⟨rfl, rfl, rfl, rfl, rfl⟩).1, by decide, hlog rfl rfl⟩

end Opening

end PluginHost
