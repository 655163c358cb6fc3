import TemplateInspector.Proofs.Plugin.Isolation

/-!
# Engines that accept what they declare

An entry is sound if the languages that it declares can be told apart by their identifiers, and its
engine accepts those languages and no others. The engines of this library are sound, and the
manifest of a plugin without problems makes a sound entry. No call on a registry spoils that, as
long as only sound entries are registered.
-/

namespace TemplateInspector

variable {σ : Type}

/-! ## What engines accept -/

/-- Whether an error lies with the host: it names no language, or one that is not offered. -/
def EngineError.isHostFault : EngineError → Bool
  | hostNotConfigured | unsupportedLanguage _ => true
  | instantiation _ | generation _ | protocol _ | io _ => false

/-- A host that is not refused names the language that is then used. -/
theorem Host.language_of_requireSupported {host : Host} {supported : List Language}
    {language : Language} (h : host.requireSupported supported = .ok language) :
    host.language = some language := by
  cases hlanguage : host.language with
  | none => simp [requireSupported, requireLanguage, hlanguage, bind, Except.bind] at h
  | some other =>
    simp only [requireSupported, requireLanguage, hlanguage, bind, Except.bind] at h
    split at h <;> cases h
    rfl

/-- The engine accepts these languages and no others: it refuses every host that names none of them
and does not act then, and whatever else it fails of, it is not the host. -/
structure Engine.Accepts (engine : Engine σ) (languages : List Language) : Prop where
  refused : ∀ source host world error, host.requireSupported languages = .error error →
    engine.generate source host world = (.failed error, world)
  accepted : ∀ source host world language, host.requireSupported languages = .ok language →
    ∀ error, (engine.generate source host world).1 = .failed error → error.isHostFault = false

/-- Languages that an engine may declare: there is one at least, and their identifiers are distinct
and not blank. -/
structure Language.Declarable (languages : List Language) : Prop where
  nonempty : languages ≠ []
  distinct : (languages.map Language.id).Nodup
  nonblank : ∀ language ∈ languages, Text.isBlankText language.id = false

/-- An entry declares its languages properly, and the engine that it yields on request accepts
exactly these. A request that fails does not fail of a host. -/
structure EngineEntry.Sound (entry : EngineEntry σ) : Prop where
  declarable : Language.Declarable entry.descriptor.languages
  accepts : ∀ world engine, (entry.request world).1.engine = .ok engine →
    engine.Accepts entry.descriptor.languages
  unbuilt : ∀ world error, (entry.request world).1.engine = .error error →
    error.isHostFault = false

/-- All entries of a registry are sound. -/
def Registry.Sound (registry : Registry σ) : Prop :=
  ∀ entry ∈ registry.entries, entry.Sound

/-- An entry that was asked for its engine is as sound as before. -/
theorem EngineEntry.Sound.request {entry : EngineEntry σ} (h : entry.Sound) (world : σ) :
    (entry.request world).2.1.Sound := by
  have haccepts := h.accepts world
  unfold EngineEntry.request at haccepts ⊢
  cases hbuilt : entry.built with
  | some engine => exact h
  | none =>
    simp only [hbuilt] at haccepts ⊢
    split
    case h_1 engine next hbuild =>
      rw [hbuild] at haccepts
      -- From now on every request yields the engine that was built.
      refine ⟨h.declarable, fun other made hmade => ?_, fun other error herror => ?_⟩
      · cases hmade
        exact haccepts engine rfl
      · cases herror
    case h_2 => exact h

/-! ## The engines of this library -/

/-- An entry of this library is sound if its function refuses a host exactly for its languages. -/
theorem Registry.sound_builtinEntry {descriptor : EngineDescriptor}
    {generate : String → Host → Outcome} (hdeclarable : Language.Declarable descriptor.languages)
    (hrefused : ∀ source host error, host.requireSupported descriptor.languages = .error error →
      generate source host = .failed error)
    (haccepted : ∀ source host language,
      host.requireSupported descriptor.languages = .ok language →
        ∀ error, generate source host ≠ .failed error) :
    (builtinEntry descriptor generate : EngineEntry σ).Sound := by
  refine ⟨hdeclarable, fun world engine hengine => ?_, fun world error herror => ?_⟩
  · cases hengine
    refine ⟨fun source host world error herror => ?_,
      fun source host world language hlanguage => ?_⟩
    · exact congrArg (·, world) (hrefused source host error herror)
    · exact fun error herror => absurd herror (haccepted source host language hlanguage error)
  · cases herror

/-- The engine for templates with tags never fails of its own, whatever checks them. -/
theorem Tagged.sound_builtinEntry (check : List Char → Template.Verdict) :
    (Registry.builtinEntry descriptor (generate check) : EngineEntry σ).Sound := by
  refine Registry.sound_builtinEntry ⟨by decide, by decide, by decide⟩ ?_ ?_
  · intro source host error herror
    simp only [generate, herror]
  · intro source host language hlanguage error
    simp only [generate, hlanguage]
    split
    · simp
    · split <;> simp

/-- Nor does the engine for literal templates. -/
theorem Literal.sound_builtinEntry :
    (Registry.builtinEntry descriptor generate : EngineEntry σ).Sound := by
  refine Registry.sound_builtinEntry ⟨by decide, by decide, by decide⟩ ?_ ?_
  · intro source host error herror
    simp only [generate, herror]
  · intro source host language hlanguage error
    simp only [generate, hlanguage]
    split <;> simp

/-! ## The engines of plugins -/

/-- A manifest without problems of languages declares distinct identifiers that are not blank. -/
theorem PluginManifest.languageProblems_eq_nil {seen : List String} {languages : List Language}
    (h : languageProblems seen languages = []) :
    (∀ language ∈ languages, language.id ∉ seen) ∧ (languages.map Language.id).Nodup ∧
      ∀ language ∈ languages, Text.isBlankText language.id = false := by
  induction languages generalizing seen with
  | nil => simp
  | cons language languages ih =>
    unfold languageProblems at h
    split at h
    case isTrue => contradiction
    case isFalse hblank =>
      split at h
      case isTrue => contradiction
      case isFalse hnew =>
        obtain ⟨hfresh, hdistinct, hnonblank⟩ := ih h
        have hother : ∀ other ∈ languages, other.id ≠ language.id ∧ other.id ∉ seen := by
          simpa [not_or] using hfresh
        refine ⟨?_, ?_, ?_⟩
        · intro other hmem
          rcases List.mem_cons.mp hmem with rfl | hmem
          · simpa using hnew
          · exact (hother other hmem).2
        · refine List.nodup_cons.mpr ⟨fun hmem => ?_, hdistinct⟩
          obtain ⟨other, hmem, hid⟩ := List.mem_map.mp hmem
          exact (hother other hmem).1 hid
        · intro other hmem
          rcases List.mem_cons.mp hmem with rfl | hmem
          · simpa using hblank
          · exact hnonblank other hmem

/-- A manifest without problems declares languages properly. -/
theorem PluginManifest.declarable_of_problems {machine : Machine} {directory : String}
    {manifest : PluginManifest} (h : manifest.problems machine directory = []) :
    Language.Declarable manifest.languages := by
  simp only [problems, List.append_eq_nil_iff] at h
  obtain ⟨⟨-, hlanguages⟩, hproblems⟩ := h
  obtain ⟨-, hdistinct, hnonblank⟩ := languageProblems_eq_nil hproblems
  refine ⟨fun hnone => ?_, hdistinct, hnonblank⟩
  rw [hnone] at hlanguages
  contradiction

/-- The engine of a plugin accepts the languages that it was given. -/
theorem CommandEngine.accepts_toEngine (engine : CommandEngine) :
    engine.toEngine.Accepts engine.languages := by
  refine ⟨fun source host machine error herror => ?_,
    fun source host machine language hlanguage => ?_⟩
  · simp only [toEngine, generate, herror]
  · intro error
    simp only [toEngine, generate, hlanguage]
    cases machine.run (engine.launch language host.designTime source) with
    | error failure =>
      intro herror
      cases herror
      rfl
    | ok ended =>
      simp only [outcome]
      split
      · intro herror
        cases herror
        rfl
      · split <;> intro herror <;> cases herror
        rfl

/-- The entry of a plugin without problems is sound. -/
theorem Plugin.sound_entry {machine : Machine} {plugin : Plugin}
    (h : plugin.problems machine = []) : plugin.entry.Sound := by
  have hrequest (world : Machine) : (plugin.entry.request world).1.engine =
      (plugin.commandEngine.ensureAvailable world).map fun _ => plugin.commandEngine.toEngine := by
    simp only [EngineEntry.request, entry]
    cases plugin.commandEngine.ensureAvailable world <;> rfl
  refine ⟨PluginManifest.declarable_of_problems h, fun world engine hengine => ?_,
    fun world error herror => ?_⟩
  · rw [hrequest] at hengine
    cases havailable : plugin.commandEngine.ensureAvailable world with
    | error error =>
      rw [havailable] at hengine
      cases hengine
    | ok available =>
      rw [havailable] at hengine
      cases hengine
      exact plugin.commandEngine.accepts_toEngine
  · rw [hrequest] at herror
    unfold CommandEngine.ensureAvailable at herror
    split at herror <;> cases herror
    rfl

namespace Registry

/-! ## Calls on a registry -/

variable {registry : Registry σ}

/-- A sound entry may be registered. -/
theorem Sound.register (h : registry.Sound) {entry : EngineEntry σ} (hentry : entry.Sound)
    {next : Registry σ} (hnext : registry.register entry = .ok next) : next.Sound := by
  unfold Registry.register at hnext
  split at hnext <;> cases hnext
  intro other hother
  rcases List.mem_append.mp hother with hold | hnew
  · exact h other hold
  · cases List.mem_singleton.mp hnew
    exact hentry

/-- Engines may be removed. -/
theorem Sound.unregister (h : registry.Sound) (id : String) : (registry.unregister id).2.Sound := by
  unfold Registry.unregister
  split
  · exact fun entry hentry => h entry (List.mem_of_mem_eraseP hentry)
  · exact h

/-- A sound entry may take the place of another one. -/
theorem Sound.replace (h : registry.Sound) {entry : EngineEntry σ} (hentry : entry.Sound) :
    (registry.replace entry).Sound := by
  intro other hother
  obtain ⟨old, hold, rfl⟩ := List.mem_map.mp hother
  split
  · exact hentry
  · exact h old hold

/-- The answer to a request is that of a sound entry, and the registry stays sound. -/
theorem Sound.instantiate (h : registry.Sound) {id : String} {world after : σ}
    {instantiation : Instantiation σ} {next : Registry σ}
    (hmade : registry.instantiate id world = (some instantiation, next, after)) :
    next.Sound ∧ ∃ entry, registry.get? id = some entry ∧ entry.Sound ∧
      instantiation = (entry.request world).1 := by
  cases hget : registry.get? id with
  | none => simp [Registry.instantiate, hget] at hmade
  | some entry =>
    simp only [Registry.instantiate, hget, Prod.mk.injEq, Option.some.injEq] at hmade
    obtain ⟨rfl, rfl, -⟩ := hmade
    have hentry := h entry (List.mem_of_find?_eq_some hget)
    exact ⟨h.replace (hentry.request world), entry, rfl, hentry, rfl⟩

/-- The registry of this library is sound. -/
theorem sound_registerBuiltin (check : List Char → Template.Verdict) :
    (registerBuiltin ({} : Registry σ) check).Sound := by
  intro entry hentry
  have hentries : (registerBuiltin ({} : Registry σ) check).entries = builtinEntries check := rfl
  rw [hentries] at hentry
  rcases List.mem_cons.mp hentry with rfl | hentry
  · exact Tagged.sound_builtinEntry check
  · cases List.mem_singleton.mp hentry
    exact Literal.sound_builtinEntry

end Registry

namespace Registry.Sound

variable {registry : Registry Machine}

/-- A plugin may be registered, whatever is wrong with it. -/
theorem enroll (h : registry.Sound) (machine : Machine) (plugin : Plugin) :
    (plugin.enroll machine registry).1.Sound := by
  by_cases hproblems : plugin.problems machine = []
  · rw [Plugin.enroll_of_valid hproblems]
    split
    · exact h
    · intro entry hentry
      rcases List.mem_append.mp hentry with hold | hnew
      · exact h entry hold
      · cases List.mem_singleton.mp hnew
        exact Plugin.sound_entry hproblems
  · rw [Plugin.enroll_of_problems hproblems]
    exact h

/-- A survey may be registered. -/
theorem populate (h : registry.Sound) (machine : Machine) (survey : PluginSurvey) :
    (survey.populate machine registry).1.Sound := by
  have hrow (plugins : List Plugin) {registry : Registry Machine} (h : registry.Sound) :
      (PluginSurvey.enrollAll machine plugins registry).1.Sound := by
    induction plugins generalizing registry with
    | nil => exact h
    | cons plugin plugins ih => exact ih (h.enroll machine plugin)
  refine hrow survey.plugins fun entry hentry => h entry ?_
  rwa [Registry.entries_foldl_reportFailure] at hentry

end Registry.Sound

end TemplateInspector
