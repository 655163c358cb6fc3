import TemplateInspector.Cli.Program
import TemplateInspector.Proofs.Controller.Inputs
import TemplateInspector.Proofs.Plugin.Enrollment
import TemplateInspector.Proofs.Registry.Fitting

/-!
# Precedence of what is selected

A session is set up in the order: the command line, then the settings, then what comes first. The
session has selected the first engine with its first language before anything is asked for, and an
engine that is selected then keeps that language where it offers it. So without a language from the
command line or the settings, an engine that offers the first language of the first engine starts
with that one, and any other engine with its own first language.
-/

namespace TemplateInspector

variable {σ : Type}

/-- The first of an engine's languages is its own repair. -/
theorem resolveLanguage_head? (languages : List Language) :
    resolveLanguage languages.head? languages = languages.head? := by
  cases languages with
  | nil => rfl
  | cons first others => simp [resolveLanguage, Language.find?]

namespace Registry

/-- The engine that was registered first is found under its identifier. -/
theorem get?_of_first? {registry : Registry σ} {first : EngineEntry σ}
    (h : registry.first? = some first) : registry.get? first.id = some first := by
  obtain ⟨others, hentries⟩ := List.head?_eq_some_iff.mp h
  simp [get?, hentries]

end Registry

/-- A selection of a registered engine has its language repaired for that engine. -/
theorem Selection.ensureLanguage_of_get? {registry : Registry σ} {id : String}
    {entry : EngineEntry σ} (h : registry.get? id = some entry) (language : Option Language) :
    ensureLanguage ⟨some id, language⟩ registry.catalog =
      ⟨some id, resolveLanguage language entry.descriptor.languages⟩ := by
  have hdescriptor : descriptor? ⟨some id, language⟩ registry.catalog = some entry.descriptor := by
    rw [descriptor?, Option.bind_some, Registry.findEngine?_catalog, h, Option.map_some]
  rw [ensureLanguage, hdescriptor]

/-- Without any selection before, the first engine is selected with its first language. -/
theorem Selection.reconciled_of_first? {registry : Registry σ} {first : EngineEntry σ}
    (h : registry.first? = some first) :
    reconciled {} registry.catalog = ⟨some first.id, first.descriptor.languages.head?⟩ := by
  have hengine : reconciledEngine {} registry.catalog = some first.id := by
    obtain ⟨others, hentries⟩ := List.head?_eq_some_iff.mp h
    simp [reconciledEngine, descriptor?, Registry.catalog, hentries, EngineEntry.id]
  rw [reconciled, hengine, ensureLanguage_of_get? (Registry.get?_of_first? h)]
  rfl

/-- Taking over a selection changes no other input. -/
theorem Controller.inputs_withSelection (c : Controller) (now : Time) (next : Selection × Bool) :
    (c.withSelection now next).1.inputs = { c.inputs with selection := next.1 } := by
  unfold withSelection
  split
  · exact inputs_markChanged ..
  · rfl

namespace Session

/-- The engine of a registered entry is selected with a language. -/
structure Selects (s : Session σ) (entry : EngineEntry σ) (language : Option Language) : Prop where
  /-- The entry is registered. -/
  registered : s.registry.get? entry.id = some entry
  /-- The engine and the language are selected. -/
  selection : s.controller.inputs.selection = ⟨some entry.id, language⟩

/-- A session starts with the first engine and its first language. -/
theorem selects_initial {registry : Registry σ} {first : EngineEntry σ}
    (h : registry.first? = some first) (settings : ControllerSettings) (emitters : EmitterTable)
    (world : σ) :
    (initial settings registry emitters world).Selects first first.descriptor.languages.head? :=
  ⟨Registry.get?_of_first? h, Selection.reconciled_of_first? h⟩

/-- A registered engine can be selected, and the language is repaired for it. -/
theorem Selects.selectEngine {s : Session σ} {old entry : EngineEntry σ}
    {language : Option Language} (h : s.Selects old language)
    (hentry : s.registry.get? entry.id = some entry) (now : Time) :
    ∃ next changed, s.selectEngine (some entry.id) now = .ok (next, changed) ∧
      next.registry = s.registry ∧
      next.Selects entry (resolveLanguage language entry.descriptor.languages) := by
  have hfind : (findEngine? s.registry.catalog entry.id).isSome = true := by
    rw [Registry.findEngine?_catalog, hentry]
    rfl
  have hlanguage : s.controller.selection.language = language :=
    congrArg Selection.language h.selection
  obtain ⟨changed, hnext⟩ : ∃ changed,
      s.controller.selection.selectEngine (some entry.id) s.registry.catalog =
        .ok (⟨some entry.id, resolveLanguage language entry.descriptor.languages⟩, changed) := by
    simp only [Selection.selectEngine, hfind, ite_true, hlanguage,
      Selection.ensureLanguage_of_get? hentry]
    exact ⟨_, rfl⟩
  refine ⟨_, _, by rw [Session.selectEngine, Controller.selectEngine, hnext]; rfl, ?_⟩
  refine ⟨rfl, hentry, ?_⟩
  exact congrArg Inputs.selection (Controller.inputs_withSelection ..)

/-- A language of the selected engine can be selected. -/
theorem Selects.selectLanguage {s : Session σ} {entry : EngineEntry σ}
    {language : Option Language} (h : s.Selects entry language) {id : String} {found : Language}
    (hfound : Language.find? id entry.descriptor.languages = some found) (now : Time) :
    (s.selectLanguage (some found) now).1.Selects entry (some found) := by
  refine ⟨h.registered, ?_⟩
  have hengine : s.controller.selection.engine = some entry.id :=
    congrArg Selection.engine h.selection
  simp only [Session.selectLanguage, Controller.selectLanguage, Selection.selectLanguage, hengine,
    Controller.inputs_withSelection, Selection.ensureLanguage_of_get? h.registered,
    resolveLanguage_of_find? hfound]

/-- Turning the mode leaves the selection alone. -/
theorem Selects.setDesignTime {s : Session σ} {entry : EngineEntry σ}
    {language : Option Language} (h : s.Selects entry language) (designTime : Bool) (now : Time) :
    (s.setDesignTime designTime now).1.Selects entry language ∧
      (s.setDesignTime designTime now).1.controller.inputs.designTime = designTime := by
  have hinputs : (s.setDesignTime designTime now).1.controller.inputs =
      { s.controller.inputs with designTime } := by
    simp only [Session.setDesignTime, Controller.setDesignTime]
    split
    case isTrue hsame => rw [hsame]; rfl
    case isFalse => exact Controller.inputs_markChanged ..
  rw [hinputs]
  exact ⟨⟨h.registered, hinputs ▸ h.selection⟩, rfl⟩

end Session

namespace Cli

/-- The entry of the engine that is asked for, else of the first one. -/
def chosenEntry? (registry : Registry σ) : Option String → Option (EngineEntry σ)
  | some id => registry.get? id
  | none => registry.first?

/-- The language that is asked for on the command line, else that of the settings if it is offered,
else the repair of the one that was selected before. -/
def preferred? (settings : InspectorSettings) (options : SelectionOptions)
    (before : Option Language) (languages : List Language) : Option Language :=
  match options.language with
  | some id => Language.find? id languages
  | none =>
    (settings.defaultLanguage.bind fun id => Language.find? id languages) <|>
      resolveLanguage before languages

/-- The session once the engine that is asked for is selected. -/
theorem selects_selectEngine {s : Session σ} {first entry : EngineEntry σ}
    (h : s.Selects first first.descriptor.languages.head?) (hfirst : s.registry.first? = some first)
    {settings : InspectorSettings} {options : SelectionOptions}
    (hentry : chosenEntry? s.registry (requestedEngine settings options) = some entry) :
    ∃ next, selectEngine settings options s = .ok next ∧ next.registry = s.registry ∧
      next.Selects entry
        (resolveLanguage first.descriptor.languages.head? entry.descriptor.languages) := by
  cases hrequested : requestedEngine settings options with
  | none =>
    rw [hrequested, chosenEntry?, hfirst, Option.some.injEq] at hentry
    refine ⟨s, by simp only [selectEngine, hrequested], rfl, ?_⟩
    rw [← hentry, resolveLanguage_head?]
    exact h
  | some id =>
    rw [hrequested, chosenEntry?] at hentry
    cases Registry.id_of_get? hentry
    obtain ⟨next, changed, hnext, hregistry, hselects⟩ := h.selectEngine hentry 0
    exact ⟨next, by simp only [selectEngine, hrequested, hnext]; rfl, hregistry, hselects⟩

/-- An engine that is asked for and not registered is refused. -/
theorem selectEngine_of_none {s : Session σ} {first : EngineEntry σ}
    (hfirst : s.registry.first? = some first) {settings : InspectorSettings}
    {options : SelectionOptions}
    (hentry : chosenEntry? s.registry (requestedEngine settings options) = none) :
    ∃ id, selectEngine settings options s = .error (.selection (.unknownEngine id)) := by
  cases hrequested : requestedEngine settings options with
  | none => simp [hrequested, chosenEntry?, hfirst] at hentry
  | some id =>
    rw [hrequested, chosenEntry?] at hentry
    have hfind : (findEngine? s.registry.catalog id).isSome = false := by
      rw [Registry.findEngine?_catalog, hentry]
      rfl
    refine ⟨id, ?_⟩
    simp only [selectEngine, hrequested, Session.selectEngine, Controller.selectEngine,
      Selection.selectEngine, hfind, Bool.false_eq_true, ite_false]
    rfl

/-- The languages that are offered are those of the selected engine. -/
theorem offered_of_selects {s : Session σ} {entry : EngineEntry σ} {language : Option Language}
    (h : s.Selects entry language) : offered s = entry.descriptor.languages := by
  have hengine : s.controller.selection.engine = some entry.id :=
    congrArg Selection.engine h.selection
  simp [offered, Controller.languages, Selection.languages, Selection.descriptor?, hengine,
    Registry.findEngine?_catalog, h.registered]

/-- A language that is asked for and not offered is refused. -/
theorem selectLanguage_of_none {s : Session σ} {entry : EngineEntry σ}
    {language : Option Language} (h : s.Selects entry language) (settings : InspectorSettings)
    {options : SelectionOptions} {id : String} (hasked : options.language = some id)
    (hfound : Language.find? id entry.descriptor.languages = none) :
    ∃ error, selectLanguage settings options s = .error error := by
  simp only [selectLanguage, hasked, offered_of_selects h, hfound]
  exact ⟨_, rfl⟩

/-- The session once the language that is asked for is selected. -/
theorem selects_selectLanguage {s : Session σ} {entry : EngineEntry σ} {before : Option Language}
    (h : s.Selects entry (resolveLanguage before entry.descriptor.languages))
    {settings : InspectorSettings} {options : SelectionOptions}
    (hoffered : ∀ id, options.language = some id →
      (Language.find? id entry.descriptor.languages).isSome = true) :
    ∃ next, selectLanguage settings options s = .ok next ∧ next.registry = s.registry ∧
      next.Selects entry (preferred? settings options before entry.descriptor.languages) := by
  have hlanguages := offered_of_selects h
  cases hasked : options.language with
  | some id =>
    obtain ⟨found, hfound⟩ := Option.isSome_iff_exists.mp (hoffered id hasked)
    refine ⟨(s.selectLanguage (some found) 0).1, ?_, rfl, ?_⟩
    · simp only [selectLanguage, hasked, hlanguages, hfound]
    · simp only [preferred?, hasked, hfound]
      exact h.selectLanguage hfound 0
  | none =>
    cases hdefault : settings.defaultLanguage with
    | none =>
      refine ⟨s, by simp only [selectLanguage, hasked, hdefault], rfl, ?_⟩
      simp only [preferred?, hasked, hdefault, Option.bind_none]
      exact h
    | some id =>
      cases hfound : Language.find? id entry.descriptor.languages with
      | none =>
        refine ⟨s, by simp only [selectLanguage, hasked, hdefault, hlanguages, hfound], rfl, ?_⟩
        simp only [preferred?, hasked, hdefault, Option.bind_some, hfound]
        exact h
      | some found =>
        refine ⟨(s.selectLanguage (some found) 0).1, ?_, rfl, ?_⟩
        · simp only [selectLanguage, hasked, hdefault, hlanguages, hfound]
        · simp only [preferred?, hasked, hdefault, Option.bind_some, hfound]
          exact h.selectLanguage hfound 0

/-- Setting a session up succeeds with what takes precedence, or what was asked for is not there. -/
theorem setUp_cases {s : Session σ} {first : EngineEntry σ}
    (h : s.Selects first first.descriptor.languages.head?) (hfirst : s.registry.first? = some first)
    (settings : InspectorSettings) (options : SelectionOptions) :
    (∃ entry next, chosenEntry? s.registry (requestedEngine settings options) = some entry ∧
      (∀ id, options.language = some id →
        (Language.find? id entry.descriptor.languages).isSome = true) ∧
      setUp settings options s = .ok next ∧
      next.Selects entry (preferred? settings options first.descriptor.languages.head?
        entry.descriptor.languages) ∧
      next.controller.inputs.designTime = (options.designTime || settings.designTime)) ∨
    (∃ error, setUp settings options s = .error error) ∧
      ∀ entry, chosenEntry? s.registry (requestedEngine settings options) = some entry →
        ∃ id, options.language = some id ∧
          Language.find? id entry.descriptor.languages = none := by
  cases hentry : chosenEntry? s.registry (requestedEngine settings options) with
  | none =>
    obtain ⟨id, hrefused⟩ := selectEngine_of_none hfirst hentry
    refine .inr ⟨⟨_, by rw [setUp, hrefused]; rfl⟩, fun entry hsome => by contradiction⟩
  | some entry =>
    obtain ⟨middle, hmiddle, -, hselects⟩ := selects_selectEngine h hfirst hentry
    by_cases hoffered : ∀ id, options.language = some id →
        (Language.find? id entry.descriptor.languages).isSome = true
    · obtain ⟨next, hnext, -, hselects⟩ := selects_selectLanguage hselects hoffered
      obtain ⟨hselects, hmode⟩ :=
        hselects.setDesignTime (options.designTime || settings.designTime) 0
      refine .inl ⟨entry, _, rfl, hoffered, ?_, hselects, hmode⟩
      rw [setUp, hmiddle]
      simp only [bind, Except.bind, hnext]
      rfl
    · obtain ⟨id, hasked⟩ := Classical.not_forall.mp hoffered
      obtain ⟨hasked, hmissing⟩ := Classical.not_imp.mp hasked
      have hfound := Option.not_isSome_iff_eq_none.mp hmissing
      obtain ⟨error, hrefused⟩ := selectLanguage_of_none hselects settings hasked hfound
      refine .inr ⟨⟨error, ?_⟩, fun other hother => ?_⟩
      · rw [setUp, hmiddle]
        simp only [bind, Except.bind, hrefused]
      · cases hother
        exact ⟨id, hasked, hfound⟩

/-- A session is set up on a machine exactly if the engine that is asked for is registered, or none
is asked for, and a language that is asked for on the command line is offered by that engine. Then
the engine is the one that is asked for, or the first one; the language is the one that is asked
for, else that of the settings if the engine offers it, else what becomes of the first language of
the first engine, which is kept where it is offered; and the mode is on if the command line or the
settings say so. -/
theorem openMachine_precedence (machine : Machine) (settings : InspectorSettings)
    (options : SelectionOptions) :
    let registry := loadRegistry machine (searchPaths machine settings)
    let chosen := chosenEntry? registry (requestedEngine settings options)
    ((∃ s, openMachine machine settings options = .ok s) ↔
      ∃ entry, chosen = some entry ∧ ∀ id, options.language = some id →
        ∃ language ∈ entry.descriptor.languages, language.id = id) ∧
    ∀ s, openMachine machine settings options = .ok s → ∃ entry, chosen = some entry ∧
      s.controller.selection.engine = some entry.id ∧
      s.controller.selection.language =
        preferred? settings options (some ⟨"csharp", "C#"⟩) entry.descriptor.languages ∧
      s.controller.designTime = (options.designTime || settings.designTime) := by
  intro registry chosen
  obtain ⟨first, hfirst, hdescriptor⟩ :=
    first?_loadRegistry machine (searchPaths machine settings)
  have hstart := Session.selects_initial hfirst settings.controller .builtin machine
  have hfind (id : String) (languages : List Language) :
      (Language.find? id languages).isSome = true ↔
        ∃ language ∈ languages, language.id = id := by
    simp [Language.find?, List.find?_isSome]
  rcases setUp_cases hstart hfirst settings options with
    ⟨entry, next, hchosen, hoffered, hnext, hselects, hmode⟩ | ⟨⟨error, hrefused⟩, hmissing⟩
  · rw [hdescriptor] at hselects
    refine ⟨iff_of_true ⟨next, hnext⟩ ⟨entry, hchosen, fun id hid => ?_⟩, fun s hs => ?_⟩
    · exact (hfind id _).mp (hoffered id hid)
    · cases hnext.symm.trans hs
      exact ⟨entry, hchosen, congrArg Selection.engine hselects.selection,
        congrArg Selection.language hselects.selection, hmode⟩
  · refine ⟨iff_of_false ?_ ?_, fun s hs => ?_⟩
    · rintro ⟨s, hs⟩
      cases hrefused.symm.trans hs
    · rintro ⟨entry, hchosen, hoffered⟩
      obtain ⟨id, hid, hnone⟩ := hmissing entry hchosen
      have hsome := (hfind id _).mpr (hoffered id hid)
      simp [hnone] at hsome
    · cases hrefused.symm.trans hs

/-- The engine of a plugin that is asked for starts with the first language of the first engine,
though its own first language is another one. -/
theorem openMachine_keeps_language :
    let manifest := "[engine]\nid = \"razor\"\nname = \"Razor\"\ncommand = \"cat\"\n" ++
      "[[languages]]\nid = \"vb\"\nname = \"Visual Basic\"\n" ++
      "[[languages]]\nid = \"csharp\"\nname = \"C#\"\n"
    let machine : Machine := {
      files := ⟨[(["work"], .directory), (["work", "plugins"], .directory),
        (["work", "plugins", "spyglass-plugin.toml"], .file manifest.toUTF8 false)]⟩
      directory := ["work"] }
    let settings : InspectorSettings := { pluginPaths := ["plugins"] }
    let options : SelectionOptions := { engine := some "razor" }
    ∃ s, openMachine machine settings options = .ok s ∧
      s.controller.selection = ⟨some "razor", some ⟨"csharp", "C#"⟩⟩ ∧
      (offered s).head? = some ⟨"vb", "Visual Basic"⟩ := by
  intro manifest machine settings options
  have hshown : (openMachine machine settings options).toOption.map
      (fun s => (s.controller.selection, (offered s).head?)) =
        some (⟨some "razor", some ⟨"csharp", "C#"⟩⟩, some ⟨"vb", "Visual Basic"⟩) := by
    decide +kernel
  cases hopened : openMachine machine settings options with
  | error error =>
    rw [hopened] at hshown
    contradiction
  | ok s =>
    rw [hopened] at hshown
    exact ⟨s, rfl, Prod.mk.inj (Option.some.inj hshown)⟩

end Cli

end TemplateInspector
