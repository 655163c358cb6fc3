import TemplateInspector.Proofs.Registry.Reconciled

/-!
# Selections that fit the registered engines

A selection fits if its engine is registered and its language is that engine's own description of
it, or none if the engine describes no language. Whatever repairs a selection makes it fit, and
building an engine on request does not disturb that.
-/

namespace TemplateInspector

variable {σ : Type}

/-- A language that is looked up by the identifier of the one that was found is found again. -/
theorem Language.find?_id {id : String} {languages : List Language} {language : Language}
    (h : Language.find? id languages = some language) :
    Language.find? language.id languages = some language := by
  have hid : language.id = id := by simpa using List.find?_some h
  rw [hid, h]

/-- A description that is found is resolved to itself. -/
theorem resolveLanguage_of_find? {id : String} {languages : List Language} {language : Language}
    (h : Language.find? id languages = some language) :
    resolveLanguage (some language) languages = some language := by
  rw [resolveLanguage, Option.bind_some, Language.find?_id h]
  rfl

/-- The languages that may be selected with an engine: its own description of a language, or none
if it has no language. -/
def EngineDescriptor.Chooses (descriptor : EngineDescriptor) : Option Language → Prop
  | some language => descriptor.language? language.id = some language
  | none => descriptor.languages = []

/-- A language that is chosen is missing exactly if the engine has none. -/
theorem EngineDescriptor.Chooses.eq_none_iff {descriptor : EngineDescriptor}
    {language : Option Language} (h : descriptor.Chooses language) :
    language = none ↔ descriptor.languages = [] := by
  cases language with
  | none => exact iff_of_true rfl h
  | some language =>
    refine iff_of_false (by simp) fun hnone => ?_
    simp only [Chooses, EngineDescriptor.language?, Language.find?, hnone, List.find?_nil,
      reduceCtorEq] at h

/-- A repaired language may be selected. -/
theorem EngineDescriptor.chooses_resolveLanguage (descriptor : EngineDescriptor)
    (current : Option Language) :
    descriptor.Chooses (resolveLanguage current descriptor.languages) := by
  unfold resolveLanguage
  cases hfound : current.bind fun language => Language.find? language.id descriptor.languages with
  | some language =>
    obtain ⟨asked, -, hfind⟩ := Option.bind_eq_some_iff.mp hfound
    exact Language.find?_id hfind
  | none =>
    cases hlanguages : descriptor.languages with
    | nil => exact hlanguages
    | cons first others =>
      simp [Chooses, EngineDescriptor.language?, Language.find?, hlanguages]

namespace Selection

/-- The selected engine, if any, is registered, and the language may be selected with it. -/
def Fits (selection : Selection) (catalog : List EngineDescriptor) : Prop :=
  ∀ id, selection.engine = some id →
    ∃ descriptor, findEngine? catalog id = some descriptor ∧ descriptor.Chooses selection.language

/-- Whether a selection fits depends only on what the engines are found to be. -/
theorem Fits.of_findEngine? {selection : Selection} {catalog other : List EngineDescriptor}
    (h : selection.Fits catalog) (hfind : ∀ id, findEngine? other id = findEngine? catalog id) :
    selection.Fits other := by
  intro id hid
  rw [hfind id]
  exact h id hid

/-- A selection without an engine fits. -/
theorem fits_of_engine_none {selection : Selection} (h : selection.engine = none)
    (catalog : List EngineDescriptor) : selection.Fits catalog := by
  intro id hid
  rw [h] at hid
  cases hid

/-- A selection of a registered engine fits once its language is repaired. -/
theorem fits_ensureLanguage {selection : Selection} {catalog : List EngineDescriptor}
    (h : ∀ id, selection.engine = some id → (findEngine? catalog id).isSome = true) :
    (selection.ensureLanguage catalog).Fits catalog := by
  intro id hid
  rw [engine_ensureLanguage] at hid
  obtain ⟨descriptor, hfind⟩ := Option.isSome_iff_exists.mp (h id hid)
  have hdescriptor : selection.descriptor? catalog = some descriptor := by
    rw [descriptor?, hid, Option.bind_some, hfind]
  refine ⟨descriptor, hfind, ?_⟩
  rw [ensureLanguage, hdescriptor]
  exact descriptor.chooses_resolveLanguage selection.language

/-- A reconciled selection fits. -/
theorem fits_reconciled (selection : Selection) (catalog : List EngineDescriptor) :
    (selection.reconciled catalog).Fits catalog := by
  refine fits_ensureLanguage fun id hid => ?_
  simp only [reconciledEngine] at hid
  split at hid
  case h_1 descriptor hdescriptor =>
    rw [descriptor?, hid, Option.bind_some] at hdescriptor
    rw [hdescriptor]
    rfl
  case h_2 =>
    obtain ⟨first, hfirst, rfl⟩ := Option.map_eq_some_iff.mp hid
    obtain ⟨others, rfl⟩ := List.head?_eq_some_iff.mp hfirst
    simp [findEngine?]

/-- If no engine is selected, the language stays; an engine that is selected is registered, and the
language is repaired for it. -/
theorem selectEngine_cases {selection : Selection} {catalog : List EngineDescriptor}
    {id : Option String} {next : Selection × Bool}
    (h : selection.selectEngine id catalog = .ok next) :
    next.1 = { selection with engine := none } ∨
      ∃ name, (findEngine? catalog name).isSome = true ∧
        next.1 = ensureLanguage { selection with engine := some name } catalog := by
  cases id with
  | none =>
    cases h
    exact .inl rfl
  | some name =>
    simp only [selectEngine] at h
    split at h
    case isTrue hregistered =>
      cases h
      exact .inr ⟨name, hregistered, rfl⟩
    case isFalse => contradiction

/-- An engine that was selected fits. -/
theorem fits_of_selectEngine {selection : Selection} {catalog : List EngineDescriptor}
    {id : Option String} {next : Selection × Bool}
    (h : selection.selectEngine id catalog = .ok next) : next.1.Fits catalog := by
  rcases selectEngine_cases h with hnext | ⟨name, hregistered, hnext⟩
  · rw [hnext]
    exact fits_of_engine_none rfl catalog
  · rw [hnext]
    refine fits_ensureLanguage fun id hid => ?_
    cases hid
    exact hregistered

/-- A language is repaired for an engine that is registered. -/
theorem Fits.selectLanguage {selection : Selection} {catalog : List EngineDescriptor}
    (h : selection.Fits catalog) (language : Option Language) :
    (selection.selectLanguage language catalog).1.Fits catalog := by
  refine fits_ensureLanguage fun id hid => ?_
  obtain ⟨descriptor, hfind, -⟩ := h id hid
  rw [hfind]
  rfl

end Selection

namespace Registry

/-- An entry that is found has the identifier that was looked for. -/
theorem id_of_get? {registry : Registry σ} {id : String} {entry : EngineEntry σ}
    (h : registry.get? id = some entry) : entry.id = id := by
  simpa using List.find?_some h

/-- Asking an entry for its engine leaves its descriptor alone. -/
theorem descriptor_request (entry : EngineEntry σ) (world : σ) :
    (entry.request world).2.1.descriptor = entry.descriptor := by
  unfold EngineEntry.request
  split
  · rfl
  · split <;> rfl

/-- An entry that takes the place of one with the same descriptor is found in its stead. -/
theorem findEngine?_replace {registry : Registry σ} {old entry : EngineEntry σ}
    (hold : registry.get? entry.id = some old) (hdescriptor : entry.descriptor = old.descriptor)
    (id : String) :
    findEngine? (registry.replace entry).catalog id = findEngine? registry.catalog id := by
  have hid (other : EngineEntry σ) :
      (if other.id == entry.id then entry else other).id = other.id := by
    split
    case isTrue h => exact (beq_iff_eq.mp h).symm
    case isFalse => rfl
  rw [findEngine?_catalog, findEngine?_catalog, get?, replace, List.find?_map, Option.map_map]
  simp only [Function.comp_def, hid]
  cases hfound : registry.get? id with
  | none =>
    rw [get?] at hfound
    rw [hfound]
    rfl
  | some other =>
    have hother := id_of_get? hfound
    rw [get?] at hfound
    rw [hfound, Option.map_some, Option.map_some]
    split
    case isTrue h =>
      rw [beq_iff_eq.mp h] at hother
      rw [hother, get?, hfound, Option.some.injEq] at hold
      rw [hdescriptor, hold]
    case isFalse => rfl

/-- Asking for an engine leaves alone which engines are found, and the feed. -/
theorem findEngine?_instantiate (registry : Registry σ) (id : String) (world : σ) (name : String) :
    findEngine? (registry.instantiate id world).2.1.catalog name =
      findEngine? registry.catalog name := by
  unfold instantiate
  split
  case h_1 => rfl
  case h_2 entry hentry =>
    have hdescriptor := descriptor_request entry world
    have hold : registry.get? (entry.request world).2.1.id = some entry := by
      rw [EngineEntry.id, hdescriptor, ← EngineEntry.id, id_of_get? hentry, hentry]
    exact findEngine?_replace hold hdescriptor name

/-- Asking for an engine publishes nothing. -/
theorem feed_instantiate (registry : Registry σ) (id : String) (world : σ) :
    (registry.instantiate id world).2.1.feed = registry.feed := by
  unfold instantiate
  split <;> rfl

end Registry

end TemplateInspector
