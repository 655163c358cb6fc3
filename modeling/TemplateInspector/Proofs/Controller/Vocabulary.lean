import TemplateInspector.Proofs.Controller.Fitting

/-!
# Languages in play

Every language that a session shows or selects was named by an engine or by a call. So a property of
the languages at the start, of those of the engines that are registered and of those that calls name
is a property of all languages in play.
-/

namespace TemplateInspector

variable {σ : Type} {P : Language → Prop}

/-- All languages of a catalog have a property. -/
def SpeaksOnly (P : Language → Prop) (catalog : List EngineDescriptor) : Prop :=
  ∀ descriptor ∈ catalog, ∀ language ∈ descriptor.languages, P language

/-- The languages of the selected engine are languages of the catalog. -/
theorem Selection.mem_languages {selection : Selection} {catalog : List EngineDescriptor}
    (h : SpeaksOnly P catalog) : ∀ language ∈ selection.languages catalog, P language := by
  intro language hlanguage
  cases hdescriptor : selection.descriptor? catalog with
  | none => simp [languages, hdescriptor] at hlanguage
  | some descriptor =>
    obtain ⟨id, -, hfind⟩ := Option.bind_eq_some_iff.mp hdescriptor
    refine h descriptor (List.mem_of_find?_eq_some hfind) language ?_
    simpa [languages, hdescriptor] using hlanguage

/-- A language is repaired to one that is supported. -/
theorem mem_of_resolveLanguage {current : Option Language} {supported : List Language}
    {language : Language} (h : resolveLanguage current supported = some language) :
    language ∈ supported := by
  unfold resolveLanguage at h
  cases hfound : current.bind fun asked => Language.find? asked.id supported with
  | some found =>
    obtain ⟨asked, -, hfind⟩ := Option.bind_eq_some_iff.mp hfound
    rw [hfound] at h
    cases h
    exact List.mem_of_find?_eq_some hfind
  | none =>
    rw [hfound] at h
    exact List.mem_of_head? h

/-- Repairing a language brings in none but those of the catalog. -/
theorem Selection.speaks_ensureLanguage {selection : Selection} {catalog : List EngineDescriptor}
    (h : SpeaksOnly P catalog) (hlanguage : ∀ language ∈ selection.language, P language) :
    ∀ language ∈ (selection.ensureLanguage catalog).language, P language := by
  rw [ensureLanguage]
  split
  case h_1 descriptor hdescriptor =>
    obtain ⟨id, -, hfind⟩ := Option.bind_eq_some_iff.mp hdescriptor
    intro language hmem
    exact h descriptor (List.mem_of_find?_eq_some hfind) language (mem_of_resolveLanguage hmem)
  case h_2 => exact hlanguage

/-- The languages that an input call names have a property. -/
def Input.Speaks (P : Language → Prop) : Input → Prop
  | .language given => ∀ language ∈ given, P language
  | .text _ | .engine _ | .designTime _ | .registryChanged => True

/-- An input call brings in no languages but those that it names and those of the catalog. -/
theorem Inputs.speaks_give {inputs : Inputs} {catalog : List EngineDescriptor} {input : Input}
    {next : Inputs × Bool} (h : SpeaksOnly P catalog)
    (hlanguage : ∀ language ∈ inputs.selection.language, P language) (hinput : input.Speaks P)
    (hgive : inputs.give catalog input = .ok next) :
    ∀ language ∈ next.1.selection.language, P language := by
  cases input with
  | text | designTime =>
    cases hgive
    exact hlanguage
  | language language =>
    cases hgive
    exact Selection.speaks_ensureLanguage h hinput
  | registryChanged =>
    cases hgive
    exact Selection.speaks_ensureLanguage h hlanguage
  | engine id =>
    obtain ⟨made, hselect, rfl⟩ := selectEngine_of_give hgive
    simp only [select]
    rcases Selection.selectEngine_cases hselect with hmade | ⟨name, -, hmade⟩
    · rw [hmade]
      exact hlanguage
    · rw [hmade]
      exact Selection.speaks_ensureLanguage h hlanguage

namespace Registry

/-- An engine that is registered brings in its languages. -/
theorem speaks_register {registry next : Registry σ} {entry : EngineEntry σ}
    (h : SpeaksOnly P registry.catalog)
    (hentry : ∀ language ∈ entry.descriptor.languages, P language)
    (hnext : registry.register entry = .ok next) : SpeaksOnly P next.catalog := by
  unfold register at hnext
  split at hnext
  · contradiction
  · cases hnext
    intro descriptor hdescriptor
    simp only [catalog, List.map_append, List.mem_append, List.map_cons, List.map_nil,
      List.mem_singleton] at hdescriptor
    rcases hdescriptor with hold | rfl
    · exact h descriptor hold
    · exact hentry

/-- Removing an engine brings in nothing. -/
theorem speaks_unregister {registry : Registry σ} (h : SpeaksOnly P registry.catalog)
    (id : String) : SpeaksOnly P (registry.unregister id).2.catalog := by
  unfold unregister
  split
  · intro descriptor hdescriptor
    obtain ⟨entry, hentry, rfl⟩ := List.mem_map.mp hdescriptor
    exact h _ (List.mem_map_of_mem (List.mem_of_mem_eraseP hentry))
  · exact h

/-- Asking for an engine brings in nothing. -/
theorem speaks_instantiate {registry : Registry σ} (h : SpeaksOnly P registry.catalog)
    (id : String) (world : σ) : SpeaksOnly P (registry.instantiate id world).2.1.catalog := by
  unfold instantiate
  split
  case h_1 => exact h
  case h_2 found hfound =>
    have hdescriptor := descriptor_request found world
    have hentry : found.descriptor ∈ registry.catalog :=
      List.mem_map_of_mem (List.mem_of_find?_eq_some hfound)
    intro descriptor hmem
    simp only [catalog, replace, List.map_map, List.mem_map, Function.comp_apply] at hmem
    obtain ⟨old, hold, rfl⟩ := hmem
    split
    · rw [hdescriptor]
      exact h _ hentry
    · exact h _ (List.mem_map_of_mem hold)

end Registry

/-- The languages that an edit names have a property. -/
def Edit.Speaks (P : Language → Prop) : Edit σ → Prop
  | .input call => call.Speaks P
  | .register entry => ∀ language ∈ entry.descriptor.languages, P language
  | .unregister _ | .reportFailure _ => True

namespace Session

/-- The selected language and the languages of all registered engines have a property. -/
structure Speaks (P : Language → Prop) (s : Session σ) : Prop where
  /-- The selected language has it. -/
  language : ∀ language ∈ s.controller.inputs.selection.language, P language
  /-- The languages of the engines have it. -/
  catalog : SpeaksOnly P s.registry.catalog

/-- Which languages are in play depends on the inputs and the registered engines. -/
theorem Speaks.of_eq {s s' : Session σ} (h : s.Speaks P)
    (hinputs : s'.controller.inputs = s.controller.inputs)
    (hcatalog : SpeaksOnly P s'.registry.catalog) : s'.Speaks P :=
  ⟨hinputs ▸ h.language, hcatalog⟩

/-- An edit brings in no languages but those that it names. -/
theorem Speaks.edit {s : Session σ} (h : s.Speaks P) (edit : Edit σ) (hedit : edit.Speaks P)
    (now : Time) : (s.edit now edit).1.Speaks P := by
  cases edit with
  | input input =>
    simp only [Session.edit, input_eq]
    cases hgive : s.controller.inputs.give s.registry.catalog input with
    | error error => exact h
    | ok next =>
      refine ⟨?_, h.catalog⟩
      simp only [Prod.map_fst, id_eq, Controller.inputs_take]
      exact Inputs.speaks_give h.catalog h.language hedit hgive
  | register entry =>
    simp only [Session.edit, register]
    cases hnext : s.registry.register entry with
    | error error => exact h
    | ok next => exact h.of_eq rfl (Registry.speaks_register h.catalog hedit hnext)
  | unregister id => exact h.of_eq rfl (Registry.speaks_unregister h.catalog id)
  | reportFailure error => exact h.of_eq rfl h.catalog

/-- An attempt brings in nothing, however it ends. -/
theorem Attempt.speaks {s s' : Session σ} {pending : Option (PendingGeneration σ)}
    (hattempt : Attempt s s' pending) (h : s.Speaks P) : s'.Speaks P := by
  refine h.of_eq hattempt.inputs.2 ?_
  rcases hattempt.registry_cases with hsame | ⟨id, hasked⟩
  · rw [hsame]
    exact h.catalog
  · rw [hasked]
    exact Registry.speaks_instantiate h.catalog id s.world

/-- The beginning of a generation brings in nothing. -/
theorem Speaks.begin {s : Session σ} (h : s.Speaks P) : s.begin.1.Speaks P := by
  by_cases hgenerating : s.controller.reclaim.1.state = .generating
  · rw [begin_of_generating hgenerating]
    exact h.of_eq s.controller.inputs_reclaim h.catalog
  · rw [begin_of_not_generating hgenerating]
    have hstart : s.startAttempt.Speaks P := by
      refine ⟨?_, h.catalog⟩
      rw [inputs_startAttempt]
      exact Selection.speaks_ensureLanguage h.catalog h.language
    exact (attempt_concludeAttempt s.startAttempt).speaks hstart

/-- Nor does its end. -/
theorem Speaks.complete {s : Session σ} (h : s.Speaks P) (pending : PendingGeneration σ)
    (now : Time) : (s.complete pending now).Speaks P :=
  h.of_eq (s.inputs_complete pending now).2 h.catalog

end Session

end TemplateInspector
