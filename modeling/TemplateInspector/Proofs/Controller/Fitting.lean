import TemplateInspector.Proofs.Controller.Debt
import TemplateInspector.Proofs.Controller.Fate
import TemplateInspector.Proofs.Registry.Fitting

/-!
# Sessions with a fitting selection

An engine can be removed without the controller learning of it, and then the selection no longer
fits. As long as the registered engines stay what they are, no call leaves a selection behind that
does not fit, and a generation or a repair makes it fit in any case.
-/

namespace TemplateInspector

variable {σ : Type}

/-- A call turns a selection that fits into one that fits. -/
theorem Inputs.fits_give {inputs : Inputs} {catalog : List EngineDescriptor} {input : Input}
    {next : Inputs × Bool} (h : inputs.selection.Fits catalog)
    (hgive : inputs.give catalog input = .ok next) : next.1.selection.Fits catalog := by
  cases input with
  | text text =>
    cases hgive
    exact h
  | designTime designTime =>
    cases hgive
    exact h
  | language language =>
    cases hgive
    exact h.selectLanguage language
  | registryChanged =>
    cases hgive
    exact Selection.fits_reconciled inputs.selection catalog
  | engine id =>
    obtain ⟨made, hselect, rfl⟩ := selectEngine_of_give hgive
    exact Selection.fits_of_selectEngine hselect

namespace Session

/-- The selection of a session fits its registry. -/
def Fits (s : Session σ) : Prop :=
  s.controller.inputs.selection.Fits s.registry.catalog

/-- Whether a session is fitting depends on the selection and on what the engines are found to
be. -/
theorem Fits.of_eq {s s' : Session σ} (h : s.Fits)
    (hinputs : s'.controller.inputs = s.controller.inputs)
    (hfind : ∀ id, findEngine? s'.registry.catalog id = findEngine? s.registry.catalog id) :
    s'.Fits := by
  rw [Fits, hinputs]
  exact Selection.Fits.of_findEngine? h hfind

/-- An edit that leaves the registered engines as they are keeps a session fitting. -/
theorem Fits.edit {s : Session σ} (h : s.Fits) {now : Time} {edit : Edit σ}
    (hcatalog : (s.edit now edit).1.registry.catalog = s.registry.catalog) :
    (s.edit now edit).1.Fits := by
  rcases s.controller_edit now edit with ⟨hsame, -⟩ | ⟨input, next, hgive, htake, -⟩
  · exact h.of_eq (by rw [hsame]) (by simp [hcatalog])
  · rw [Fits, hcatalog, htake, Controller.inputs_take]
    exact Inputs.fits_give h hgive

/-- An input call is no change of the registry. -/
theorem registry_input (s : Session σ) (now : Time) (input : Input) :
    (s.edit now (.input input)).1.registry = s.registry := by
  simp only [Session.edit, input_eq]
  cases s.controller.inputs.give s.registry.catalog input <;> rfl

/-- An attempt starts with a selection that fits. -/
theorem fits_startAttempt (s : Session σ) : s.startAttempt.Fits := by
  rw [Fits, inputs_startAttempt]
  exact Selection.fits_reconciled s.controller.selection s.registry.catalog

/-- An attempt leaves the registry alone, unless it asks for an engine. -/
theorem Attempt.registry_cases {s s' : Session σ} {pending : Option (PendingGeneration σ)}
    (h : Attempt s s' pending) :
    s'.registry = s.registry ∨ ∃ id, s'.registry = (s.registry.instantiate id s.world).2.1 := by
  cases h with
  | nothing => exact .inl rfl
  | @unbuilt id _ _ _ htext hid hmade | @begun id _ _ _ _ htext hid hmade =>
    refine .inr ⟨id, ?_⟩
    rw [hmade]
    rfl

/-- However an attempt ends, the engines that are found are the same, and nothing is published. -/
theorem Attempt.registry {s s' : Session σ} {pending : Option (PendingGeneration σ)}
    (h : Attempt s s' pending) :
    (∀ id, findEngine? s'.registry.catalog id = findEngine? s.registry.catalog id) ∧
      s'.registry.feed = s.registry.feed := by
  rcases h.registry_cases with hsame | ⟨id, hasked⟩
  · rw [hsame]
    exact ⟨fun _ => rfl, rfl⟩
  · rw [hasked]
    exact ⟨s.registry.findEngine?_instantiate id s.world, s.registry.feed_instantiate id s.world⟩

/-- A generation that begins makes a session fitting and publishes nothing. -/
theorem fits_begin {s : Session σ} (h : s.controller.Coherent)
    (hlive : s.controller.flight ≠ .live) :
    s.begin.1.Fits ∧ s.begin.1.registry.feed = s.registry.feed := by
  have hattempt := attempt_concludeAttempt s.startAttempt
  obtain ⟨hfind, hfeed⟩ := hattempt.registry
  rw [begin_of_not_live h hlive]
  exact ⟨s.fits_startAttempt.of_eq hattempt.inputs.2 hfind, hfeed⟩

/-- Completing a generation keeps a session fitting. -/
theorem Fits.complete {s : Session σ} (h : s.Fits) (pending : PendingGeneration σ) (now : Time) :
    (s.complete pending now).Fits :=
  h.of_eq (s.inputs_complete pending now).2 fun _ => rfl

/-- A generation that is run has begun, and is completed at once unless it ended before an engine
was called. -/
theorem run_cases (s : Session σ) (now : Time) :
    s.run now = s.begin.1 ∨ ∃ pending, s.run now = s.begin.1.complete pending now := by
  rcases hs : s.begin with ⟨s', _ | pending⟩
  · exact .inl (by simp only [run, hs])
  · exact .inr ⟨pending, by simp only [run, hs]⟩

/-- A generation that is begun and completed at once makes a session fitting and publishes
nothing. -/
theorem fits_run {s : Session σ} (h : s.controller.Coherent)
    (hlive : s.controller.flight ≠ .live) (now : Time) :
    (s.run now).Fits ∧ (s.run now).registry.feed = s.registry.feed := by
  obtain ⟨hfits, hfeed⟩ := fits_begin h hlive
  rcases s.run_cases now with hrun | ⟨pending, hrun⟩
  · rw [hrun]
    exact ⟨hfits, hfeed⟩
  · rw [hrun]
    exact ⟨hfits.complete pending now, hfeed⟩

/-- Reclaiming what was given up keeps a session fitting. -/
theorem Fits.reclaimAt {s : Session σ} (h : s.Fits) (now : Time) : (s.reclaimAt now).Fits := by
  have hinputs := s.controller.inputs_reclaim
  rcases hreclaim : s.controller.reclaim with ⟨c, _ | _⟩
  all_goals
    rw [hreclaim] at hinputs
    simp only [Session.reclaimAt, hreclaim]
    exact h.of_eq (by simpa using hinputs) fun _ => rfl

end Session

namespace Drive

end Drive

end TemplateInspector
