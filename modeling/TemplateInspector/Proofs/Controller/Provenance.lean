import TemplateInspector.Proofs.Controller.Fate

/-!
# Where the shown source comes from

The generated source and the tree that are shown belong together: both come from one result of one
completed generation, or nothing is shown. They are replaced together when a result is written in
the language of its host, and cleared together when the engine declines or there is nothing to
generate. Whatever else happens leaves them as they are.
-/

namespace TemplateInspector

variable {σ : Type}

/-- The fates that clear what is shown: there was nothing to generate, or the engine declined. -/
inductive Fate.Clears : Option (Fate σ) → Prop
  | nothing : Clears (some .nothing)
  | declined (pending : PendingGeneration σ) : Clears (some (.completed pending .declined))

/-- The fates that leave alone what is shown. -/
inductive Fate.Spares (emitters : EmitterTable) : Option (Fate σ) → Prop
  /-- No attempt came to an end. -/
  | unconcerned : Spares emitters none
  /-- The engine could not be built. -/
  | unbuilt (error : EngineError) : Spares emitters (some (.unbuilt error))
  /-- The engine failed. -/
  | failed (pending : PendingGeneration σ) (error : EngineError) :
    Spares emitters (some (.completed pending (.failed error)))
  /-- The engine broke down. -/
  | panicked (pending : PendingGeneration σ) (message : Option String) :
    Spares emitters (some (.completed pending (.panicked message)))
  /-- The host has no language. -/
  | noLanguage {pending : PendingGeneration σ} (result : GenerationResult)
    (hlanguage : pending.host.language = none) :
    Spares emitters (some (.completed pending (.result result)))
  /-- The language of the host has no emitter. -/
  | noEmitter {pending : PendingGeneration σ} {language : Language} {error : LanguageError}
    (result : GenerationResult) (hlanguage : pending.host.language = some language)
    (hemitter : emitters.create language = .error error) :
    Spares emitters (some (.completed pending (.result result)))
  /-- The emitter fails. -/
  | unwritten {pending : PendingGeneration σ} {result : GenerationResult} {language : Language}
    {emitter : Emitter} {error : EmitError} (hlanguage : pending.host.language = some language)
    (hemitter : emitters.create language = .ok emitter)
    (hcode : emitter.emit result.code = .error error) :
    Spares emitters (some (.completed pending (.result result)))

/-- The fate that renders a source with a tree: the engine of a completed generation returned a
result with this tree, and the emitter for the language of the host wrote its unit as this
source. -/
inductive Fate.Renders (emitters : EmitterTable) : Option (Fate σ) → String × Option Block → Prop
  | written {pending : PendingGeneration σ} {result : GenerationResult} {language : Language}
    {emitter : Emitter} {code : String} (hlanguage : pending.host.language = some language)
    (hemitter : emitters.create language = .ok emitter)
    (hcode : emitter.emit result.code = .ok code) :
    Renders emitters (some (.completed pending (.result result))) (code, some result.document)

namespace Fate

variable {emitters : EmitterTable} {fate : Option (Fate σ)} {shown next : String × Option Block}

/-- Every fate renders something, clears what is shown, or leaves it alone. -/
theorem trichotomy (emitters : EmitterTable) (fate : Option (Fate σ)) :
    (∃ next, Renders emitters fate next) ∨ Clears fate ∨ Spares emitters fate := by
  rcases fate with _ | _ | error | ⟨pending, result | _ | error | message⟩
  · exact .inr (.inr .unconcerned)
  · exact .inr (.inl .nothing)
  · exact .inr (.inr (.unbuilt error))
  · cases hlanguage : pending.host.language with
    | none => exact .inr (.inr (.noLanguage result hlanguage))
    | some language =>
      cases hemitter : emitters.create language with
      | error error => exact .inr (.inr (.noEmitter result hlanguage hemitter))
      | ok emitter =>
        cases hcode : emitter.emit result.code with
        | error error => exact .inr (.inr (.unwritten hlanguage hemitter hcode))
        | ok code => exact .inl ⟨_, .written hlanguage hemitter hcode⟩
  · exact .inr (.inl (.declined pending))
  · exact .inr (.inr (.failed pending error))
  · exact .inr (.inr (.panicked pending message))

/-- What is rendered is shown. -/
theorem Renders.output (h : Renders emitters fate next) :
    fate.elim shown (Fate.output emitters shown) = next := by
  cases h with
  | written hlanguage hemitter hcode =>
    simp only [Option.elim_some, Fate.output, EmitterTable.render, hlanguage, hemitter, hcode]

/-- What is cleared is no longer shown. -/
theorem Clears.output (h : Clears fate) :
    fate.elim shown (Fate.output emitters shown) = ("", none) := by
  cases h <;> rfl

/-- What is left alone is still shown. -/
theorem Spares.output (h : Spares emitters fate) :
    fate.elim shown (Fate.output emitters shown) = shown := by
  cases h with
  | unconcerned | unbuilt | failed | panicked => rfl
  | noLanguage result hlanguage =>
    simp only [Option.elim_some, Fate.output, EmitterTable.render, hlanguage]
  | noEmitter result hlanguage hemitter =>
    simp only [Option.elim_some, Fate.output, EmitterTable.render, hlanguage, hemitter]
  | unwritten hlanguage hemitter hcode =>
    simp only [Option.elim_some, Fate.output, EmitterTable.render, hlanguage, hemitter, hcode]

end Fate

namespace Drive

/-- After a run the same is shown as before, or nothing is, or what an action of the run has
rendered. -/
theorem output_perform {d : Drive σ} (h : d.Coherent) (actions : List (Action σ)) :
    (d.perform actions).controller.output = d.controller.output ∨
      (d.perform actions).controller.output = ("", none) ∨
      ∃ before action after, actions = before ++ action :: after ∧
        Fate.Renders d.session.emitters ((d.perform before).fate? action)
          (d.perform actions).controller.output := by
  induction actions generalizing d with
  | nil => exact .inl rfl
  | cons action actions ih =>
    have hmeets := meets_step h action
    rcases ih (h.step action) with hsame | hempty | ⟨before, later, after, rfl, hrenders⟩
    · -- The rest of the run has changed nothing, so the first action decides.
      have hshown : (d.perform (action :: actions)).controller.output =
          (d.fate? action).elim d.controller.output
            (Fate.output d.session.emitters d.controller.output) := hsame.trans hmeets.output
      rw [hshown]
      rcases Fate.trichotomy d.session.emitters (d.fate? action) with
        ⟨next, hrenders⟩ | hclears | hspares
      · refine .inr (.inr ⟨[], action, actions, rfl, ?_⟩)
        rw [hrenders.output]
        exact hrenders
      · exact .inr (.inl hclears.output)
      · exact .inl hspares.output
    · exact .inr (.inl hempty)
    · rw [hmeets.emitters] at hrenders
      exact .inr (.inr ⟨action :: before, later, after, rfl, hrenders⟩)

/-- In every state that a run reaches nothing is shown, or the source and the tree that are shown
come from one result of one generation that the run has completed. An action replaces both if it
renders a result, with or without errors of the template, and clears both if the engine declines or
there was nothing to generate. Nothing else changes them: not an engine that fails, breaks down or
cannot be built, not a result that cannot be written, not an edit, and not a generation that is
given up. -/
theorem output_provenance (settings : ControllerSettings) (registry : Registry σ)
    (emitters : EmitterTable) (world : σ) (actions : List (Action σ)) :
    let start := start settings registry emitters world
    let last := start.perform actions
    let shown := last.controller.output
    (shown = ("", none) ∨ ∃ before action after, actions = before ++ action :: after ∧
        Fate.Renders emitters ((start.perform before).fate? action) shown) ∧
      (∀ action, (last.step action).controller.output ≠ shown →
        (∃ next, Fate.Renders emitters (last.fate? action) next) ∨
          Fate.Clears (last.fate? action)) ∧
      (∀ action next, Fate.Renders emitters (last.fate? action) next →
        (last.step action).controller.output = next) ∧
      (∀ action, Fate.Clears (last.fate? action) →
        (last.step action).controller.output = ("", none)) ∧
      (∀ action, Fate.Spares emitters (last.fate? action) →
        (last.step action).controller.output = shown) ∧
      (∀ edit now, Fate.Spares emitters (last.fate? (.edit edit now))) ∧
      Fate.Spares emitters (last.fate? .abandon) := by
  intro start last shown
  have hstart : start.Coherent := coherent_start settings registry emitters world
  have hlast : last.Coherent := hstart.perform actions
  have hemitters : last.session.emitters = emitters := (frame_perform hstart actions).1
  have houtput (action : Action σ) : (last.step action).controller.output =
      (last.fate? action).elim shown (Fate.output emitters shown) :=
    hemitters ▸ (meets_step hlast action).output
  refine ⟨?_, ?_, ?_, ?_, ?_, fun _ _ => .unconcerned, .unconcerned⟩
  · rcases output_perform hstart actions with hsame | hempty | hrenders
    · exact .inl hsame
    · exact .inl hempty
    · exact .inr hrenders
  · intro action hchanged
    rcases Fate.trichotomy emitters (last.fate? action) with hrenders | hclears | hspares
    · exact .inl hrenders
    · exact .inr hclears
    · exact absurd ((houtput action).trans hspares.output) hchanged
  · exact fun action next hrenders => (houtput action).trans hrenders.output
  · exact fun action hclears => (houtput action).trans hclears.output
  · exact fun action hspares => (houtput action).trans hspares.output

/-- A result with errors is rendered, an engine that breaks down afterwards leaves it alone, and one
that declines clears it. -/
theorem output_provenance_rehearsed :
    let start := rehearse [.errors, .panic none, .decline]
    let emitters := EmitterTable.register {} "text" (.plain "text")
    let shown : String × Option Block := ("x\n", some ⟨.document, ⟨0, 1⟩, "", []⟩)
    let edited := start.perform [.edit (.input (.text "x")) 7]
    let second := start.perform [.edit (.input (.text "x")) 7, .flush 1]
    let third := start.perform [.edit (.input (.text "x")) 7, .flush 1, .flush 0]
    ((edited.step (.flush 1)).controller.output ≠ edited.controller.output ∧
        ((∃ next, Fate.Renders emitters (edited.fate? (.flush 1)) next) ∨
          Fate.Clears (edited.fate? (.flush 1)))) ∧
      (Fate.Renders emitters (edited.fate? (.flush 1)) shown ∧
        (edited.step (.flush 1)).controller.output = shown) ∧
      (Fate.Spares emitters (second.fate? (.flush 0)) ∧
        (second.step (.flush 0)).controller.output = second.controller.output) ∧
      (Fate.Clears (third.fate? (.flush 5)) ∧
        (third.step (.flush 5)).controller.output = ("", none)) := by
  have hchanged : (((rehearse [.errors, .panic none, .decline]).perform
        [.edit (.input (.text "x")) 7]).step (.flush 1)).controller.output ≠
      ((rehearse [.errors, .panic none, .decline]).perform
        [.edit (.input (.text "x")) 7]).controller.output := by
    decide
  have hresult : ((rehearse [.errors, .panic none, .decline]).perform
      [.edit (.input (.text "x")) 7]).fate? (.flush 1) = some (.completed
        ⟨"echo", Rehearsal.engine 0, ⟨some ⟨"text", "Text"⟩, false⟩, "x"⟩
        (.result (Behavior.echo "x" false))) := by
    rfl
  have hpanicked : ((rehearse [.errors, .panic none, .decline]).perform
      [.edit (.input (.text "x")) 7, .flush 1]).fate? (.flush 0) = some (.completed
        ⟨"echo", Rehearsal.engine 0, ⟨some ⟨"text", "Text"⟩, false⟩, "x"⟩ (.panicked none)) := by
    rfl
  have hdeclined : ((rehearse [.errors, .panic none, .decline]).perform
      [.edit (.input (.text "x")) 7, .flush 1, .flush 0]).fate? (.flush 5) = some (.completed
        ⟨"echo", Rehearsal.engine 0, ⟨some ⟨"text", "Text"⟩, false⟩, "x"⟩ .declined) := by
    rfl
  have hemitter : (EmitterTable.register {} "text" (.plain "text")).create ⟨"text", "Text"⟩ =
      .ok (.plain "text") := rfl
  have hcode : (Emitter.plain "text").emit (Behavior.echo "x" false).code = .ok "x\n" := rfl
  intro start emitters shown edited second third
  have hrenders : Fate.Renders emitters (edited.fate? (.flush 1)) shown :=
    hresult ▸ .written rfl hemitter hcode
  have hspares : Fate.Spares emitters (second.fate? (.flush 0)) :=
    hpanicked ▸ .panicked _ none
  have hclears : Fate.Clears (third.fate? (.flush 5)) := hdeclined ▸ .declined _
  exact ⟨⟨hchanged, (output_provenance {} _ _ _ [.edit (.input (.text "x")) 7]).2.1 _ hchanged⟩,
    ⟨hrenders, (output_provenance {} _ _ _ [.edit (.input (.text "x")) 7]).2.2.1 _ _ hrenders⟩,
    ⟨hspares, (output_provenance {} _ _ _ [.edit (.input (.text "x")) 7, .flush 1]).2.2.2.2.1 _
      hspares⟩,
    ⟨hclears, (output_provenance {} _ _ _
      [.edit (.input (.text "x")) 7, .flush 1, .flush 0]).2.2.2.1 _ hclears⟩⟩

end Drive

end TemplateInspector
