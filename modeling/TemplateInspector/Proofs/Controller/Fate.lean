import TemplateInspector.Proofs.Controller.Coherence
import TemplateInspector.Proofs.Registry.Reconciled

/-!
# What becomes of an attempt

An attempt at a generation comes to nothing before an engine runs, because there is nothing to
generate or because the engine cannot be built, or its generation is completed with what the engine
came to. This fate is read off what the attempt finds: the template, the registered engines, what
the registry answers to the request for the selected one, and what that engine answers. It decides
what is shown afterwards, which engine was called and whether a generation is counted.
-/

namespace TemplateInspector

variable {σ : Type}

/-- What became of an attempt. -/
inductive Fate (σ : Type)
  /-- There was nothing to generate. -/
  | nothing
  /-- The engine could not be built. -/
  | unbuilt (error : EngineError)
  /-- A generation was completed, and its engine came to an outcome. -/
  | completed (pending : PendingGeneration σ) (outcome : Outcome)

namespace Fate

/-- The source and tree that are shown after a fate, given those that were shown before. Nothing is
shown if there was nothing to generate or the engine declined. A result is shown if it can be
written in the language of the host. In all other cases what was shown stays. -/
def output (emitters : EmitterTable) (shown : String × Option Block) :
    Fate σ → String × Option Block
  | nothing | completed _ .declined => ("", none)
  | completed pending (.result result) =>
    match emitters.render pending.host.language result.code with
    | .ok code => (code, some result.document)
    | .error _ => shown
  | unbuilt _ | completed _ (.failed _) | completed _ (.panicked _) => shown

/-- What is shown of a completed generation is the source and tree of its display. -/
theorem output_completed (emitters : EmitterTable) (code : String) (tree : Option Block)
    (pending : PendingGeneration σ) (outcome : Outcome) :
    (completed pending outcome).output emitters (code, tree) =
      ((outcome.display emitters pending.host.language code tree).code,
        (outcome.display emitters pending.host.language code tree).tree) := by
  cases outcome with
  | result result =>
    simp only [output, Outcome.display]
    cases emitters.render pending.host.language result.code with
    | error error => rfl
    | ok text =>
      unfold Display.ofResult
      cases result.success <;> rfl
  | declined => rfl
  | failed error => rfl
  | panicked message => rfl

/-- The generation that was completed, if one was. -/
def generations : Option (Fate σ) → List (PendingGeneration σ)
  | some (completed pending _) => [pending]
  | _ => []

end Fate

/-- What an engine was asked for, if an engine was run. -/
def Activity.request? : Activity → Option Request
  | .called request => some request
  | _ => none

namespace Controller

/-- Reclaiming leaves the settings, the count and what is shown alone. -/
theorem frame_reclaim (c : Controller) :
    c.reclaim.1.settings = c.settings ∧ c.reclaim.1.generations = c.generations ∧
      c.reclaim.1.output = c.output := by
  unfold reclaim
  split <;> exact ⟨rfl, rfl, rfl⟩

/-- Taking note of a change leaves the settings and the count alone. -/
theorem frame_markChanged (c : Controller) (now : Time) :
    (c.markChanged now).settings = c.settings ∧
      (c.markChanged now).generations = c.generations := by
  obtain ⟨hsettings, hgenerations, -⟩ := c.frame_reclaim
  rw [markChanged_eq]
  split <;> exact ⟨hsettings, hgenerations⟩

/-- Taking over inputs leaves the settings and the count alone. -/
theorem frame_take (c : Controller) (next : Inputs × Bool) (now : Time) :
    (c.take next now).settings = c.settings ∧ (c.take next now).generations = c.generations := by
  unfold take
  split
  · exact frame_markChanged ..
  · exact ⟨rfl, rfl⟩

end Controller

namespace Session

/-- What engines were asked for, in order. -/
def calls (s : Session σ) : List Request :=
  s.history.filterMap Activity.request?

/-- What the registry answers when an attempt asks for the engine of the reconciled selection. -/
def supply? (s : Session σ) : Option (Instantiation σ) :=
  (s.controller.selection.reconciled s.registry.catalog).engine.bind fun id =>
    (s.registry.instantiate id s.world).1

/-- The fate of an attempt that comes to nothing before an engine runs. -/
def setback? (s : Session σ) : Option (Fate σ) :=
  if s.controller.text.isEmpty || s.registry.isEmpty then some .nothing
  else
    match s.supply? with
    | some (.failed error) => some (.unbuilt error)
    | _ => none

/-- The fate of a generation that is completed now. -/
def conclusion (s : Session σ) (pending : PendingGeneration σ) : Fate σ :=
  .completed pending (pending.engine.generate pending.source pending.host s.world).1

/-- The session after what was given up is reclaimed. -/
def reclaimed (s : Session σ) : Session σ :=
  { s with controller := s.controller.reclaim.1 }

/-- The fate of an attempt whose generation is completed as soon as it has begun. -/
def fate? (s : Session σ) : Option (Fate σ) :=
  s.setback?.or (s.begin.2.map s.begin.1.conclusion)

@[simp] theorem calls_record (s : Session σ) (activities : List Activity) :
    (s.record activities).calls = s.calls ++ activities.filterMap Activity.request? := by
  simp only [calls, history_record, List.filterMap_append]

/-- An attempt has begun: no engine was called, no generation was counted, the timer is stopped and
no change is recorded. -/
structure Prepares (s s' : Session σ) : Prop where
  /-- No engine was called. -/
  calls : s'.calls = s.calls
  /-- No generation was counted. -/
  generations : s'.controller.generations = s.controller.generations
  /-- The emitters are the same. -/
  emitters : s'.emitters = s.emitters
  /-- The settings are the same. -/
  settings : s'.controller.settings = s.controller.settings
  /-- The timer is stopped. -/
  deadline : s'.controller.timer.deadline = none
  /-- No change is recorded. -/
  recorded : s'.controller.changedInFlight = false

/-- Starting an attempt prepares it. What was shown is still shown. -/
theorem prepares_startAttempt {s : Session σ} (h : s.controller.Coherent)
    (hlive : s.controller.flight ≠ .live) :
    s.Prepares s.startAttempt ∧ s.startAttempt.controller.output = s.controller.output := by
  obtain ⟨hsettings, hgenerations, houtput⟩ := s.controller.frame_reclaim
  obtain ⟨hgrounded, hrecorded⟩ := grounded_startAttempt h hlive
  refine ⟨⟨?_, hgenerations, rfl, hsettings, hgrounded.timer, hrecorded⟩, houtput⟩
  simp [startAttempt, calls, Activity.request?]

/-- However an attempt ends, it calls no engine, counts no generation and sets no timer. -/
theorem Attempt.prepares {s s' s'' : Session σ} {pending : Option (PendingGeneration σ)}
    (h : s.Prepares s') (hattempt : Attempt s' s'' pending) : s.Prepares s'' := by
  cases hattempt with
  | nothing => exact ⟨h.calls, h.generations, h.emitters, h.settings, h.deadline, h.recorded⟩
  | unbuilt =>
    refine ⟨?_, h.generations, h.emitters, h.settings, h.deadline, h.recorded⟩
    rw [← h.calls]
    simp [calls, Activity.request?]
  | @begun _ instantiation =>
    refine ⟨?_, h.generations, h.emitters, h.settings, h.deadline, h.recorded⟩
    rw [← h.calls]
    cases instantiation <;> simp [calls, Instantiation.activities, Activity.request?]

/-- Beginning a generation prepares it, unless one is held. -/
theorem prepares_begin {s : Session σ} (h : s.controller.Coherent)
    (hlive : s.controller.flight ≠ .live) : s.Prepares s.begin.1 := by
  rw [begin_of_not_live h hlive]
  exact (attempt_concludeAttempt s.startAttempt).prepares (prepares_startAttempt h hlive).1

/-- An attempt starts from the inputs of its session, with the selection reconciled. -/
theorem inputs_startAttempt (s : Session σ) :
    s.startAttempt.controller.inputs =
      { s.controller.inputs with
        selection := s.controller.selection.reconciled s.registry.catalog } := by
  have h := s.controller.inputs_reclaim
  simp only [Controller.inputs, Inputs.mk.injEq] at h
  obtain ⟨htext, hselection, hmode⟩ := h
  simp only [startAttempt, controller_record, Controller.startAttempt, Controller.inputs, htext,
    hselection, hmode]

/-- The text, the selection and the mode that an attempt starts with. -/
theorem fields_startAttempt (s : Session σ) :
    s.startAttempt.controller.text = s.controller.text ∧
      s.startAttempt.controller.selection =
        s.controller.selection.reconciled s.registry.catalog ∧
      s.startAttempt.controller.designTime = s.controller.designTime := by
  simpa only [Controller.inputs, Inputs.mk.injEq] using s.inputs_startAttempt

/-- What an attempt hands to the engine that the registry supplies: the template, the language of
the reconciled selection, and the mode. -/
def offer (s : Session σ) (id : String) (engine : Engine σ) : PendingGeneration σ where
  engineId := id
  engine
  host := {
    language := (s.controller.selection.reconciled s.registry.catalog).language
    designTime := s.controller.designTime }
  source := s.controller.text

/-- What the registry answers for the selected engine is the supply, and then it is not empty. -/
theorem supply?_of_instantiate {s : Session σ} {id : String} {instantiation : Instantiation σ}
    {registry : Registry σ} {world : σ}
    (hid : (s.controller.selection.reconciled s.registry.catalog).engine = some id)
    (h : s.registry.instantiate id s.world = (some instantiation, registry, world)) :
    s.supply? = some instantiation ∧ s.registry.isEmpty = false := by
  refine ⟨by simp only [supply?, hid, Option.bind_some, h], ?_⟩
  cases hempty : s.registry.isEmpty with
  | false => rfl
  | true =>
    have hnone := Registry.get?_of_isEmpty hempty id
    simp only [Registry.instantiate, hnone, Prod.mk.injEq, reduceCtorEq, false_and] at h

/-- The three ends of an attempt that begins: there is nothing to generate, and nothing is shown;
the engine cannot be built, and what was shown stays; or a generation takes off with the engine that
the registry supplies, and what was shown stays for now. -/
theorem Attempt.ends {s s' : Session σ} {pending : Option (PendingGeneration σ)}
    (h : Attempt s.startAttempt s' pending) :
    (s.setback? = some .nothing ∧ pending = none ∧ s'.controller.output = ("", none)) ∨
      (∃ error, s.setback? = some (.unbuilt error) ∧ pending = none ∧
        s'.controller.output = s.startAttempt.controller.output) ∨
      ∃ id instantiation engine, s.setback? = none ∧
        (s.controller.selection.reconciled s.registry.catalog).engine = some id ∧
        s.supply? = some instantiation ∧ instantiation.engine = .ok engine ∧
        pending = some (s.offer id engine) ∧
        s'.controller.output = s.startAttempt.controller.output := by
  obtain ⟨htext, hselection, hmode⟩ := s.fields_startAttempt
  have hregistry : s.startAttempt.registry = s.registry := rfl
  have hworld : s.startAttempt.world = s.world := rfl
  cases h with
  | nothing hnothing =>
    refine .inl ⟨?_, rfl, rfl⟩
    have hempty : (s.controller.text.isEmpty || s.registry.isEmpty) = true := by
      rw [htext, hselection, hregistry] at hnothing
      rcases hnothing with hempty | hunregistered
      · rw [hempty, Bool.true_or]
      · -- A reconciled selection without an entry means that nothing is registered.
        cases hany : s.registry.isEmpty with
        | true => exact Bool.or_true _
        | false =>
          obtain ⟨id, entry, hid, hentry⟩ :=
            Registry.exists_get?_reconciled hany s.controller.selection
          rw [hunregistered id hid] at hentry
          contradiction
    simp only [setback?, hempty, ite_true]
  | @unbuilt id error registry world hsome hid hmade =>
    rw [htext] at hsome
    rw [hselection] at hid
    rw [hregistry, hworld] at hmade
    obtain ⟨hsupply, hany⟩ := supply?_of_instantiate hid hmade
    refine .inr (.inl ⟨error, ?_, rfl, rfl⟩)
    simp only [setback?, hsome, hany, Bool.or_self, Bool.false_eq_true, ite_false, hsupply]
  | @begun id instantiation engine registry world hsome hid hmade hengine =>
    rw [htext] at hsome
    rw [hselection] at hid
    rw [hregistry, hworld] at hmade
    obtain ⟨hsupply, hany⟩ := supply?_of_instantiate hid hmade
    refine .inr (.inr ⟨id, instantiation, engine, ?_, hid, hsupply, hengine, ?_, rfl⟩)
    · cases instantiation with
      | failed error => simp only [Instantiation.engine, reduceCtorEq] at hengine
      | built made | kept made =>
        simp only [setback?, hsome, hany, Bool.or_self, Bool.false_eq_true, ite_false, hsupply]
    · simp only [offer, Controller.host, htext, hselection, hmode]

/-- What an attempt finds decides how its beginning ends. -/
theorem begin_ends {s : Session σ} (h : s.controller.Coherent)
    (hlive : s.controller.flight ≠ .live) :
    (s.setback? = some .nothing ∧ s.begin.2 = none ∧ s.begin.1.controller.output = ("", none)) ∨
      (∃ error, s.setback? = some (.unbuilt error) ∧ s.begin.2 = none ∧
        s.begin.1.controller.output = s.controller.output) ∨
      ∃ id instantiation engine, s.setback? = none ∧
        (s.controller.selection.reconciled s.registry.catalog).engine = some id ∧
        s.supply? = some instantiation ∧ instantiation.engine = .ok engine ∧
        s.begin.2 = some (s.offer id engine) ∧
        s.begin.1.controller.output = s.controller.output := by
  have hends := (attempt_concludeAttempt s.startAttempt).ends
  rw [← begin_of_not_live h hlive, (prepares_startAttempt h hlive).2] at hends
  exact hends

/-- The session has gone on and met a fate, or none: the engine of a completed generation was called
and its generation counted, and the fate decides what is shown. -/
structure Meets (s : Session σ) (fate : Option (Fate σ)) (s' : Session σ) : Prop where
  /-- The engines of completed generations were called, and no others. -/
  calls : s'.calls = s.calls ++ (Fate.generations fate).map PendingGeneration.request
  /-- Completed generations were counted, and nothing else. -/
  count : s'.controller.generations =
    s.controller.generations + (Fate.generations fate).length
  /-- What is shown is what the fate makes of what was shown. -/
  output : s'.controller.output =
    fate.elim s.controller.output (Fate.output s.emitters s.controller.output)
  /-- The emitters are the same. -/
  emitters : s'.emitters = s.emitters
  /-- The settings are the same. -/
  settings : s'.controller.settings = s.controller.settings

theorem Meets.refl (s : Session σ) : s.Meets none s :=
  ⟨by simp [Fate.generations], rfl, rfl, rfl, rfl⟩

/-- A fate is met also after the session has gone on without any. -/
theorem Meets.trans {s s' s'' : Session σ} {fate : Option (Fate σ)} (h : s.Meets none s')
    (h' : s'.Meets fate s'') : s.Meets fate s'' := by
  have hcalls : s'.calls = s.calls := by simpa [Fate.generations] using h.calls
  have hcount : s'.controller.generations = s.controller.generations := h.count
  have houtput : s'.controller.output = s.controller.output := h.output
  refine ⟨?_, ?_, ?_, h'.emitters.trans h.emitters, h'.settings.trans h.settings⟩
  · rw [h'.calls, hcalls]
  · rw [h'.count, hcount]
  · rw [h'.output, houtput, h.emitters]

/-- Reclaiming what was given up meets no fate. -/
theorem meets_reclaimed (s : Session σ) : s.Meets none s.reclaimed := by
  obtain ⟨hsettings, hgenerations, houtput⟩ := s.controller.frame_reclaim
  exact ⟨by simp [calls, reclaimed, Fate.generations], hgenerations, houtput, rfl, hsettings⟩

/-- Taking note of a change meets no fate. -/
theorem meets_markChanged (s : Session σ) (now : Time) :
    s.Meets none { s with controller := s.controller.markChanged now } := by
  obtain ⟨hsettings, hgenerations⟩ := s.controller.frame_markChanged now
  exact ⟨by simp [calls, Fate.generations], hgenerations, s.controller.output_markChanged now, rfl,
    hsettings⟩

/-- Reclaiming at a time meets no fate. -/
theorem meets_reclaimAt (s : Session σ) (now : Time) : s.Meets none (s.reclaimAt now) := by
  have hreclaimed := s.meets_reclaimed
  unfold reclaimed at hreclaimed
  rcases hreclaim : s.controller.reclaim with ⟨c, recorded⟩
  rw [hreclaim] at hreclaimed
  cases recorded with
  | true =>
    simp only [reclaimAt, hreclaim]
    exact hreclaimed.trans (meets_markChanged { s with controller := c } now)
  | false =>
    simp only [reclaimAt, hreclaim]
    exact hreclaimed

/-- Edits meet no fate. -/
theorem meets_edit (s : Session σ) (now : Time) (edit : Edit σ) :
    s.Meets none (s.edit now edit).1 := by
  obtain ⟨-, hemitters, houtput⟩ := s.frame_edit now edit
  have hcalls : (s.edit now edit).1.calls = s.calls := by
    rw [calls, history_edit, calls]
  have hframe : (s.edit now edit).1.controller.generations = s.controller.generations ∧
      (s.edit now edit).1.controller.settings = s.controller.settings := by
    rcases s.controller_edit now edit with ⟨hsame, -⟩ | ⟨input, next, -, htake, -⟩
    · rw [hsame]
      exact ⟨rfl, rfl⟩
    · rw [htake]
      exact (s.controller.frame_take next now).symm
  exact ⟨by simp [hcalls, Fate.generations], hframe.1, houtput, hemitters, hframe.2⟩

/-- An attempt that comes to nothing completes no generation. -/
theorem generations_setback? (s : Session σ) : Fate.generations s.setback? = [] := by
  unfold setback?
  split
  · rfl
  · split <;> rfl

/-- The beginning of a generation meets the fate of an attempt that comes to nothing. -/
theorem meets_begin {s : Session σ} (h : s.controller.Coherent)
    (hlive : s.controller.flight ≠ .live) : s.Meets s.setback? s.begin.1 := by
  have hprepares := prepares_begin h hlive
  have hnone := s.generations_setback?
  refine ⟨?_, ?_, ?_, hprepares.emitters, hprepares.settings⟩
  · rw [hnone, hprepares.calls, List.map_nil, List.append_nil]
  · rw [hnone, hprepares.generations, List.length_nil, Nat.add_zero]
  · rcases begin_ends h hlive with ⟨hfate, -, houtput⟩ | ⟨error, hfate, -, houtput⟩ |
      ⟨id, instantiation, engine, hfate, -, -, -, -, houtput⟩ <;>
      rw [hfate, houtput] <;> rfl

/-- A completed generation meets what its engine comes to. -/
theorem meets_complete (s : Session σ) (pending : PendingGeneration σ) (now : Time) :
    s.Meets (some (s.conclusion pending)) (s.complete pending now) := by
  have hframe : (s.complete pending now).controller.settings = s.controller.settings ∧
      (s.complete pending now).controller.generations = s.controller.generations + 1 := by
    simp only [complete, controller_record, Controller.land_eq]
    split
    · exact Controller.frame_markChanged ..
    · exact ⟨rfl, rfl⟩
  refine ⟨?_, hframe.2, ?_, rfl, hframe.1⟩
  · simp [complete, conclusion, Fate.generations, calls, Activity.request?]
  · simp only [complete, controller_record, Controller.output_land]
    exact (Fate.output_completed ..).symm

/-- A generation that is begun and completed at once meets the fate of its attempt. -/
theorem meets_run {s : Session σ} (h : s.controller.Coherent)
    (hlive : s.controller.flight ≠ .live) (now : Time) : s.Meets s.fate? (s.run now) := by
  have hmeets := meets_begin h hlive
  have hends := begin_ends h hlive
  rcases hs : s.begin with ⟨s', pending⟩
  simp only [hs] at hmeets hends
  rcases hends with ⟨hfate, rfl, -⟩ | ⟨error, hfate, rfl, -⟩ |
    ⟨id, instantiation, engine, hfate, -, -, -, rfl, -⟩
  · simpa only [run, fate?, hs, hfate, Option.some_or] using hmeets
  · simpa only [run, fate?, hs, hfate, Option.some_or] using hmeets
  · rw [hfate] at hmeets
    simp only [run, fate?, hs, hfate, Option.none_or, Option.map_some]
    exact hmeets.trans (s'.meets_complete (s.offer id engine) now)

/-- Polling meets a fate only if it tells that it has run a generation. -/
theorem meets_poll {s : Session σ} (h : s.controller.Coherent) (now : Time) :
    s.Meets (if (s.poll now).2 then (s.reclaimAt now).fate? else none) (s.poll now).1 := by
  have hreclaimed := s.meets_reclaimAt now
  obtain ⟨hcoherent, -⟩ := coherent_reclaimAt h now
  rcases poll_eq_run_or_idle h now with ⟨-, hlive, hpoll⟩ | ⟨-, hpoll⟩
  · simp only [hpoll, ite_true]
    exact hreclaimed.trans (meets_run hcoherent hlive now)
  · simp only [hpoll, Bool.false_eq_true, ite_false]
    exact hreclaimed

end Session

namespace Drive

/-- The fate that an action brings about. -/
def fate? (d : Drive σ) : Action σ → Option (Fate σ)
  | .edit .. | .abandon | .drift _ => none
  | .begin => if d.held.isEmpty then d.session.setback? else none
  | .complete _ => d.held.head?.map d.session.conclusion
  | .poll now => if (d.session.poll now).2 then (d.session.reclaimAt now).fate? else none
  | .flush _ => if d.held.isEmpty then d.session.reclaimed.fate? else none

/-- Every action meets the fate that it brings about. -/
theorem meets_step {d : Drive σ} (h : d.Coherent) (action : Action σ) :
    d.session.Meets (d.fate? action) (d.step action).session := by
  have hheld : d.held.isEmpty = true ↔ d.controller.flight ≠ .live := by
    rw [List.isEmpty_iff, Ne, h.live, Decidable.not_not]
  cases action with
  | edit edit now => exact d.session.meets_edit now edit
  | begin =>
    by_cases hlive : d.controller.flight = .live
    · rw [h.step_begin_of_held (h.live.mp hlive)]
      simp only [fate?, (not_congr hheld).mpr (not_not_intro hlive)]
      exact Session.Meets.refl _
    · simp only [fate?, hheld.mpr hlive, ite_true]
      exact Session.meets_begin h.controller hlive
  | complete now =>
    rcases hpending : d.held with _ | ⟨pending, others⟩
    · simp only [step, fate?, hpending]
      exact Session.Meets.refl _
    · simp only [step, fate?, hpending]
      exact d.session.meets_complete pending now
  | abandon =>
    rcases hpending : d.held with _ | ⟨pending, others⟩
    · simp only [step, hpending]
      exact Session.Meets.refl _
    · simp only [step, hpending]
      exact ⟨by simp [fate?, Session.abandon, Session.calls, Fate.generations], rfl, rfl, rfl, rfl⟩
  | poll now => exact Session.meets_poll h.controller now
  | flush now =>
    by_cases hlive : d.controller.flight = .live
    · simp only [step, fate?, Session.flush_of_live h.controller hlive,
        (not_congr hheld).mpr (not_not_intro hlive)]
      exact Session.Meets.refl _
    · have hreclaimed : d.session.reclaimed.controller.flight ≠ .live :=
        (not_congr Controller.flight_reclaim_eq_live_iff).mpr hlive
      simp only [step, fate?, hheld.mpr hlive, ite_true]
      exact d.session.meets_reclaimed.trans
        (Session.meets_run (s := d.session.reclaimed) h.controller.reclaim hreclaimed now)
  | drift world =>
    exact ⟨by simp [step, fate?, Session.calls, Fate.generations], rfl, rfl, rfl, rfl⟩

/-- A run replaces neither the emitters nor the settings. -/
theorem frame_perform {d : Drive σ} (h : d.Coherent) (actions : List (Action σ)) :
    (d.perform actions).session.emitters = d.session.emitters ∧
      (d.perform actions).controller.settings = d.controller.settings := by
  induction actions generalizing d with
  | nil => exact ⟨rfl, rfl⟩
  | cons action actions ih =>
    have hmeets := meets_step h action
    obtain ⟨hemitters, hsettings⟩ := ih (h.step action)
    exact ⟨hemitters.trans hmeets.emitters, hsettings.trans hmeets.settings⟩

end Drive

end TemplateInspector
