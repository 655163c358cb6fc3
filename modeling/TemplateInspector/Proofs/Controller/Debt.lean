import TemplateInspector.Proofs.Controller.Coherence

/-!
# No change is lost

A change of the inputs is owed an attempt at a generation. The debt is kept in the timer, or in the
record of changes while a generation is in flight or was given up and not yet reclaimed. Every
action keeps the debt or makes the attempt. At rest, with nothing owed, the last attempt was made
with what the inputs still ask for.
-/

namespace TemplateInspector

variable {σ : Type}

namespace Controller

/-- An attempt is owed: the timer is armed, or a change is recorded with a generation that is in
flight or was given up. -/
def Owes (c : Controller) : Prop :=
  c.timer.isArmed = true ∨ c.changedInFlight = true ∧ c.flight ≠ .none

/-- Nothing is owed on the timer while a generation is in flight. -/
theorem Coherent.recorded_of_owes {c : Controller} (h : c.Coherent) (howes : c.Owes)
    (hflight : c.flight ≠ .none) : c.changedInFlight = true := by
  rcases howes with harmed | ⟨hrecorded, -⟩
  · have htimer := h.timer
    rw [h.flight.mp hflight] at htimer
    simp [DebounceTimer.isArmed, htimer, ControllerState.deadline?] at harmed
  · exact hrecorded

/-- A change that is taken note of is owed an attempt. -/
theorem Coherent.owes_markChanged {c : Controller} (h : c.Coherent) (now : Time) :
    (c.markChanged now).Owes := by
  rw [markChanged_eq]
  split
  case isTrue hgenerating => exact .inr ⟨rfl, h.reclaim.flight.mpr hgenerating⟩
  case isFalse => exact .inl rfl

/-- A landing generation leaves the debt on the timer. -/
theorem Coherent.owes_land {c : Controller} (h : c.Coherent) (hlive : c.flight = .live)
    (howes : c.Owes) (emitters : EmitterTable) (language : Option Language) (outcome : Outcome)
    (now : Time) : (c.land emitters language outcome now).Owes := by
  rw [land_eq, h.recorded_of_owes howes (by simp [hlive]), if_pos rfl]
  exact (h.landed hlive emitters language outcome).owes_markChanged now

/-- A generation that is given up leaves the debt where it is. -/
theorem Owes.abandon {c : Controller} (h : c.Owes) : c.abandon.Owes := by
  rcases h with harmed | ⟨hrecorded, -⟩
  · exact .inl harmed
  · exact .inr ⟨hrecorded, by simp [Controller.abandon]⟩

end Controller

namespace Session

@[simp] theorem attempts_record (s : Session σ) (activities : List Activity) :
    (s.record activities).attempts = s.attempts ++ activities.filterMap Activity.attempt? := by
  simp only [attempts, history_record, List.filterMap_append]

/-- The session has gone on without an attempt: it asks for the same, and what was owed is owed. -/
structure Keeps (s s' : Session σ) : Prop where
  /-- No attempt was made. -/
  attempts : s'.attempts = s.attempts
  /-- The inputs ask for the same. -/
  inputs : s'.controller.inputs.Same s.controller.inputs
  /-- A debt is kept. -/
  owes : s.controller.Owes → s'.controller.Owes

/-- One attempt was made, with the inputs that the session has now. -/
def Attempts (s s' : Session σ) : Prop :=
  s'.attempts = s.attempts ++ [s'.controller.inputs]

theorem Keeps.refl (s : Session σ) : s.Keeps s :=
  ⟨rfl, Inputs.Same.refl _, id⟩

theorem Keeps.attempts_trans {s s' s'' : Session σ} (h : s.Keeps s') (h' : s'.Attempts s'') :
    s.Attempts s'' := by
  rw [Attempts, ← h.attempts]
  exact h'

/-- An attempt that has started is recorded with its inputs. -/
theorem attempts_startAttempt (s : Session σ) : s.Attempts s.startAttempt := by
  rw [Attempts, startAttempt, attempts_record]
  rfl

/-- Concluding an attempt leaves its inputs alone and makes no other attempt. -/
theorem Attempt.inputs {s s' : Session σ} {pending : Option (PendingGeneration σ)}
    (h : Attempt s s' pending) :
    s'.attempts = s.attempts ∧ s'.controller.inputs = s.controller.inputs := by
  cases h with
  | nothing => exact ⟨rfl, rfl⟩
  | unbuilt => exact ⟨by simp [attempts, Activity.attempt?], rfl⟩
  | @begun _ instantiation =>
    refine ⟨?_, rfl⟩
    cases instantiation <;> simp [attempts, Instantiation.activities, Activity.attempt?]

/-- A generation that begins makes an attempt. -/
theorem attempts_begin {s : Session σ} (h : s.controller.Coherent)
    (hlive : s.controller.flight ≠ .live) : s.Attempts s.begin.1 := by
  rw [begin_of_not_live h hlive]
  obtain ⟨hattempts, hinputs⟩ := (attempt_concludeAttempt s.startAttempt).inputs
  rw [Attempts, hattempts, hinputs]
  exact attempts_startAttempt s

/-- Completing a generation makes no attempt and leaves the inputs alone. -/
theorem inputs_complete (s : Session σ) (pending : PendingGeneration σ) (now : Time) :
    (s.complete pending now).attempts = s.attempts ∧
      (s.complete pending now).controller.inputs = s.controller.inputs :=
  ⟨by simp [complete, attempts, Activity.attempt?], Controller.inputs_land ..⟩

/-- Completing the generation in flight keeps the debt. -/
theorem keeps_complete {s : Session σ} (h : s.controller.Coherent)
    (hlive : s.controller.flight = .live) (pending : PendingGeneration σ) (now : Time) :
    s.Keeps (s.complete pending now) := by
  obtain ⟨hattempts, hinputs⟩ := s.inputs_complete pending now
  refine ⟨hattempts, hinputs ▸ Inputs.Same.refl _, fun howes => ?_⟩
  exact h.owes_land hlive howes _ _ _ now

/-- A generation that is begun and completed at once makes an attempt, unless one is held. -/
theorem attempts_run {s : Session σ} (h : s.controller.Coherent)
    (hlive : s.controller.flight ≠ .live) (now : Time) : s.Attempts (s.run now) := by
  have hbegin := attempts_begin h hlive
  rcases hs : s.begin with ⟨s', pending⟩
  rw [hs] at hbegin
  cases pending with
  | none => simpa only [run, hs] using hbegin
  | some pending =>
    obtain ⟨hattempts, hinputs⟩ := s'.inputs_complete pending now
    simp only [run, hs]
    rw [Attempts, hattempts, hinputs]
    exact hbegin

/-- Reclaiming at a time keeps the debt. -/
theorem keeps_reclaimAt {s : Session σ} (h : s.controller.Coherent) (now : Time) :
    s.Keeps (s.reclaimAt now) := by
  have hr := h.reclaim
  have hinputs := s.controller.inputs_reclaim
  rcases hreclaim : s.controller.reclaim with ⟨c, recorded⟩
  simp only [hreclaim] at hr hinputs
  cases recorded with
  | true =>
    simp only [reclaimAt, hreclaim]
    refine ⟨rfl, ?_, fun _ => hr.owes_markChanged now⟩
    rw [Controller.inputs_markChanged, hinputs]
    exact Inputs.Same.refl _
  | false =>
    simp only [reclaimAt, hreclaim]
    refine ⟨rfl, hinputs ▸ Inputs.Same.refl _, fun howes => ?_⟩
    -- What was given up with a debt has it in the record, so the record would have been reported.
    by_cases habandoned : s.controller.flight = .abandoned
    · have hrecorded := h.recorded_of_owes howes (by simp [habandoned])
      simp [Controller.reclaim, habandoned, hrecorded] at hreclaim
    · rw [Controller.reclaim_of_ne_abandoned habandoned, Prod.mk.injEq] at hreclaim
      exact hreclaim.1 ▸ howes

/-- Polling keeps the debt or makes an attempt. -/
theorem poll_cases {s : Session σ} (h : s.controller.Coherent) (now : Time) :
    s.Keeps (s.poll now).1 ∨ s.Attempts (s.poll now).1 := by
  have hkeeps := keeps_reclaimAt h now
  obtain ⟨hreclaimed, -⟩ := coherent_reclaimAt h now
  rcases poll_eq_run_or_idle h now with ⟨-, hlive, hpoll⟩ | ⟨-, hpoll⟩
  · rw [hpoll]
    exact .inr (hkeeps.attempts_trans (attempts_run hreclaimed hlive now))
  · rw [hpoll]
    exact .inl hkeeps

/-- Flushing makes an attempt, unless a generation is held. -/
theorem flush_cases {s : Session σ} (h : s.controller.Coherent) (now : Time) :
    s.Keeps (s.flush now) ∨ s.Attempts (s.flush now) := by
  by_cases hlive : s.controller.flight = .live
  · left
    rw [flush_of_live h hlive now]
    exact Keeps.refl s
  · right
    refine attempts_run (s := { s with controller := s.controller.reclaim.1 }) h.reclaim ?_ now
    exact (not_congr Controller.flight_reclaim_eq_live_iff).mpr hlive

/-- An edit makes no attempt. If it changes the inputs, an attempt is owed; else the debt is
kept. -/
theorem edit_cases {s : Session σ} (h : s.controller.Coherent) (now : Time) (edit : Edit σ) :
    (s.edit now edit).2.isChange = true ∧ (s.edit now edit).1.attempts = s.attempts ∧
        (s.edit now edit).1.controller.Owes ∨
      (s.edit now edit).2.isChange = false ∧ s.Keeps (s.edit now edit).1 := by
  have hattempts : (s.edit now edit).1.attempts = s.attempts := by
    rw [attempts, history_edit, attempts]
  rcases s.controller_edit now edit with ⟨hsame, hreply⟩ | ⟨input, next, hgive, htake, hreply⟩
  · exact .inr ⟨hreply, hattempts, hsame ▸ Inputs.Same.refl _, fun howes => hsame ▸ howes⟩
  · obtain ⟨inputs, changed⟩ := next
    cases changed with
    | true =>
      refine .inl ⟨hreply, hattempts, ?_⟩
      rw [htake]
      exact (h.withInputs inputs).owes_markChanged now
    | false =>
      refine .inr ⟨hreply, hattempts, ?_, ?_⟩
      · rw [htake, Controller.inputs_take]
        exact Inputs.same_of_give hgive
      · rw [htake]
        exact id

end Session

namespace Drive

/-- What an action does to the debt: it changes the inputs, and then an attempt is owed; or it keeps
the inputs and the debt; or it makes an attempt with the inputs that there are afterwards. -/
theorem step_cases {d : Drive σ} (h : d.Coherent) (action : Action σ) :
    d.changes action = true ∧ (d.step action).session.attempts = d.session.attempts ∧
        (d.step action).controller.Owes ∨
      d.changes action = false ∧ d.session.Keeps (d.step action).session ∨
      d.changes action = false ∧ d.session.Attempts (d.step action).session := by
  cases action with
  | edit edit now =>
    rcases Session.edit_cases h.controller now edit with hchange | hkeeps
    · exact .inl hchange
    · exact .inr (.inl hkeeps)
  | poll now => exact .inr ((Session.poll_cases h.controller now).imp (⟨rfl, ·⟩) (⟨rfl, ·⟩))
  | flush now => exact .inr ((Session.flush_cases h.controller now).imp (⟨rfl, ·⟩) (⟨rfl, ·⟩))
  | drift world => exact .inr (.inl ⟨rfl, rfl, Inputs.Same.refl _, id⟩)
  | begin =>
    by_cases hlive : d.controller.flight = .live
    · rw [h.step_begin_of_held (h.live.mp hlive)]
      exact .inr (.inl ⟨rfl, Session.Keeps.refl _⟩)
    · exact .inr (.inr ⟨rfl, Session.attempts_begin h.controller hlive⟩)
  | complete now =>
    rcases hheld : d.held with _ | ⟨pending, others⟩
    · simp only [step, hheld]
      exact .inr (.inl ⟨rfl, Session.Keeps.refl _⟩)
    · have hlive : d.controller.flight = .live := h.live.mpr (by simp [hheld])
      simp only [step, hheld]
      exact .inr (.inl ⟨rfl, Session.keeps_complete h.controller hlive pending now⟩)
  | abandon =>
    rcases hheld : d.held with _ | ⟨pending, others⟩
    · simp only [step, hheld]
      exact .inr (.inl ⟨rfl, Session.Keeps.refl _⟩)
    · simp only [step, hheld]
      exact .inr (.inl ⟨rfl, rfl, Inputs.Same.refl _, Controller.Owes.abandon⟩)

/-- Attempts are never forgotten. -/
theorem attempts_extended {d : Drive σ} (h : d.Coherent) (actions : List (Action σ)) :
    d.session.attempts <+: (d.perform actions).session.attempts := by
  induction actions generalizing d with
  | nil => exact List.prefix_refl _
  | cons action actions ih =>
    refine List.IsPrefix.trans ?_ (ih (h.step action))
    rcases step_cases h action with ⟨-, hsame, -⟩ | ⟨-, hkeeps⟩ | ⟨-, hattempts⟩
    · exact hsame ▸ List.prefix_refl _
    · exact hkeeps.attempts ▸ List.prefix_refl _
    · rw [hattempts]
      exact List.prefix_append _ _

/-- An action that makes an attempt cannot lie in a run that ends with the attempts there were. -/
theorem not_attempts_of_perform {d : Drive σ} (h : d.Coherent) {action : Action σ}
    {actions : List (Action σ)}
    (hnone : (d.perform (action :: actions)).session.attempts = d.session.attempts) :
    ¬ d.session.Attempts (d.step action).session := by
  intro hattempts
  have hlength := (attempts_extended (h.step action) actions).length_le
  rw [← perform_cons, hnone, hattempts, List.length_append, List.length_singleton] at hlength
  omega

/-- As long as no attempt is made, what is owed stays owed. -/
theorem owes_perform {d : Drive σ} (h : d.Coherent) (howes : d.controller.Owes)
    {actions : List (Action σ)}
    (hnone : (d.perform actions).session.attempts = d.session.attempts) :
    (d.perform actions).controller.Owes := by
  induction actions generalizing d with
  | nil => exact howes
  | cons action actions ih =>
    rcases step_cases h action with ⟨-, hsame, hnow⟩ | ⟨-, hkeeps⟩ | ⟨-, hattempts⟩
    · exact ih (h.step action) hnow (hnone.trans hsame.symm)
    · exact ih (h.step action) (hkeeps.owes howes) (hnone.trans hkeeps.attempts.symm)
    · exact absurd hattempts (not_attempts_of_perform h hnone)

/-- A change after which no attempt is made is owed one. -/
theorem owes_of_changesWithin {d : Drive σ} (h : d.Coherent) {actions : List (Action σ)}
    (hnone : (d.perform actions).session.attempts = d.session.attempts)
    (hchanges : d.changesWithin actions = true) : (d.perform actions).controller.Owes := by
  induction actions generalizing d with
  | nil => simp [changesWithin] at hchanges
  | cons action actions ih =>
    rcases step_cases h action with ⟨-, hsame, hnow⟩ | ⟨hnot, hkeeps⟩ | ⟨-, hattempts⟩
    · exact owes_perform (h.step action) hnow (hnone.trans hsame.symm)
    · rw [changesWithin, hnot, Bool.false_or] at hchanges
      exact ih (h.step action) (hnone.trans hkeeps.attempts.symm) hchanges
    · exact absurd hattempts (not_attempts_of_perform h hnone)

/-- A run ends with a debt, or with the last attempt made for what is asked for now, or it has
neither made an attempt nor changed anything. -/
theorem perform_cases {d : Drive σ} (h : d.Coherent) (actions : List (Action σ)) :
    (d.perform actions).controller.Owes ∨
      (∃ inputs, (d.perform actions).session.attempts.getLast? = some inputs ∧
        (d.perform actions).controller.inputs.Same inputs) ∨
      d.changesWithin actions = false ∧
        (d.perform actions).session.attempts = d.session.attempts ∧
        (d.perform actions).controller.inputs.Same d.controller.inputs := by
  induction actions generalizing d with
  | nil => exact .inr (.inr ⟨rfl, rfl, Inputs.Same.refl _⟩)
  | cons action actions ih =>
    rcases ih (h.step action) with howes | hlast | ⟨hnot, hnone, hinputs⟩
    · exact .inl howes
    · exact .inr (.inl hlast)
    · rcases step_cases h action with ⟨-, -, hnow⟩ | ⟨hquiet, hkeeps⟩ | ⟨-, hattempts⟩
      · exact .inl (owes_perform (h.step action) hnow hnone)
      · refine .inr (.inr ⟨?_, hnone.trans hkeeps.attempts, hinputs.trans hkeeps.inputs⟩)
        rw [changesWithin, hquiet, hnot, Bool.false_or]
      · refine .inr (.inl ⟨(d.step action).controller.inputs, ?_, hinputs⟩)
        rw [perform_cons, hnone, hattempts]
        exact List.getLast?_concat

/-- A change of the inputs after which no attempt was made is owed one: the timer is armed, or the
change is recorded while a generation is held by the driver or was given up and not yet reclaimed.
So at rest, with no deadline and nothing in flight, nothing was ever changed, or the last attempt
was made with the template, engine, language and mode that the inputs have now. -/
theorem no_change_is_lost (settings : ControllerSettings) (registry : Registry σ)
    (emitters : EmitterTable) (world : σ) (before after : List (Action σ)) :
    let start := start settings registry emitters world
    let last := start.perform (before ++ after)
    (last.session.attempts = (start.perform before).session.attempts →
        (start.perform before).changesWithin after = true →
        last.controller.timer.isArmed = true ∨
          last.controller.changedInFlight = true ∧
            (last.held ≠ [] ∨ last.controller.flight = .abandoned)) ∧
      (last.controller.timer.deadline = none → last.held = [] →
        last.controller.flight ≠ .abandoned →
        start.changesWithin (before ++ after) = false ∨
          ∃ inputs, last.session.attempts.getLast? = some inputs ∧
            last.controller.inputs.Same inputs) := by
  intro start last
  have hstart : start.Coherent := coherent_start settings registry emitters world
  have hlast : last.Coherent := hstart.perform (before ++ after)
  constructor
  · intro hnone hchanges
    have hperform : last = (start.perform before).perform after := perform_append start before after
    rw [hperform] at hnone
    have howes := owes_of_changesWithin (hstart.perform before) hnone hchanges
    rcases howes with harmed | ⟨hrec, hflight⟩
    · exact .inl (hperform ▸ harmed)
    · rw [← hperform] at hrec hflight
      refine .inr ⟨hrec, ?_⟩
      cases hcase : last.controller.flight with
      | none => exact absurd hcase hflight
      | live => exact .inl (hlast.live.mp hcase)
      | abandoned => exact .inr rfl
  · intro hdeadline hheld hnot
    have hcases := perform_cases hstart (before ++ after)
    rcases hcases with (harmed | ⟨-, hflight⟩) | hinputs | ⟨hquiet, -⟩
    · simp [DebounceTimer.isArmed, last, hdeadline] at harmed
    · cases hcase : last.controller.flight with
      | none => exact absurd hcase hflight
      | live => exact absurd hheld (hlast.live.mp hcase)
      | abandoned => exact absurd hcase hnot
    · exact .inr hinputs
    · exact .inl hquiet

/-- An edit is owed an attempt after the generation in flight was given up, and nothing is owed
after an attempt that failed and an edit that changes nothing. -/
theorem no_change_is_lost_given_up :
    let start := rehearse [.fail (.generation "overrun")]
    let before : List (Action Rehearsal) := [.edit (.input (.text "x")) 9, .begin]
    let after : List (Action Rehearsal) := [.edit (.input (.text "xy")) 5, .abandon]
    let calm : List (Action Rehearsal) := [.flush 2, .edit (.input (.engine (some "echo"))) 1]
    let last := start.perform (before ++ after)
    let rest := start.perform ([.edit (.input (.text "x")) 9] ++ calm)
    (last.session.attempts = (start.perform before).session.attempts ∧
        (start.perform before).changesWithin after = true ∧
        (last.controller.timer.isArmed = true ∨
          last.controller.changedInFlight = true ∧
            (last.held ≠ [] ∨ last.controller.flight = .abandoned))) ∧
      rest.controller.timer.deadline = none ∧ rest.held = [] ∧
        rest.controller.flight ≠ .abandoned ∧
        (start.changesWithin ([.edit (.input (.text "x")) 9] ++ calm) = false ∨
          ∃ inputs, rest.session.attempts.getLast? = some inputs ∧
            rest.controller.inputs.Same inputs) := by
  intro start before after calm last rest
  have hnone : last.session.attempts = (start.perform before).session.attempts := by decide
  have hchanges : (start.perform before).changesWithin after = true := by decide
  have hdeadline : rest.controller.timer.deadline = none := by decide
  have hflight : rest.controller.flight ≠ .abandoned := by decide
  exact ⟨⟨hnone, hchanges, (no_change_is_lost {} _ _ _ before after).1 hnone hchanges⟩,
    hdeadline, rfl, hflight,
    (no_change_is_lost {} _ _ _ [.edit (.input (.text "x")) 9] calm).2 hdeadline rfl hflight⟩

end Drive

end TemplateInspector
