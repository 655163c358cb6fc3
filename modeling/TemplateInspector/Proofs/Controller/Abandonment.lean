import TemplateInspector.Proofs.Controller.Burst
import TemplateInspector.Proofs.Controller.Fitting
import TemplateInspector.Proofs.Controller.SingleFlight
import TemplateInspector.Proofs.Loop.Run

/-!
# Generations that are given up

A generation that was begun may be given up without being completed, and the controller learns of
it with the next call that asks. What was recorded meanwhile is not lost: the next poll lets it rest
for an interval, and an attempt that is made before takes it along. Beyond that nothing is left of
the generation, and its engine is never called.
-/

namespace TemplateInspector

variable {σ : Type}

/-- Whether an action leaves alone what the driver holds. -/
def Action.sparesHeld : Action σ → Bool
  | .edit .. | .begin | .poll _ | .flush _ | .drift _ => true
  | .complete _ | .abandon => false

namespace Session

/-- The inputs with which an attempt would be made now. -/
def ready (s : Session σ) : Inputs :=
  { s.controller.inputs with
    selection := s.controller.selection.reconciled s.registry.catalog }

/-- A generation that begins makes an attempt with the current inputs. -/
theorem attempts_begin_eq {s : Session σ} (h : s.controller.Coherent)
    (hlive : s.controller.flight ≠ .live) :
    s.begin.1.attempts = s.attempts ++ [s.ready] ∧ s.begin.1.controller.inputs = s.ready := by
  have hinputs : s.begin.1.controller.inputs = s.ready := by
    rw [begin_of_not_live h hlive, (attempt_concludeAttempt s.startAttempt).inputs.2]
    exact s.inputs_startAttempt
  exact ⟨hinputs ▸ attempts_begin h hlive, hinputs⟩

/-- So does one that is completed as soon as it has begun. -/
theorem attempts_run_eq {s : Session σ} (h : s.controller.Coherent)
    (hlive : s.controller.flight ≠ .live) (now : Time) :
    (s.run now).attempts = s.attempts ++ [s.ready] := by
  obtain ⟨hattempts, -⟩ := attempts_begin_eq h hlive
  rcases s.run_cases now with hrun | ⟨pending, hrun⟩
  · rw [hrun, hattempts]
  · rw [hrun, (s.begin.1.inputs_complete pending now).1, hattempts]

/-- However an attempt ends, no generation is in flight that was given up. -/
theorem Attempt.flight_ne_abandoned {s s' : Session σ} {pending : Option (PendingGeneration σ)}
    (h : Attempt s s' pending) (hflight : s.controller.flight = .none) :
    s'.controller.flight ≠ .abandoned := by
  cases h with
  | nothing | unbuilt =>
    exact fun habandoned => Flight.noConfusion (hflight.symm.trans habandoned)
  | begun => simp [Controller.takeOff]

/-- A generation that begins leaves none in flight that was given up. -/
theorem flight_begin_ne_abandoned {s : Session σ} (h : s.controller.Coherent)
    (hlive : s.controller.flight ≠ .live) : s.begin.1.controller.flight ≠ .abandoned := by
  obtain ⟨hgrounded, -⟩ := grounded_startAttempt h hlive
  rw [begin_of_not_live h hlive]
  exact (attempt_concludeAttempt s.startAttempt).flight_ne_abandoned hgrounded.flight

end Session

namespace Drive

/-! ## While the generation is held -/

/-- A drive that holds one generation, as it did in an earlier state: no other one was completed in
between, and whether there was a change is recorded. -/
structure Holds (first : Drive σ) (pending : PendingGeneration σ) (recorded : Bool) (d : Drive σ) :
    Prop where
  coherent : d.Coherent
  held : d.held = [pending]
  recorded : d.controller.changedInFlight = recorded
  meets : first.session.Meets none d.session

variable {first d : Drive σ} {pending : PendingGeneration σ} {recorded : Bool}

/-- A generation that has just begun is held, and no change is recorded. -/
theorem holds_of_begin (h : d.Coherent) (hbegun : d.session.begin.2 = some pending) :
    (d.step .begin).Holds pending false (d.step .begin) := by
  have hlive : d.session.controller.flight ≠ .live := fun hlive => by
    simp [Session.begin_of_live h.controller hlive] at hbegun
  have hheld : d.held = [] := Decidable.byContradiction fun hheld => hlive (h.live.mpr hheld)
  refine ⟨h.step .begin, ?_, (Session.prepares_begin h.controller hlive).recorded,
    Session.Meets.refl _⟩
  simp only [step, hheld, hbegun, Option.toList_some, List.nil_append]

/-- Whatever is done while a generation is held, it is held on, and a change is recorded. -/
theorem Holds.step (h : first.Holds pending recorded d) {action : Action σ}
    (haction : action.sparesHeld = true) :
    first.Holds pending (recorded || d.changes action) (d.step action) := by
  have hcoherent := h.coherent.controller
  have hheld : d.held ≠ [] := by simp [h.held]
  have hlive : d.session.controller.flight = .live := h.coherent.live.mpr hheld
  -- To begin, to poll and to flush do nothing, and report no change.
  have hidle (hstep : d.step action = d) (hchanges : d.changes action = false) :
      first.Holds pending (recorded || d.changes action) (d.step action) := by
    rw [hstep, hchanges, Bool.or_false]
    exact h
  cases action with
  | edit edit now =>
    refine ⟨h.coherent.step _, h.held, ?_, h.meets.trans (d.session.meets_edit now edit)⟩
    cases hchange : d.changes (.edit edit now) with
    | false =>
      obtain ⟨-, -, hrecorded⟩ := Session.edit_of_not_change hchange
      rw [Bool.or_false]
      exact hrecorded.trans h.recorded
    | true =>
      rw [Bool.or_true]
      exact (Session.edit_of_live hcoherent hlive hchange).2
  | begin => exact hidle (h.coherent.step_begin_of_held hheld) rfl
  | poll now => exact hidle (by simp only [Drive.step, Session.poll_of_live hcoherent hlive]) rfl
  | flush now => exact hidle (by simp only [Drive.step, Session.flush_of_live hcoherent hlive]) rfl
  | drift world =>
    refine ⟨h.coherent.step _, h.held, ?_, h.meets.trans (meets_step h.coherent (.drift world))⟩
    exact h.recorded.trans (Bool.or_false _).symm
  | complete | abandon => contradiction

/-- This goes on for any number of actions. -/
theorem Holds.perform (h : first.Holds pending recorded d) {actions : List (Action σ)}
    (hactions : ∀ action ∈ actions, action.sparesHeld = true) :
    first.Holds pending (recorded || d.changesWithin actions) (d.perform actions) := by
  induction actions generalizing d recorded with
  | nil => simpa [changesWithin] using h
  | cons action actions ih =>
    obtain ⟨hfirst, hrest⟩ := List.forall_mem_cons.mp hactions
    have hlast := ih (h.step hfirst) hrest
    rwa [Bool.or_assoc] at hlast

/-! ## Once it is given up -/

/-- A drive that has given up a generation, of which the controller has not learned: nothing is
held, and what was recorded is still recorded. -/
structure Drops (first : Drive σ) (recorded : Bool) (d : Drive σ) : Prop where
  coherent : d.Coherent
  held : d.held = []
  flight : d.controller.flight = .abandoned
  recorded : d.controller.changedInFlight = recorded
  meets : first.session.Meets none d.session

/-- Giving up the generation that is held. -/
theorem Holds.abandon (h : first.Holds pending recorded d) :
    first.Drops recorded (d.step .abandon) := by
  have hstep : d.step .abandon = ⟨d.session.abandon, []⟩ := by simp only [Drive.step, h.held]
  refine ⟨h.coherent.step .abandon, ?_, ?_, ?_, h.meets.trans (meets_step h.coherent .abandon)⟩
  all_goals rw [hstep]
  · rfl
  · exact h.recorded

/-- Whether an action asks nothing of the controller: an edit that reports no change, or a change of
the world. -/
def isQuiet (d : Drive σ) : Action σ → Bool
  | .edit edit now => !d.changes (.edit edit now)
  | .drift _ => true
  | .begin | .complete _ | .abandon | .poll _ | .flush _ => false

/-- Whether none of some actions asks anything of the controller. -/
def isLull (d : Drive σ) : List (Action σ) → Bool
  | [] => true
  | action :: actions => d.isQuiet action && (d.step action).isLull actions

/-- As long as nothing is asked of the controller, it does not learn of the generation. -/
theorem Drops.step (h : first.Drops recorded d) {action : Action σ}
    (haction : d.isQuiet action = true) : first.Drops recorded (d.step action) := by
  cases action with
  | edit edit now =>
    obtain ⟨-, hflight, hrecorded⟩ :=
      Session.edit_of_not_change ((Bool.not_eq_true' _).mp haction)
    exact ⟨h.coherent.step _, h.held, hflight.trans h.flight, hrecorded.trans h.recorded,
      h.meets.trans (d.session.meets_edit now edit)⟩
  | drift world =>
    exact ⟨h.coherent.step _, h.held, h.flight, h.recorded,
      h.meets.trans (meets_step h.coherent (.drift world))⟩
  | begin | complete | abandon | poll | flush => contradiction

theorem Drops.perform (h : first.Drops recorded d) {actions : List (Action σ)}
    (hactions : d.isLull actions = true) : first.Drops recorded (d.perform actions) := by
  induction actions generalizing d with
  | nil => exact h
  | cons action actions ih =>
    obtain ⟨hfirst, hrest⟩ := (Bool.and_eq_true _ _).mp hactions
    exact ih (h.step hfirst) hrest

theorem Drops.ne_live (h : first.Drops recorded d) : d.session.controller.flight ≠ .live :=
  (not_congr h.coherent.live).mpr (not_not_intro h.held)

/-! ## Once the controller learns of it -/

/-- The first poll arms the timer if a change is recorded. Without an interval the timer is due at
once, and the poll makes an attempt. -/
theorem Drops.poll_of_recorded (h : first.Drops true d) (now : Time) :
    (d.session.reclaimAt now).controller.timer.deadline =
        some (now + d.controller.settings.debounce) ∧
      (d.session.reclaimAt now).controller.state =
        .pending (now + d.controller.settings.debounce) ∧
      d.session.poll now =
        if d.controller.settings.debounce = 0 then ((d.session.reclaimAt now).run now, true)
        else (d.session.reclaimAt now, false) := by
  have hrecorded : d.session.controller.changedInFlight = true := h.recorded
  have hreclaimed := Session.reclaimAt_of_abandoned h.flight now
  simp only [hrecorded, ite_true] at hreclaimed
  have hdeadline : (d.session.reclaimAt now).controller.timer.deadline =
      some (now + d.session.controller.settings.debounce) := by
    rw [hreclaimed]
    rfl
  refine ⟨hdeadline, by rw [hreclaimed]; rfl, ?_⟩
  have hpast (time interval : Nat) : time + interval ≤ time ↔ interval = 0 := by omega
  have hdue : (d.session.reclaimAt now).controller.timer.isDue now = true ↔
      d.session.controller.settings.debounce = 0 := by
    simp only [DebounceTimer.isDue, hdeadline, Option.any_some, decide_eq_true_eq]
    exact hpast now _
  simp only [Session.poll, hdue]
  rfl

/-- Without a change that is recorded, the first poll makes the controller idle. -/
theorem Drops.poll_of_not_recorded (h : first.Drops false d) (now : Time) :
    d.session.poll now = (d.session.reclaimAt now, false) ∧
      (d.session.reclaimAt now).controller.state = .idle ∧
      (d.session.reclaimAt now).controller.status = "Ready" ∧
      (d.session.reclaimAt now).controller.timer.deadline = none := by
  have hrecorded : d.session.controller.changedInFlight = false := h.recorded
  have hreclaimed := Session.reclaimAt_of_abandoned h.flight now
  simp only [hrecorded, Bool.false_eq_true, ite_false] at hreclaimed
  -- While a generation is in flight the timer is not armed.
  have hcoherent : d.session.controller.Coherent := h.coherent.controller
  have hgenerating : d.session.controller.state = .generating :=
    hcoherent.flight.mp fun hnone => Flight.noConfusion (h.flight.symm.trans hnone)
  have htimer : d.session.controller.timer.deadline = none := by
    rw [hcoherent.timer, hgenerating]
    rfl
  have hdeadline : (d.session.reclaimAt now).controller.timer.deadline = none := by
    rw [hreclaimed]
    exact htimer
  refine ⟨?_, by rw [hreclaimed], by rw [hreclaimed]; rfl, hdeadline⟩
  simp [Session.poll, DebounceTimer.isDue, hdeadline]

/-- The first change arms the timer. -/
theorem Drops.edit (h : first.Drops recorded d) {edit : Edit σ} {now : Time}
    (hchange : d.changes (.edit edit now) = true) :
    (d.step (.edit edit now)).controller.timer.deadline =
        some (now + d.controller.settings.debounce) ∧
      (d.step (.edit edit now)).controller.state =
        .pending (now + d.controller.settings.debounce) := by
  obtain ⟨hdeadline, -⟩ := Session.edit_of_not_live h.coherent.controller h.ne_live hchange
  refine ⟨hdeadline, ?_⟩
  have htimer := (h.coherent.step (.edit edit now)).controller.timer
  rw [show (d.step (.edit edit now)).controller.timer.deadline = _ from hdeadline] at htimer
  cases hstate : (d.step (.edit edit now)).controller.state <;>
    simp_all [ControllerState.deadline?, controller]

/-- What the driver holds after an action if it held nothing before. -/
def takes (d : Drive σ) : Action σ → List (PendingGeneration σ)
  | .begin => d.session.begin.2.toList
  | .edit .. | .complete _ | .abandon | .poll _ | .flush _ | .drift _ => []

/-- A drive with nothing left of a generation that was given up: a generation is in flight exactly
if one of these is held, and no change is recorded. -/
structure Recovered (taken : List (PendingGeneration σ)) (d : Drive σ) : Prop where
  held : d.held = taken
  generating : d.controller.state = .generating ↔ taken ≠ []
  live : d.controller.flight = .live ↔ taken ≠ []
  flight : d.controller.flight ≠ .abandoned
  recorded : d.controller.changedInFlight = false

/-- Nothing is left if nothing is given up or recorded. -/
theorem Coherent.recovered (h : d.Coherent) (hflight : d.controller.flight ≠ .abandoned)
    (hrecorded : d.controller.changedInFlight = false) : d.Recovered d.held := by
  refine ⟨rfl, ?_, h.live, hflight, hrecorded⟩
  rw [← h.controller.flight, ← h.live]
  cases hnow : d.controller.flight with
  | none => simp
  | live => simp
  | abandoned => contradiction

/-- Nothing is left if nothing is in flight. -/
theorem Coherent.recovered_of_none (h : d.Coherent) (hheld : d.held = [])
    (hflight : d.controller.flight = .none) : d.Recovered [] := by
  have hrecorded : d.controller.changedInFlight = false := Bool.eq_false_iff.mpr fun hrecorded =>
    h.controller.flight.mpr (h.controller.recorded hrecorded) hflight
  rw [← hheld]
  exact h.recovered (by simp [hflight]) hrecorded

/-- Whatever is asked of the controller first, nothing is left of the generation afterwards. -/
theorem Drops.recovered (h : first.Drops recorded d) {action : Action σ}
    (hspares : action.sparesHeld = true) (hasks : d.isQuiet action = false) :
    (d.step action).Recovered (d.takes action) := by
  have hcoherent := h.coherent.controller
  have hnext := h.coherent.step action
  cases action with
  | edit edit now =>
    have hchange : d.changes (.edit edit now) = true := by simpa [isQuiet] using hasks
    exact hnext.recovered_of_none h.held
      (Session.edit_of_not_live hcoherent h.ne_live hchange).2
  | begin =>
    have htakes : (d.step .begin).held = d.takes .begin := by
      simp only [Drive.step, h.held, List.nil_append, takes]
    rw [← htakes]
    exact hnext.recovered (Session.flight_begin_ne_abandoned hcoherent h.ne_live)
      (Session.prepares_begin hcoherent h.ne_live).recorded
  | poll now =>
    refine hnext.recovered_of_none h.held ?_
    obtain ⟨hreclaimed, -⟩ := Session.coherent_reclaimAt hcoherent now
    rcases Session.poll_eq_run_or_idle hcoherent now with ⟨-, hlive, hpoll⟩ | ⟨-, hpoll⟩
    · simp only [Drive.step, controller, hpoll]
      exact Session.flight_run hreclaimed hlive now
    · simp only [Drive.step, controller, hpoll]
      rw [Session.reclaimAt_of_abandoned h.flight now]
  | flush now =>
    refine hnext.recovered_of_none h.held ?_
    simp only [Drive.step, controller, Session.flush_eq_run]
    exact Session.flight_run hcoherent h.ne_live now
  | drift | complete | abandon => contradiction

/-- A generation is held while anything is done, given up, and then nothing is asked of the
controller for a while. Its engine is not called, then or later, and count, source and tree are
those of its beginning. To begin and to flush make an attempt with the current inputs. A poll arms
the timer if there was a change while the generation was held, and is itself due if there is no
interval to rest for; without a change it makes the controller idle. The next change arms the timer.
Whatever comes first, nothing is left of the generation afterwards. -/
theorem abandonment_leaves_nothing (settings : ControllerSettings) (registry : Registry σ)
    (emitters : EmitterTable) (world : σ) (before during later : List (Action σ))
    (pending : PendingGeneration σ)
    (hbegun : ((start settings registry emitters world).perform before).session.begin.2 =
      some pending)
    (hduring : ∀ action ∈ during, action.sparesHeld = true)
    (hlater : (((((start settings registry emitters world).perform before).step .begin).perform
      during).step .abandon).isLull later = true) :
    let begun := ((start settings registry emitters world).perform before).step .begin
    let dropped := ((begun.perform during).step .abandon).perform later
    let s := dropped.session
    let recorded := begun.changesWithin during
    ((begun.perform during).held = [pending] ∧ dropped.held = [] ∧
        s.calls = begun.session.calls ∧
        s.controller.generations = begun.controller.generations ∧
        s.controller.code = begun.controller.code ∧ s.controller.tree = begun.controller.tree) ∧
      (∀ rest, (dropped.perform rest).session.calls = begun.session.calls ++
          (gather completed dropped rest).map PendingGeneration.request ∧
        (gather Drive.begun dropped rest).Perm (gather completed dropped rest ++
          gather abandoned dropped rest ++ (dropped.perform rest).held)) ∧
      (s.begin.1.attempts = s.attempts ++ [s.ready] ∧
        (s.begin.2.isSome ↔ s.setback? = none)) ∧
      (∀ now, (s.flush now).attempts = s.attempts ++ [s.ready]) ∧
      (recorded = true → ∀ now,
        (s.reclaimAt now).controller.timer.deadline = some (now + settings.debounce) ∧
          (s.reclaimAt now).controller.state = .pending (now + settings.debounce) ∧
          s.poll now = if settings.debounce = 0 then ((s.reclaimAt now).run now, true)
            else (s.reclaimAt now, false)) ∧
      (recorded = false → ∀ now,
        (s.poll now).2 = false ∧ (s.poll now).1.controller.state = .idle ∧
          (s.poll now).1.controller.status = "Ready" ∧
          (s.poll now).1.controller.timer.deadline = none) ∧
      (∀ edit now, dropped.changes (.edit edit now) = true →
        (s.edit now edit).1.controller.timer.deadline = some (now + settings.debounce) ∧
          (s.edit now edit).1.controller.state = .pending (now + settings.debounce)) ∧
      ∀ action, action.sparesHeld = true → dropped.isQuiet action = false →
        (dropped.step action).Recovered (dropped.takes action) := by
  intro begun dropped s recorded
  have hstart := coherent_start settings registry emitters world
  have hbegan : begun.Holds pending false begun :=
    holds_of_begin (hstart.perform before) hbegun
  have hheld := hbegan.perform hduring
  rw [Bool.false_or] at hheld
  have hdrops : begun.Drops recorded dropped := hheld.abandon.perform hlater
  have hcoherent : s.controller.Coherent := hdrops.coherent.controller
  have hlive : s.controller.flight ≠ .live := hdrops.ne_live
  have hcalls : s.calls = begun.session.calls := hdrops.meets.calls.trans (List.append_nil _)
  have hsettings : dropped.controller.settings = settings :=
    hdrops.meets.settings.trans <|
      (meets_step (hstart.perform before) .begin).settings.trans (frame_perform hstart before).2
  have houtput : s.controller.output = begun.controller.output := hdrops.meets.output
  rw [Controller.output, Controller.output, Prod.mk.injEq] at houtput
  refine ⟨⟨hheld.held, hdrops.held, hcalls, hdrops.meets.count, houtput.1, houtput.2⟩, ?_, ?_, ?_,
    ?_, ?_, ?_, fun action => hdrops.recovered⟩
  · intro rest
    have hperm := dropped.gather_begun_perm rest
    rw [hdrops.held, List.nil_append] at hperm
    rw [(calls_perform hdrops.coherent rest).1]
    exact ⟨congrArg (· ++ _) hcalls, hperm⟩
  · refine ⟨(Session.attempts_begin_eq hcoherent hlive).1, ?_⟩
    rcases Session.begin_ends hcoherent hlive with ⟨hfate, hnone, -⟩ | ⟨error, hfate, hnone, -⟩ |
      ⟨id, instantiation, engine, hfate, -, -, -, hsome, -⟩
    · simp [hfate, hnone]
    · simp [hfate, hnone]
    · simp [hfate, hsome]
  · intro now
    rw [Session.flush_eq_run]
    exact Session.attempts_run_eq hcoherent hlive now
  · intro hrecorded now
    rw [hrecorded] at hdrops
    rw [← hsettings]
    exact hdrops.poll_of_recorded now
  · intro hrecorded now
    rw [hrecorded] at hdrops
    obtain ⟨hpoll, hidle⟩ := hdrops.poll_of_not_recorded now
    rw [hpoll]
    exact ⟨rfl, hidle⟩
  · intro edit now hchange
    rw [← hsettings]
    exact hdrops.edit hchange

/-- A generation is given up after the template was changed. The change is taken up by the next
poll, or generated by a flush. -/
theorem abandonment_leaves_nothing_edited :
    let before : List (Action Rehearsal) := [.edit (.input (.text "x")) 0]
    let during : List (Action Rehearsal) := [.edit (.input (.text "xy")) 10, .poll 500]
    let later : List (Action Rehearsal) := [.edit (.input (.text "xy")) 15]
    let begun := ((rehearse [.succeed]).perform before).step .begin
    let dropped := ((begun.perform during).step .abandon).perform later
    let s := dropped.session
    begun.held.length = 1 ∧ ((begun.perform during).step .abandon).isLull later = true ∧
      s.calls = [] ∧
      (s.reclaimAt 20).controller.timer.deadline = some 120 ∧
      s.poll 20 = (s.reclaimAt 20, false) ∧ (dropped.step (.poll 20)).Recovered [] ∧
      (s.flush 20).attempts = s.attempts ++ [s.ready] ∧
      (s.flush 20).calls = [⟨"echo", .script, "xy", ⟨some ⟨"text", "Text"⟩, false⟩⟩] := by
  intro before during later begun dropped s
  have hbegun : ((rehearse [.succeed]).perform before).session.begin.2 = some
      ⟨"echo", Rehearsal.engine 0, ⟨some ⟨"text", "Text"⟩, false⟩, "x"⟩ := rfl
  have hlull : ((begun.perform during).step .abandon).isLull later = true := by decide
  have hchanged : begun.changesWithin during = true := by decide
  obtain ⟨⟨-, -, hcalls, -⟩, -, -, hflush, hpoll, -, -, hrecovered⟩ :=
    abandonment_leaves_nothing {} _ _ _ before during later _ hbegun
      (by simp [during, Action.sparesHeld]) hlull
  obtain ⟨hdeadline, -, hpoll⟩ := hpoll hchanged 20
  exact ⟨by decide, hlull, hcalls, hdeadline, hpoll, hrecovered (.poll 20) rfl rfl, hflush 20,
    by decide⟩

end Drive

end TemplateInspector
