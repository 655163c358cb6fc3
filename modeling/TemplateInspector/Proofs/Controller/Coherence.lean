import TemplateInspector.Proofs.Controller.Display
import TemplateInspector.Proofs.Controller.Drive

/-!
# Coherence of the controller

State, timer, status, flight and the record of changes are kept apart, and each operation sets some
of them. In every state that a run reaches they nevertheless tell one story: the timer is armed with
the deadline that the state names, a generation is in flight exactly in the generating state, a
change is recorded in that state only, and status and output fit the state.
-/

namespace TemplateInspector

variable {σ : Type}

/-- The deadline that a state names. -/
def ControllerState.deadline? : ControllerState → Option Time
  | .pending deadline => some deadline
  | _ => none

/-- The status lines and trees that can be shown in a state. -/
def ControllerState.Shows (status : String) (tree : Option Block) : ControllerState → Prop
  | .idle => status = Status.ready
  | .pending _ => status ≠ Status.compiling
  | .generating => status = Status.compiling
  | .succeeded => status = Status.success ∧ tree.isSome
  | .failed reason =>
    status = Status.failure reason ∨
      reason = Status.errors ∧ status = Status.errors ∧ tree.isSome

/-- A failure is never shown as a generation in flight. -/
theorem Status.failure_ne_compiling (reason : String) :
    Status.failure reason ≠ Status.compiling := by
  intro h
  have hchars : ("Generation failed: " ++ reason).toList = "Compiling...".toList :=
    congrArg String.toList h
  rw [String.toList_append] at hchars
  simp at hchars

/-- The status of a generation in flight is shown in no other state. -/
theorem ControllerState.Shows.compiling_iff {state : ControllerState} {status : String}
    {tree : Option Block} (h : state.Shows status tree) :
    status = Status.compiling ↔ state = .generating := by
  cases state with
  | idle => simp [Shows] at h; simp [h, Status.ready, Status.compiling]
  | pending deadline => simpa [Shows] using h
  | generating => simpa [Shows] using h
  | succeeded => simp [Shows] at h; simp [h, Status.success, Status.compiling]
  | failed reason =>
    rcases h with h | ⟨-, h, -⟩
    · simp [h, Status.failure_ne_compiling]
    · simp [h, Status.errors, Status.compiling]

/-- A display with which an attempt can end: it is in no waiting state, status and tree fit its
state, and it has no source without a tree. -/
structure Display.Final (display : Display) : Prop where
  /-- Nothing is pending. -/
  deadline : display.state.deadline? = none
  /-- Nothing is in flight. -/
  landed : display.state ≠ .generating
  /-- Status and tree fit the state. -/
  shows : display.state.Shows display.status display.tree
  /-- There is no source without the tree from which it was generated. -/
  output : display.tree = none → display.code = ""

theorem Display.final_empty : Display.empty.Final :=
  ⟨rfl, by simp [empty], rfl, fun _ => rfl⟩

theorem Display.final_failure (reason : String) {code : String} {tree : Option Block}
    (h : tree = none → code = "") : (Display.failure reason code tree).Final :=
  ⟨rfl, by simp [failure], .inl rfl, h⟩

theorem Display.final_ofResult (code : String) (result : GenerationResult) :
    (Display.ofResult code result).Final := by
  unfold ofResult
  split
  · exact ⟨rfl, by simp, ⟨rfl, rfl⟩, by simp⟩
  · exact ⟨rfl, by simp, .inr ⟨rfl, rfl, rfl⟩, by simp⟩

/-- Whatever an engine came to can be shown at the end of an attempt. -/
theorem Display.final_display (emitters : EmitterTable) (language : Option Language)
    (outcome : Outcome) {code : String} {tree : Option Block} (h : tree = none → code = "") :
    (outcome.display emitters language code tree).Final := by
  cases outcome with
  | result answer =>
    simp only [Outcome.display]
    cases emitters.render language answer.code with
    | ok text => exact final_ofResult text answer
    | error error => exact final_failure error.message h
  | declined => exact final_empty
  | failed error => exact final_failure error.message h
  | panicked message => exact final_failure _ h

namespace Controller

/-- The fields of a controller tell one story. -/
structure Coherent (c : Controller) : Prop where
  /-- The timer is armed with the deadline that the state names. -/
  timer : c.timer.deadline = c.state.deadline?
  /-- A generation is held, or given up and not yet reclaimed, in the generating state only. -/
  flight : c.flight ≠ .none ↔ c.state = .generating
  /-- Changes are recorded in the generating state only. -/
  recorded : c.changedInFlight = true → c.state = .generating
  /-- Status and tree fit the state. -/
  shows : c.state.Shows c.status c.tree
  /-- There is no source without the tree from which it was generated. -/
  output : c.tree = none → c.code = ""

/-- Nothing is pending, in flight or recorded, whatever the state and the status say. -/
structure Grounded (c : Controller) : Prop where
  /-- The timer is not armed. -/
  timer : c.timer.deadline = none
  /-- No generation is in flight. -/
  flight : c.flight = .none
  /-- There is no source without the tree from which it was generated. -/
  output : c.tree = none → c.code = ""

/-- A controller is coherent at its start. -/
theorem coherent_initial (settings : ControllerSettings) (catalog : List EngineDescriptor) :
    (initial settings catalog).Coherent := by
  constructor <;> simp [initial, ControllerState.deadline?, ControllerState.Shows]

/-- Inputs have no part in coherence. -/
theorem Coherent.withInputs {c : Controller} (h : c.Coherent) (inputs : Inputs) :
    (c.withInputs inputs).Coherent :=
  ⟨h.timer, h.flight, h.recorded, h.shows, h.output⟩

/-- A controller that was coherent stays so when what was given up is reclaimed. -/
theorem Coherent.reclaim {c : Controller} (h : c.Coherent) : c.reclaim.1.Coherent := by
  unfold Controller.reclaim
  split
  case isTrue habandoned =>
    have hgenerating : c.state = .generating := h.flight.mp (by simp [habandoned])
    refine ⟨?_, ?_, ?_, ?_, h.output⟩
    · simpa [hgenerating, ControllerState.deadline?] using h.timer
    · simp
    · simp
    · simp [ControllerState.Shows]
  case isFalse => exact h

/-- After what was given up is reclaimed, a generation is in flight only if it is held. -/
theorem Coherent.reclaim_generating_iff {c : Controller} (h : c.Coherent) :
    c.reclaim.1.state = .generating ↔ c.flight = .live := by
  unfold Controller.reclaim
  split
  case isTrue habandoned => simp [habandoned]
  case isFalse hnot =>
    rw [← h.flight]
    cases hflight : c.flight <;> simp_all

/-- A timer that is due is armed, so nothing is in flight. -/
theorem Coherent.flight_of_isDue {c : Controller} (h : c.Coherent) {now : Time}
    (hdue : c.timer.isDue now = true) : c.flight = .none := by
  refine Decidable.byContradiction fun hflight => ?_
  have htimer := h.timer
  rw [h.flight.mp hflight] at htimer
  simp [DebounceTimer.isDue, htimer, ControllerState.deadline?] at hdue

/-- Taking note of a change keeps a controller coherent. -/
theorem Coherent.markChanged {c : Controller} (h : c.Coherent) (now : Time) :
    (c.markChanged now).Coherent := by
  have hr := h.reclaim
  rw [markChanged_eq]
  split
  case isTrue hgenerating => exact ⟨hr.timer, hr.flight, fun _ => hgenerating, hr.shows, hr.output⟩
  case isFalse hnot =>
    refine ⟨rfl, ?_, ?_, ?_, hr.output⟩
    · simpa [rearm, hnot] using hr.flight
    · intro hrecorded
      exact absurd (hr.recorded hrecorded) hnot
    · exact fun hstatus => hnot (hr.shows.compiling_iff.mp hstatus)

/-- Taking over inputs keeps a controller coherent. -/
theorem Coherent.take {c : Controller} (h : c.Coherent) (next : Inputs × Bool) (now : Time) :
    (c.take next now).Coherent := by
  unfold Controller.take
  split
  · exact (h.withInputs next.1).markChanged now
  · exact h.withInputs next.1

/-- Takes over inputs while a generation is in flight. -/
def note (c : Controller) (next : Inputs × Bool) : Controller :=
  { c.withInputs next.1 with changedInFlight := c.changedInFlight || next.2 }

/-- While a generation is held, taking over inputs records whether they are a change. The time does
not matter. -/
theorem Coherent.take_of_live {c : Controller} (h : c.Coherent) (hlive : c.flight = .live)
    (next : Inputs × Bool) (now : Time) : c.take next now = c.note next := by
  obtain ⟨inputs, changed⟩ := next
  cases changed with
  | true =>
    have hreclaim : (c.withInputs inputs).reclaim = (c.withInputs inputs, false) :=
      reclaim_of_ne_abandoned (by simp [hlive])
    have hgenerating : (c.withInputs inputs).state = .generating :=
      (h.withInputs inputs).flight.mp (by simp [hlive])
    rw [take_true, markChanged_eq, hreclaim, if_pos hgenerating, note, Bool.or_true]
  | false =>
    rw [take_false, note, Bool.or_false]
    rfl

/-- An attempt starts from the ground. -/
theorem Coherent.startAttempt {c : Controller} (h : c.Coherent) (hnot : c.state ≠ .generating)
    (catalog : List EngineDescriptor) : (c.startAttempt catalog).Grounded := by
  refine ⟨rfl, ?_, h.output⟩
  exact Decidable.byContradiction fun hflight => hnot (h.flight.mp hflight)

/-- A grounded controller without a recorded change is coherent with any display that ends an
attempt. -/
theorem Grounded.withDisplay {c : Controller} (h : c.Grounded)
    (hrecorded : c.changedInFlight = false) {display : Display} (hfinal : display.Final) :
    (c.withDisplay display).Coherent := by
  refine ⟨?_, ?_, ?_, hfinal.shows, hfinal.output⟩
  · exact h.timer.trans hfinal.deadline.symm
  · simpa [Controller.withDisplay, h.flight] using hfinal.landed
  · simp [Controller.withDisplay, hrecorded]

/-- An attempt can take off from the ground. -/
theorem Grounded.takeOff {c : Controller} (h : c.Grounded) : c.takeOff.Coherent :=
  ⟨h.timer, by simp [Controller.takeOff], fun _ => rfl, rfl, h.output⟩

/-- Giving up the generation in flight keeps a controller coherent. -/
theorem Coherent.abandon {c : Controller} (h : c.Coherent) (hlive : c.flight = .live) :
    c.abandon.Coherent := by
  have hgenerating : c.state = .generating := h.flight.mp (by simp [hlive])
  exact ⟨h.timer, by simp [Controller.abandon, hgenerating], h.recorded, h.shows, h.output⟩

/-- A generation that lands leaves a coherent controller, also before a recorded change is taken
note of. -/
theorem Coherent.landed {c : Controller} (h : c.Coherent) (hlive : c.flight = .live)
    (emitters : EmitterTable) (language : Option Language) (outcome : Outcome) :
    (c.landed emitters language outcome).Coherent := by
  -- Without its flight and its record the controller is grounded, though its state still says
  -- that it is generating. The outcome then sets the state.
  have hgenerating : c.state = .generating := h.flight.mp (by simp [hlive])
  have htimer : c.timer.deadline = none := by
    simpa [hgenerating, ControllerState.deadline?] using h.timer
  have hgrounded : Grounded { c with
      flight := .none, generations := c.generations + 1, changedInFlight := false } :=
    ⟨htimer, rfl, h.output⟩
  exact hgrounded.withDisplay rfl (Display.final_display emitters language outcome h.output)

/-- Completing the generation in flight keeps a controller coherent. -/
theorem Coherent.land {c : Controller} (h : c.Coherent) (hlive : c.flight = .live)
    (emitters : EmitterTable) (language : Option Language) (outcome : Outcome) (now : Time) :
    (c.land emitters language outcome now).Coherent := by
  rw [land_eq]
  split
  · exact (h.landed hlive emitters language outcome).markChanged now
  · exact h.landed hlive emitters language outcome

end Controller

namespace Session

/-- While a generation is held, no other one begins and nothing happens. -/
theorem begin_of_live {s : Session σ} (h : s.controller.Coherent)
    (hlive : s.controller.flight = .live) : s.begin = (s, none) := by
  rw [begin_of_generating (h.reclaim_generating_iff.mpr hlive),
    Controller.reclaim_of_ne_abandoned (by simp [hlive])]

/-- While no generation is held, an attempt is made. -/
theorem begin_of_not_live {s : Session σ} (h : s.controller.Coherent)
    (hlive : s.controller.flight ≠ .live) : s.begin = s.startAttempt.concludeAttempt :=
  begin_of_not_generating ((not_congr h.reclaim_generating_iff).mpr hlive)

/-- An attempt that has started stands on the ground, with no change recorded. -/
theorem grounded_startAttempt {s : Session σ} (h : s.controller.Coherent)
    (hlive : s.controller.flight ≠ .live) :
    s.startAttempt.controller.Grounded ∧ s.startAttempt.controller.changedInFlight = false := by
  have hnot := (not_congr h.reclaim_generating_iff).mpr hlive
  refine ⟨h.reclaim.startAttempt hnot _, ?_⟩
  exact Bool.eq_false_iff.mpr fun hrecorded => hnot (h.reclaim.recorded hrecorded)

/-- An attempt ends coherently, and something is in flight exactly if a generation has begun. -/
theorem Attempt.coherent {s s' : Session σ} {pending : Option (PendingGeneration σ)}
    (h : Attempt s s' pending) (hgrounded : s.controller.Grounded)
    (hrecorded : s.controller.changedInFlight = false) :
    s'.controller.Coherent ∧ (s'.controller.flight = .live ↔ pending.isSome) := by
  cases h with
  | nothing =>
    refine ⟨hgrounded.withDisplay hrecorded Display.final_empty, ?_⟩
    simp [Controller.clearOutput_eq, Controller.withDisplay, hgrounded.flight]
  | unbuilt =>
    refine ⟨hgrounded.withDisplay hrecorded (Display.final_failure _ hgrounded.output), ?_⟩
    simp [Controller.fail_eq, Controller.withDisplay, hgrounded.flight]
  | begun => exact ⟨hgrounded.takeOff, by simp [Controller.takeOff]⟩

/-- Beginning a generation keeps the controller coherent. Something is then in flight exactly if it
was before or a generation has begun. -/
theorem coherent_begin {s : Session σ} (h : s.controller.Coherent) :
    s.begin.1.controller.Coherent ∧
      (s.begin.1.controller.flight = .live ↔ s.controller.flight = .live ∨ s.begin.2.isSome) := by
  by_cases hlive : s.controller.flight = .live
  · rw [begin_of_live h hlive]
    exact ⟨h, by simp⟩
  · obtain ⟨hgrounded, hrecorded⟩ := grounded_startAttempt h hlive
    rw [begin_of_not_live h hlive]
    obtain ⟨hcoherent, hflight⟩ :=
      (attempt_concludeAttempt s.startAttempt).coherent hgrounded hrecorded
    exact ⟨hcoherent, by simpa [hlive] using hflight⟩

/-- A completed generation leaves the controller coherent and is no longer held. -/
theorem coherent_complete {s : Session σ} (h : s.controller.Coherent)
    (hlive : s.controller.flight = .live) (pending : PendingGeneration σ) (now : Time) :
    (s.complete pending now).controller.Coherent ∧
      (s.complete pending now).controller.flight ≠ .live := by
  refine ⟨h.land hlive _ _ _ now, ?_⟩
  simp only [complete, controller_record, Controller.land_eq]
  split <;> simp [Controller.landed, Controller.withDisplay]

/-- While a generation is held, asking for another one does nothing. -/
theorem run_of_live {s : Session σ} (h : s.controller.Coherent)
    (hlive : s.controller.flight = .live) (now : Time) : s.run now = s := by
  simp only [run, begin_of_live h hlive]

/-- A generation that is begun and completed at once leaves the controller coherent. What was held
before is still held, and nothing else. -/
theorem coherent_run {s : Session σ} (h : s.controller.Coherent) (now : Time) :
    (s.run now).controller.Coherent ∧
      ((s.run now).controller.flight = .live ↔ s.controller.flight = .live) := by
  obtain ⟨hcoherent, hflight⟩ := coherent_begin h
  by_cases hlive : s.controller.flight = .live
  · rw [run_of_live h hlive now]
    exact ⟨h, Iff.rfl⟩
  · rcases hbegin : s.begin with ⟨s', pending⟩
    simp only [hbegin] at hcoherent hflight
    cases pending with
    | none =>
      simp only [run, hbegin]
      exact ⟨hcoherent, by simpa [hlive] using hflight⟩
    | some pending =>
      simp only [run, hbegin]
      obtain ⟨hdone, hlanded⟩ := coherent_complete hcoherent (hflight.mpr (.inr rfl)) pending now
      exact ⟨hdone, iff_of_false hlanded hlive⟩

/-- There is nothing to reclaim unless a generation was given up. -/
theorem reclaimAt_of_ne_abandoned {s : Session σ} (h : s.controller.flight ≠ .abandoned)
    (now : Time) : s.reclaimAt now = s := by
  simp only [reclaimAt, Controller.reclaim_of_ne_abandoned h]

/-- Polling before the deadline does nothing if nothing was given up. -/
theorem poll_of_not_due {s : Session σ} (h : s.controller.flight ≠ .abandoned) {now : Time}
    (hdue : s.controller.timer.isDue now = false) : s.poll now = (s, false) := by
  simp only [poll, reclaimAt_of_ne_abandoned h, hdue, Bool.false_eq_true, ite_false]

/-- While a generation is held, polling does nothing. -/
theorem poll_of_live {s : Session σ} (h : s.controller.Coherent)
    (hlive : s.controller.flight = .live) (now : Time) : s.poll now = (s, false) := by
  refine poll_of_not_due (by simp [hlive]) (Bool.eq_false_iff.mpr fun hdue => ?_)
  simp [h.flight_of_isDue hdue] at hlive

/-- While a generation is held, flushing does nothing. -/
theorem flush_of_live {s : Session σ} (h : s.controller.Coherent)
    (hlive : s.controller.flight = .live) (now : Time) : s.flush now = s := by
  rw [flush, Controller.reclaim_of_ne_abandoned (by simp [hlive])]
  exact run_of_live h hlive now

/-- Reclaiming at a time keeps the controller coherent and what is held. -/
theorem coherent_reclaimAt {s : Session σ} (h : s.controller.Coherent) (now : Time) :
    (s.reclaimAt now).controller.Coherent ∧
      ((s.reclaimAt now).controller.flight = .live ↔ s.controller.flight = .live) := by
  have hr := h.reclaim
  have hlive := @Controller.flight_reclaim_eq_live_iff s.controller
  rcases hreclaim : s.controller.reclaim with ⟨c, recorded⟩
  simp only [hreclaim] at hr hlive
  cases recorded with
  | true =>
    simp only [reclaimAt, hreclaim]
    exact ⟨hr.markChanged now, Controller.flight_markChanged_eq_live_iff.trans hlive⟩
  | false =>
    simp only [reclaimAt, hreclaim]
    exact ⟨hr, hlive⟩

/-- Polling reclaims what was given up. If the timer is due then, nothing is held and a generation
is run; else nothing more happens. -/
theorem poll_eq_run_or_idle {s : Session σ} (h : s.controller.Coherent) (now : Time) :
    ((s.reclaimAt now).controller.timer.isDue now = true ∧
        (s.reclaimAt now).controller.flight ≠ .live ∧
        s.poll now = ((s.reclaimAt now).run now, true)) ∨
      ((s.reclaimAt now).controller.timer.isDue now = false ∧
        s.poll now = (s.reclaimAt now, false)) := by
  obtain ⟨hreclaimed, -⟩ := coherent_reclaimAt h now
  cases hdue : (s.reclaimAt now).controller.timer.isDue now with
  | true =>
    refine .inl ⟨rfl, by simp [hreclaimed.flight_of_isDue hdue], ?_⟩
    simp only [poll, hdue, ite_true]
  | false =>
    refine .inr ⟨rfl, ?_⟩
    simp only [poll, hdue, Bool.false_eq_true, ite_false]

/-- Polling keeps the controller coherent and what is held. -/
theorem coherent_poll {s : Session σ} (h : s.controller.Coherent) (now : Time) :
    (s.poll now).1.controller.Coherent ∧
      ((s.poll now).1.controller.flight = .live ↔ s.controller.flight = .live) := by
  obtain ⟨hreclaimed, hlive⟩ := coherent_reclaimAt h now
  simp only [poll]
  split
  · obtain ⟨hrun, hheld⟩ := coherent_run hreclaimed now
    exact ⟨hrun, hheld.trans hlive⟩
  · exact ⟨hreclaimed, hlive⟩

/-- Flushing keeps the controller coherent and what is held. -/
theorem coherent_flush {s : Session σ} (h : s.controller.Coherent) (now : Time) :
    (s.flush now).controller.Coherent ∧
      ((s.flush now).controller.flight = .live ↔ s.controller.flight = .live) := by
  obtain ⟨hrun, hheld⟩ :=
    coherent_run (s := { s with controller := s.controller.reclaim.1 }) h.reclaim now
  exact ⟨hrun, hheld.trans Controller.flight_reclaim_eq_live_iff⟩

/-- An edit keeps the controller coherent and what is held. -/
theorem coherent_edit {s : Session σ} (h : s.controller.Coherent) (now : Time) (edit : Edit σ) :
    (s.edit now edit).1.controller.Coherent ∧
      ((s.edit now edit).1.controller.flight = .live ↔ s.controller.flight = .live) := by
  rcases s.controller_edit now edit with ⟨hsame, -⟩ | ⟨input, next, -, htake, -⟩
  · rw [hsame]
    exact ⟨h, Iff.rfl⟩
  · rw [htake]
    exact ⟨h.take next now, Controller.flight_take_eq_live_iff⟩

end Session

namespace Drive

/-- A drive in which the controller is coherent and the driver holds what is in flight. -/
structure Coherent (d : Drive σ) : Prop where
  /-- The controller tells one story. -/
  controller : d.controller.Coherent
  /-- The driver holds one generation at most. -/
  single : d.held.length ≤ 1
  /-- A generation is in flight and not given up exactly while the driver holds one. -/
  live : d.controller.flight = .live ↔ d.held ≠ []

/-- A drive is coherent at its start. -/
theorem coherent_start (settings : ControllerSettings) (registry : Registry σ)
    (emitters : EmitterTable) (world : σ) : (start settings registry emitters world).Coherent :=
  ⟨Controller.coherent_initial _ _, by simp [start], by
    simp [start, controller, Session.initial, Controller.initial]⟩

/-- A driver that holds a generation cannot begin another one. -/
theorem Coherent.step_begin_of_held {d : Drive σ} (h : d.Coherent) (hheld : d.held ≠ []) :
    d.step .begin = d := by
  simp only [Drive.step, Session.begin_of_live h.controller (h.live.mpr hheld), Option.toList_none,
    List.append_nil]

/-- Every action keeps a drive coherent. -/
theorem Coherent.step {d : Drive σ} (h : d.Coherent) (action : Action σ) :
    (d.step action).Coherent := by
  cases action with
  | edit edit now =>
    obtain ⟨hcoherent, hlive⟩ := Session.coherent_edit h.controller now edit
    exact ⟨hcoherent, h.single, hlive.trans h.live⟩
  | poll now =>
    obtain ⟨hcoherent, hlive⟩ := Session.coherent_poll h.controller now
    exact ⟨hcoherent, h.single, hlive.trans h.live⟩
  | flush now =>
    obtain ⟨hcoherent, hlive⟩ := Session.coherent_flush h.controller now
    exact ⟨hcoherent, h.single, hlive.trans h.live⟩
  | drift world => exact ⟨h.controller, h.single, h.live⟩
  | begin =>
    by_cases hheld : d.held = []
    · obtain ⟨hcoherent, hlive⟩ := Session.coherent_begin h.controller
      have hnot : d.session.controller.flight ≠ .live := (not_congr h.live).mpr (by simp [hheld])
      refine ⟨hcoherent, ?_, ?_⟩
      · cases hbegin : d.session.begin.2 <;> simp [Drive.step, hheld, hbegin]
      · simp only [hnot, false_or] at hlive
        cases hbegin : d.session.begin.2 <;> simp [Drive.step, hheld, hlive, hbegin]
    · rw [h.step_begin_of_held hheld]
      exact h
  | complete now =>
    rcases hheld : d.held with _ | ⟨pending, others⟩
    · simpa only [Drive.step, hheld] using h
    · obtain ⟨hcoherent, hlive⟩ := Session.coherent_complete h.controller
        (h.live.mpr (by simp [hheld])) pending now
      have hothers : others = [] := by simpa [hheld] using h.single
      simp only [Drive.step, hheld, hothers]
      exact ⟨hcoherent, by simp, by simpa using hlive⟩
  | abandon =>
    rcases hheld : d.held with _ | ⟨pending, others⟩
    · simpa only [Drive.step, hheld] using h
    · have hlive : d.controller.flight = .live := h.live.mpr (by simp [hheld])
      have hothers : others = [] := by simpa [hheld] using h.single
      simp only [Drive.step, hheld, hothers]
      exact ⟨h.controller.abandon hlive, by simp, by
        simp [Session.abandon, Controller.abandon]⟩

/-- Every run keeps a drive coherent. -/
theorem Coherent.perform {d : Drive σ} (h : d.Coherent) (actions : List (Action σ)) :
    (d.perform actions).Coherent := by
  induction actions generalizing d with
  | nil => exact h
  | cons action actions ih => exact ih (h.step action)

/-- In every state that a run reaches, the timer is armed with exactly the deadline that the state
names; the generating state, a generation in flight and the status for one go together; a change is
recorded only there; status and tree fit the state; and there is no source without a tree. -/
theorem fields_agree (settings : ControllerSettings) (registry : Registry σ)
    (emitters : EmitterTable) (world : σ) (actions : List (Action σ)) :
    let c := ((start settings registry emitters world).perform actions).controller
    (∀ deadline, c.timer.deadline = some deadline ↔ c.state = .pending deadline) ∧
      (c.state = .generating ↔ c.flight ≠ .none) ∧
      (c.state = .generating ↔ c.status = "Compiling...") ∧
      (c.changedInFlight = true → c.state = .generating) ∧
      (c.state = .idle → c.status = "Ready") ∧
      (c.state = .succeeded → c.status = "Success" ∧ c.tree.isSome) ∧
      (∀ reason, c.state = .failed reason →
        c.status = "Generation failed: " ++ reason ∨
          reason = "Errors during compilation" ∧ c.status = "Errors during compilation" ∧
            c.tree.isSome) ∧
      (c.tree = none → c.code = "") := by
  intro c
  have h : c.Coherent :=
    ((coherent_start settings registry emitters world).perform actions).controller
  refine ⟨?_, h.flight.symm, h.shows.compiling_iff.symm, h.recorded, ?_, ?_, ?_, h.output⟩
  · intro deadline
    rw [h.timer]
    cases c.state <;> simp [ControllerState.deadline?]
  · intro hidle
    have hshows := h.shows
    rwa [hidle] at hshows
  · intro hsucceeded
    have hshows := h.shows
    rwa [hsucceeded] at hshows
  · intro reason hfailed
    have hshows := h.shows
    rwa [hfailed] at hshows

end Drive

end TemplateInspector
