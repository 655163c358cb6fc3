import TemplateInspector.Proofs.Controller.Debt
import TemplateInspector.Proofs.Controller.Fate

/-!
# When the timer is due

The timer of a session is told from the outside by its events: it is armed at some times, and every
attempt stops it. The deadline is that of the last event: an interval after the time at which the
timer was armed, or none after an attempt. Polling makes an attempt exactly if this deadline has
come, and otherwise does nothing but reclaim what was given up.
-/

namespace TemplateInspector

variable {σ : Type}

/-- What happens to a timer. -/
inductive TimerEvent
  /-- It is armed anew at a time. -/
  | armed (now : Time)
  /-- An attempt stops it. -/
  | attempted
  deriving DecidableEq, Repr

/-- The deadline that an event leaves, if edits have to rest for an interval. -/
def TimerEvent.deadline? (interval : Nat) : TimerEvent → Option Time
  | armed now => some (now + interval)
  | attempted => none

namespace Controller

/-- Unless a generation is held, a change arms the timer. -/
theorem Coherent.markChanged_of_not_live {c : Controller} (h : c.Coherent)
    (hlive : c.flight ≠ .live) (now : Time) :
    (c.markChanged now).timer.deadline = some (now + c.settings.debounce) ∧
      (c.markChanged now).flight = .none := by
  have hnot : c.reclaim.1.state ≠ .generating := (not_congr h.reclaim_generating_iff).mpr hlive
  have hflight : c.reclaim.1.flight = .none :=
    Decidable.byContradiction fun hflight => hnot (h.reclaim.flight.mp hflight)
  rw [markChanged_eq, if_neg hnot, ← c.frame_reclaim.1]
  exact ⟨rfl, hflight⟩

/-- A landed generation arms the timer if a change was recorded, and else leaves it as it is. -/
theorem Coherent.deadline_land {c : Controller} (h : c.Coherent) (hlive : c.flight = .live)
    (emitters : EmitterTable) (language : Option Language) (outcome : Outcome) (now : Time) :
    (c.land emitters language outcome now).timer.deadline =
        (if c.changedInFlight then some (now + c.settings.debounce) else c.timer.deadline) ∧
      (c.land emitters language outcome now).flight = .none := by
  have hlanded := h.landed hlive emitters language outcome
  have hflight : (c.landed emitters language outcome).flight = .none := rfl
  rw [land_eq]
  split
  · exact hlanded.markChanged_of_not_live (by simp [hflight]) now
  · exact ⟨rfl, rfl⟩

end Controller

namespace Session

/-- Reclaiming a generation that was given up leaves nothing in flight and nothing recorded. It arms
the timer if changes had been recorded; beyond that nothing happens. -/
theorem reclaimAt_of_abandoned {s : Session σ} (h : s.controller.flight = .abandoned)
    (now : Time) :
    s.reclaimAt now = { s with controller := { s.controller with
      flight := .none
      changedInFlight := false
      status := Status.ready
      state := if s.controller.changedInFlight then .pending (now + s.controller.settings.debounce)
        else .idle
      timer := if s.controller.changedInFlight then
          s.controller.timer.arm now s.controller.settings.debounce
        else s.controller.timer } } := by
  have hreclaim : s.controller.reclaim = ({ s.controller with
      flight := .none, state := .idle, status := Status.ready, changedInFlight := false },
      s.controller.changedInFlight) := if_pos h
  cases hrecorded : s.controller.changedInFlight with
  | true =>
    simp only [reclaimAt, hreclaim, hrecorded, ite_true]
    rfl
  | false =>
    simp only [reclaimAt, hreclaim, hrecorded, Bool.false_eq_true, ite_false]

/-- An edit that reports no change leaves the timer, the flight and the record as they are. -/
theorem edit_of_not_change {s : Session σ} {now : Time} {edit : Edit σ}
    (hchange : (s.edit now edit).2.isChange = false) :
    (s.edit now edit).1.controller.timer = s.controller.timer ∧
      (s.edit now edit).1.controller.flight = s.controller.flight ∧
      (s.edit now edit).1.controller.changedInFlight = s.controller.changedInFlight := by
  rcases s.controller_edit now edit with ⟨hsame, -⟩ | ⟨input, ⟨inputs, changed⟩, -, htake, hreply⟩
  · rw [hsame]
    exact ⟨rfl, rfl, rfl⟩
  · obtain rfl : changed = false := hreply.symm.trans hchange
    rw [htake]
    exact ⟨rfl, rfl, rfl⟩

/-- While a generation is held, a change is recorded and the timer waits for the generation. -/
theorem edit_of_live {s : Session σ} (h : s.controller.Coherent)
    (hlive : s.controller.flight = .live) {now : Time} {edit : Edit σ}
    (hchange : (s.edit now edit).2.isChange = true) :
    (s.edit now edit).1.controller.timer = s.controller.timer ∧
      (s.edit now edit).1.controller.changedInFlight = true := by
  rcases s.controller_edit now edit with ⟨-, hreply⟩ | ⟨input, ⟨inputs, changed⟩, -, htake, hreply⟩
  · simp [hchange] at hreply
  · obtain rfl : changed = true := hreply.symm.trans hchange
    rw [htake, h.take_of_live hlive]
    exact ⟨rfl, Bool.or_true _⟩

/-- While no generation is held, a change arms the timer and leaves nothing in flight. -/
theorem edit_of_not_live {s : Session σ} (h : s.controller.Coherent)
    (hlive : s.controller.flight ≠ .live) {now : Time} {edit : Edit σ}
    (hchange : (s.edit now edit).2.isChange = true) :
    (s.edit now edit).1.controller.timer.deadline =
        some (now + s.controller.settings.debounce) ∧
      (s.edit now edit).1.controller.flight = .none := by
  rcases s.controller_edit now edit with ⟨-, hreply⟩ | ⟨input, ⟨inputs, changed⟩, -, htake, hreply⟩
  · simp [hchange] at hreply
  · obtain rfl : changed = true := hreply.symm.trans hchange
    rw [htake]
    exact (h.withInputs inputs).markChanged_of_not_live hlive now

/-- After an attempt whose generation was completed at once the timer is not armed and no change is
recorded. -/
theorem rests_run {s : Session σ} (h : s.controller.Coherent)
    (hlive : s.controller.flight ≠ .live) (now : Time) :
    (s.run now).controller.timer.deadline = none ∧
      (s.run now).controller.changedInFlight = false := by
  have hprepares := prepares_begin h hlive
  rcases hs : s.begin with ⟨s', pending⟩
  rw [hs] at hprepares
  have hdeadline : s'.controller.timer.deadline = none := hprepares.deadline
  have hrecorded : s'.controller.changedInFlight = false := hprepares.recorded
  cases pending with
  | none =>
    simp only [run, hs]
    exact ⟨hdeadline, hrecorded⟩
  | some pending =>
    simp only [run, hs, complete, controller_record, Controller.land_eq, hrecorded,
      Bool.false_eq_true, ite_false]
    exact ⟨hdeadline, rfl⟩

end Session

namespace Drive

/-- The time for which an action arms the timer, if it does. An edit arms it that reports a change
while no generation is held; so does the completion of a generation, and a poll that reclaims one
that was given up, if there was a change since the last attempt. -/
def arming? (d : Drive σ) (changed : Bool) : Action σ → Option Time
  | .edit edit now => if d.held.isEmpty && d.changes (.edit edit now) then some now else none
  | .complete now => if !d.held.isEmpty && changed then some now else none
  | .poll now => if d.controller.flight = .abandoned ∧ changed = true then some now else none
  | .begin | .abandon | .flush _ | .drift _ => none

/-- The number of attempts that an action makes. -/
def attemptsMade (d : Drive σ) (action : Action σ) : Nat :=
  (d.step action).session.attempts.length - d.session.attempts.length

/-- What an action does to the timer: it may arm it and then make attempts. -/
def timerEvents (d : Drive σ) (changed : Bool) (action : Action σ) : List TimerEvent :=
  ((d.arming? changed action).map .armed).toList ++
    List.replicate (d.attemptsMade action) .attempted

/-- Whether there is a change since the last attempt after an action. -/
def changedAfter (d : Drive σ) (changed : Bool) (action : Action σ) : Bool :=
  if d.attemptsMade action = 0 then changed || d.changes action else false

/-- The events of the timer in a run, in order. -/
def timeline (d : Drive σ) (changed : Bool) : List (Action σ) → List TimerEvent
  | [] => []
  | action :: actions =>
    d.timerEvents changed action ++ (d.step action).timeline (d.changedAfter changed action) actions

/-- Whether there was a change since the last attempt is what the controller has recorded, as long
as a generation is in flight or given up. -/
structure Tracks (d : Drive σ) (changed : Bool) : Prop where
  /-- The drive is coherent. -/
  coherent : d.Coherent
  /-- A change is recorded if there was one. -/
  recorded : d.controller.flight ≠ .none → d.controller.changedInFlight = changed

/-- The deadline after an action, as its events tell. -/
def Follows (d : Drive σ) (changed : Bool) (action : Action σ) : Prop :=
  (d.step action).Tracks (d.changedAfter changed action) ∧
    (d.step action).controller.timer.deadline =
      (d.timerEvents changed action).getLast?.elim d.controller.timer.deadline
        (TimerEvent.deadline? d.controller.settings.debounce)

variable {d : Drive σ} {changed : Bool} {action : Action σ}

theorem Tracks.follows_of_attempts (h : d.Tracks changed)
    (hattempts : d.session.Attempts (d.step action).session)
    (hrests : (d.step action).controller.timer.deadline = none ∧
      (d.step action).controller.changedInFlight = false) : d.Follows changed action := by
  have hmade : d.attemptsMade action = 1 := by
    rw [attemptsMade, hattempts, List.length_append, List.length_singleton, Nat.add_sub_cancel_left]
  refine ⟨⟨h.coherent.step action, fun _ => ?_⟩, ?_⟩
  · simp only [changedAfter, hmade, hrests.2, Nat.one_ne_zero, ite_false]
  · simp only [timerEvents, hmade, List.replicate_one, List.getLast?_concat, Option.elim_some,
      TimerEvent.deadline?, hrests.1]

theorem Tracks.follows_of_same (h : d.Tracks changed)
    (hattempts : (d.step action).session.attempts = d.session.attempts)
    (hrecorded : (d.step action).controller.flight ≠ .none →
      (d.step action).controller.changedInFlight = (changed || d.changes action))
    (hdeadline : (d.step action).controller.timer.deadline =
      (d.arming? changed action).elim d.controller.timer.deadline fun now =>
        some (now + d.controller.settings.debounce)) : d.Follows changed action := by
  have hmade : d.attemptsMade action = 0 := by
    rw [attemptsMade, hattempts, Nat.sub_self]
  refine ⟨⟨h.coherent.step action, fun hflight => ?_⟩, ?_⟩
  · simp only [changedAfter, hmade, hrecorded hflight, ite_true]
  · rw [hdeadline]
    simp only [timerEvents, hmade, List.replicate_zero, List.append_nil]
    cases d.arming? changed action <;> rfl

/-- An action without an event leaves the deadline and the record as they are. -/
theorem Tracks.follows_of_still (h : d.Tracks changed)
    (hattempts : (d.step action).session.attempts = d.session.attempts)
    (harming : d.arming? changed action = none) (hchanges : d.changes action = false)
    (hdeadline : (d.step action).controller.timer.deadline = d.controller.timer.deadline)
    (hrecorded : (d.step action).controller.changedInFlight = d.controller.changedInFlight)
    (hflight : (d.step action).controller.flight ≠ .none → d.controller.flight ≠ .none) :
    d.Follows changed action := by
  refine h.follows_of_same hattempts (fun hafter => ?_) ?_
  · rw [hrecorded, h.recorded (hflight hafter), hchanges, Bool.or_false]
  · rw [hdeadline, harming, Option.elim_none]

/-- An action that does nothing has no event. -/
theorem Tracks.follows_of_eq (h : d.Tracks changed) (hstep : d.step action = d)
    (harming : d.arming? changed action = none) (hchanges : d.changes action = false) :
    d.Follows changed action := by
  refine h.follows_of_still ?_ harming hchanges ?_ ?_ ?_ <;> rw [hstep]
  exact id

/-- The events of an edit tell the deadline after it. -/
theorem Tracks.follows_edit (h : d.Tracks changed) (edit : Edit σ) (now : Time) :
    d.Follows changed (.edit edit now) := by
  have hcoherent := h.coherent.controller
  have hattempts : (d.step (.edit edit now)).session.attempts = d.session.attempts := by
    simp only [step, Session.attempts, Session.history_edit]
  cases hchanges : d.changes (.edit edit now) with
  | false =>
    obtain ⟨htimer, hflight, hrecorded⟩ := Session.edit_of_not_change hchanges
    refine h.follows_of_still hattempts ?_ hchanges (congrArg _ htimer) hrecorded fun hafter => ?_
    · simp only [arming?, hchanges, Bool.and_false, Bool.false_eq_true, ite_false]
    · exact fun hbefore => hafter (hflight.trans hbefore)
  | true =>
    by_cases hlive : d.controller.flight = .live
    · have hheld : d.held.isEmpty = false := by simpa using h.coherent.live.mp hlive
      obtain ⟨htimer, hrecorded⟩ := Session.edit_of_live hcoherent hlive hchanges
      refine h.follows_of_same hattempts (fun _ => ?_) ?_
      · rw [hchanges, Bool.or_true]
        exact hrecorded
      · simp only [arming?, hheld, Bool.false_and, Bool.false_eq_true, ite_false, Option.elim_none]
        exact congrArg _ htimer
    · have hheld : d.held.isEmpty = true := by
        simpa using (not_congr h.coherent.live).mp hlive
      obtain ⟨hdeadline, hflight⟩ := Session.edit_of_not_live hcoherent hlive hchanges
      refine h.follows_of_same hattempts (fun hafter => absurd hflight hafter) ?_
      simp only [arming?, hheld, hchanges, Bool.and_self, ite_true, Option.elim_some]
      exact hdeadline

/-- The events of a completion tell the deadline after it. -/
theorem Tracks.follows_complete (h : d.Tracks changed) (now : Time) :
    d.Follows changed (.complete now) := by
  rcases hheld : d.held with _ | ⟨pending, others⟩
  · exact h.follows_of_eq (by simp only [step, hheld]) (by simp [arming?, hheld]) rfl
  · have hlive : d.controller.flight = .live := h.coherent.live.mpr (by simp [hheld])
    have hstep : d.step (.complete now) = ⟨d.session.complete pending now, others⟩ := by
      simp only [step, hheld]
    have hrecorded : d.session.controller.changedInFlight = changed :=
      h.recorded (by simp [hlive])
    obtain ⟨hdeadline, hflight⟩ := h.coherent.controller.deadline_land hlive d.session.emitters
      pending.host.language
      (pending.engine.generate pending.source pending.host d.session.world).1 now
    refine h.follows_of_same ?_ (fun hafter => absurd ?_ hafter) ?_ <;> rw [hstep]
    · exact (d.session.inputs_complete pending now).1
    · exact hflight
    · refine hdeadline.trans ?_
      simp only [arming?, hheld, List.isEmpty_cons, Bool.not_false, Bool.true_and, controller,
        hrecorded]
      cases changed <;> rfl

/-- The events of a poll tell the deadline after it. -/
theorem Tracks.follows_poll (h : d.Tracks changed) (now : Time) :
    d.Follows changed (.poll now) := by
  have hcoherent := h.coherent.controller
  have hkeeps := Session.keeps_reclaimAt hcoherent now
  obtain ⟨hreclaimed, -⟩ := Session.coherent_reclaimAt hcoherent now
  rcases Session.poll_eq_run_or_idle hcoherent now with ⟨-, hlive, hpoll⟩ | ⟨-, hpoll⟩
  · have hstep : (d.step (.poll now)).session = (d.session.reclaimAt now).run now := by
      simp only [step, hpoll]
    refine h.follows_of_attempts ?_ ?_
    · rw [hstep]
      exact hkeeps.attempts_trans (Session.attempts_run hreclaimed hlive now)
    · rw [controller, hstep]
      exact Session.rests_run hreclaimed hlive now
  · by_cases habandoned : d.controller.flight = .abandoned
    · have hstep : (d.step (.poll now)).session = d.session.reclaimAt now := by
        simp only [step, hpoll]
      have hrecorded : d.session.controller.changedInFlight = changed :=
        h.recorded (by simp [habandoned])
      rw [Session.reclaimAt_of_abandoned habandoned, hrecorded] at hstep
      refine h.follows_of_same ?_ (fun hafter => absurd ?_ hafter) ?_
      · rw [hstep]
        rfl
      · rw [controller, hstep]
      · rw [controller, hstep]
        simp only [arming?, habandoned, true_and]
        cases changed <;> rfl
    · rw [Session.reclaimAt_of_ne_abandoned habandoned] at hpoll
      refine h.follows_of_eq (by simp only [step, hpoll]) ?_ rfl
      simp only [arming?, habandoned, false_and, ite_false]

/-- The events of every action tell the deadline after it. -/
theorem Tracks.follows (h : d.Tracks changed) (action : Action σ) : d.Follows changed action := by
  have hcoherent := h.coherent.controller
  cases action with
  | edit edit now => exact h.follows_edit edit now
  | begin =>
    by_cases hlive : d.controller.flight = .live
    · exact h.follows_of_eq (h.coherent.step_begin_of_held (h.coherent.live.mp hlive)) rfl rfl
    · have hprepares := Session.prepares_begin hcoherent hlive
      exact h.follows_of_attempts (Session.attempts_begin hcoherent hlive)
        ⟨hprepares.deadline, hprepares.recorded⟩
  | complete now => exact h.follows_complete now
  | abandon =>
    rcases hheld : d.held with _ | ⟨pending, others⟩
    · exact h.follows_of_eq (by simp only [step, hheld]) rfl rfl
    · have hlive : d.controller.flight = .live := h.coherent.live.mpr (by simp [hheld])
      have hstep : d.step .abandon = ⟨d.session.abandon, others⟩ := by simp only [step, hheld]
      refine h.follows_of_still ?_ rfl rfl ?_ ?_ (fun _ => by simp [hlive]) <;> rw [hstep] <;> rfl
  | poll now => exact h.follows_poll now
  | flush now =>
    by_cases hlive : d.controller.flight = .live
    · exact h.follows_of_eq (by simp only [step, Session.flush_of_live hcoherent hlive]) rfl rfl
    · have hreclaimed : d.session.reclaimed.controller.flight ≠ .live :=
        (not_congr Controller.flight_reclaim_eq_live_iff).mpr hlive
      exact h.follows_of_attempts
        (Session.attempts_run (s := d.session.reclaimed) hcoherent.reclaim hreclaimed now)
        (Session.rests_run (s := d.session.reclaimed) hcoherent.reclaim hreclaimed now)
  | drift world => exact h.follows_of_still rfl rfl rfl rfl rfl id

/-- The events of a run tell the deadline at its end. -/
theorem Tracks.deadline_perform (h : d.Tracks changed) (actions : List (Action σ)) :
    (d.perform actions).controller.timer.deadline =
      (d.timeline changed actions).getLast?.elim d.controller.timer.deadline
        (TimerEvent.deadline? d.controller.settings.debounce) := by
  induction actions generalizing d changed with
  | nil => rfl
  | cons action actions ih =>
    obtain ⟨htracks, hdeadline⟩ := h.follows action
    have hsettings : (d.step action).controller.settings = d.controller.settings :=
      (meets_step h.coherent action).settings
    rw [perform_cons, ih htracks, hsettings, timeline, List.getLast?_append]
    cases ((d.step action).timeline (d.changedAfter changed action) actions).getLast? with
    | some event => rfl
    | none => exact hdeadline

/-- Polling makes one attempt and leaves the timer stopped if, after what was given up is reclaimed,
the deadline has come; else it does nothing more. -/
theorem poll_exact {d : Drive σ} (h : d.Coherent) (now : Time) :
    ((d.session.poll now).2 = true ↔ ∃ deadline,
        (d.session.reclaimAt now).controller.timer.deadline = some deadline ∧ deadline ≤ now) ∧
      ((d.session.poll now).2 = true → d.held = [] ∧
        (∃ inputs, (d.session.poll now).1.attempts = d.session.attempts ++ [inputs]) ∧
        (d.session.poll now).1.controller.timer.deadline = none) ∧
      ((d.session.poll now).2 = false → (d.session.poll now).1 = d.session.reclaimAt now) := by
  obtain ⟨hreclaimed, hkept⟩ := Session.coherent_reclaimAt h.controller now
  have hkeeps := Session.keeps_reclaimAt h.controller now
  have hdue : (d.session.reclaimAt now).controller.timer.isDue now = true ↔ ∃ deadline,
      (d.session.reclaimAt now).controller.timer.deadline = some deadline ∧ deadline ≤ now := by
    simp [DebounceTimer.isDue, Option.any_eq_true]
  rw [← hdue]
  rcases Session.poll_eq_run_or_idle h.controller now with ⟨hcase, hlive, hpoll⟩ | ⟨hcase, hpoll⟩
  · have hheld : d.held = [] :=
      Classical.not_not.mp fun hheld => hlive (hkept.mpr (h.live.mpr hheld))
    have hattempts := hkeeps.attempts_trans (Session.attempts_run hreclaimed hlive now)
    rw [hpoll, hcase]
    exact ⟨Iff.rfl, fun _ => ⟨hheld, ⟨_, hattempts⟩, (Session.rests_run hreclaimed hlive now).1⟩,
      by simp⟩
  · rw [hpoll, hcase]
    exact ⟨Iff.rfl, by simp, fun _ => rfl⟩

/-- The timer is armed in a run exactly if it was armed since the last attempt, and then to be due
an interval after the latest time for which it was. A poll makes an attempt exactly if that deadline
has come once what was given up is reclaimed. It makes one attempt then, while nothing is held, and
leaves the timer stopped. Otherwise it does nothing but reclaim: no engine is built or called, and
beyond the flight, the record, the state with its status and the timer nothing changes. -/
theorem debounce_exact (settings : ControllerSettings) (registry : Registry σ)
    (emitters : EmitterTable) (world : σ) (actions : List (Action σ)) :
    let start := start settings registry emitters world
    let last := start.perform actions
    let events := start.timeline false actions
    (∀ deadline, last.controller.timer.deadline = some deadline ↔
        ∃ earlier now, events = earlier ++ [.armed now] ∧ deadline = now + settings.debounce) ∧
      ∀ now,
        let reclaimed := last.session.reclaimAt now
        let polled := last.session.poll now
        (polled.2 = true ↔ ∃ deadline,
            reclaimed.controller.timer.deadline = some deadline ∧ deadline ≤ now) ∧
          (polled.2 = true → last.held = [] ∧
            (∃ inputs, polled.1.attempts = last.session.attempts ++ [inputs]) ∧
            polled.1.controller.timer.deadline = none) ∧
          (polled.2 = false → polled.1 = reclaimed ∧
            (last.controller.flight ≠ .abandoned → reclaimed = last.session) ∧
            (last.controller.flight = .abandoned →
              reclaimed = { last.session with controller := { last.controller with
                flight := .none
                changedInFlight := false
                status := Status.ready
                state := reclaimed.controller.state
                timer := reclaimed.controller.timer } })) := by
  intro start last events
  have hstart : start.Coherent := coherent_start settings registry emitters world
  have htracks : start.Tracks false := ⟨hstart, fun hflight => absurd rfl hflight⟩
  have hdeadline : last.controller.timer.deadline =
      events.getLast?.elim none (TimerEvent.deadline? settings.debounce) :=
    htracks.deadline_perform actions
  constructor
  · intro deadline
    rw [hdeadline]
    constructor
    · intro h
      cases hlast : events.getLast? with
      | none => simp [hlast] at h
      | some event =>
        obtain ⟨earlier, hevents⟩ := List.getLast?_eq_some_iff.mp hlast
        cases event with
        | attempted => simp [hlast, TimerEvent.deadline?] at h
        | armed now =>
          refine ⟨earlier, now, hevents, ?_⟩
          simpa [hlast, TimerEvent.deadline?] using h.symm
    · rintro ⟨earlier, now, hevents, rfl⟩
      rw [hevents, List.getLast?_concat]
      rfl
  · intro now reclaimed polled
    obtain ⟨hdue, hfired, hidle⟩ := poll_exact (hstart.perform actions) now
    refine ⟨hdue, hfired, fun hnot => ⟨hidle hnot, fun hflight => ?_, fun hflight => ?_⟩⟩
    · exact Session.reclaimAt_of_ne_abandoned hflight now
    · have hreclaimed : reclaimed = _ := Session.reclaimAt_of_abandoned hflight now
      rw [hreclaimed]
      rfl

/-- A change that is recorded before its generation is given up arms the timer for the time of the
next poll, which itself does no more; a later poll makes the attempt. -/
theorem debounce_exact_given_up :
    let run : List (Action Rehearsal) :=
      [.edit (.input (.text "x")) 9, .begin, .edit (.input (.text "xy")) 5, .abandon]
    let given := (rehearse []).perform run
    let armed := (rehearse []).perform (run ++ [.poll 20])
    (given.session.poll 20).2 = false ∧ (given.session.poll 20).1 = given.session.reclaimAt 20 ∧
      (rehearse []).timeline false (run ++ [.poll 20]) = [.armed 9, .attempted] ++ [.armed 20] ∧
      armed.controller.timer.deadline = some 120 ∧
      (armed.session.poll 120).2 = true ∧ armed.held = [] ∧
      (armed.session.poll 120).1.controller.timer.deadline = none := by
  have hidle : (((rehearse []).perform [.edit (.input (.text "x")) 9, .begin,
      .edit (.input (.text "xy")) 5, .abandon]).session.poll 20).2 = false := by decide
  have hevents : (rehearse []).timeline false [.edit (.input (.text "x")) 9, .begin,
      .edit (.input (.text "xy")) 5, .abandon, .poll 20] =
        [.armed 9, .attempted] ++ [.armed 20] := by decide
  have hdue : (((rehearse []).perform [.edit (.input (.text "x")) 9, .begin,
      .edit (.input (.text "xy")) 5, .abandon, .poll 20]).session.poll 120).2 = true := by decide
  intro run given armed
  obtain ⟨-, hgiven⟩ := debounce_exact {} _ _ _ run
  obtain ⟨hdeadline, harmed⟩ := debounce_exact {} _ _ _ (run ++ [.poll 20])
  obtain ⟨hheld, -, hstopped⟩ := (harmed 120).2.1 hdue
  exact ⟨hidle, ((hgiven 20).2.2 hidle).1, hevents,
    (hdeadline 120).mpr ⟨[.armed 9, .attempted], 20, hevents, rfl⟩, hdue, hheld, hstopped⟩

end Drive

end TemplateInspector
