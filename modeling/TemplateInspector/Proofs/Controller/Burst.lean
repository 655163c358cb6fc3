import TemplateInspector.Proofs.Controller.Deadline

/-!
# Bursts of edits

Edits that follow one another before the timer is due are a burst. No engine is built or called
while it lasts, however often the session is polled too early. Once the last change has rested for
the interval, one poll makes one attempt, with the inputs as the burst has left them, and the polls
after it do nothing until there is another change.
-/

namespace TemplateInspector

variable {σ : Type}

/-- Whether an action leaves it to the timer when generations begin. -/
def Action.isPassive : Action σ → Bool
  | .edit .. | .poll _ | .drift _ => true
  | .begin | .complete _ | .abandon | .flush _ => false

namespace Session

/-- An attempt without a generation leaves nothing in flight. -/
theorem Attempt.flight_of_none {s s' : Session σ} (h : Attempt s s' none)
    (hgrounded : s.controller.Grounded) : s'.controller.flight = .none := by
  cases h with
  | nothing => exact hgrounded.flight
  | unbuilt => exact hgrounded.flight

/-- Nothing is in flight after a generation that was completed as soon as it had begun. -/
theorem flight_run {s : Session σ} (h : s.controller.Coherent)
    (hlive : s.controller.flight ≠ .live) (now : Time) :
    (s.run now).controller.flight = .none := by
  obtain ⟨hgrounded, -⟩ := grounded_startAttempt h hlive
  obtain ⟨hcoherent, hflight⟩ := coherent_begin h
  have hattempt := attempt_concludeAttempt s.startAttempt
  rw [← begin_of_not_live h hlive] at hattempt
  rcases hs : s.begin with ⟨s', pending⟩
  rw [hs] at hattempt hcoherent hflight
  cases pending with
  | none =>
    simp only [run, hs]
    exact hattempt.flight_of_none hgrounded
  | some pending =>
    simp only [run, hs]
    exact (hcoherent.deadline_land (hflight.mpr (.inr rfl)) ..).2

/-- An attempt is not set back if there is a template and the registry supplies an engine. -/
theorem setback?_of_supply? {s : Session σ} {instantiation : Instantiation σ} {engine : Engine σ}
    (htext : s.controller.text ≠ "") (hany : s.registry.isEmpty = false)
    (hsupply : s.supply? = some instantiation) (hengine : instantiation.engine = .ok engine) :
    s.setback? = none := by
  have hsome : s.controller.text.isEmpty = false := by simpa using htext
  cases instantiation with
  | failed error => simp [Instantiation.engine] at hengine
  | built made | kept made => simp [setback?, hsome, hany, hsupply]

/-- An attempt that runs to its end completes no generation, because it was set back, or the one of
the engine that the registry supplies. -/
theorem generations_fate? {s : Session σ} (h : s.controller.Coherent)
    (hlive : s.controller.flight ≠ .live) :
    (Fate.generations s.fate? = [] ∧ s.setback?.isSome) ∨
      ∃ id engine, Fate.generations s.fate? = [s.offer id engine] ∧
        (s.controller.selection.reconciled s.registry.catalog).engine = some id := by
  rcases begin_ends h hlive with ⟨hfate, -, -⟩ | ⟨error, hfate, -, -⟩ |
    ⟨id, instantiation, engine, hfate, hid, -, -, hpending, -⟩
  · exact .inl ⟨by simp [fate?, hfate, Fate.generations], by rw [hfate]; rfl⟩
  · exact .inl ⟨by simp [fate?, hfate, Fate.generations], by rw [hfate]; rfl⟩
  · refine .inr ⟨id, engine, ?_, hid⟩
    simp [fate?, hfate, hpending, conclusion, Fate.generations]

end Session

namespace Drive

/-- Nothing is in flight if nothing is held and nothing was given up. -/
theorem Coherent.flight_of_held {d : Drive σ} (h : d.Coherent) (hheld : d.held = [])
    (habandoned : d.controller.flight ≠ .abandoned) : d.controller.flight = .none := by
  have hlive : d.controller.flight ≠ .live := (not_congr h.live).mpr (not_not_intro hheld)
  cases hflight : d.controller.flight with
  | none => rfl
  | live => contradiction
  | abandoned => contradiction

/-- Whether an action is no attempt and no poll at which the timer is due. -/
def isEarly (d : Drive σ) : Action σ → Bool
  | .poll now => !d.controller.timer.isDue now
  | action => action.isPassive

/-- Whether all of some actions come too early for an attempt. -/
def isBurst (d : Drive σ) : List (Action σ) → Bool
  | [] => true
  | action :: actions => d.isEarly action && (d.step action).isBurst actions

/-- The time of a change, if an action is one. -/
def changedAt? (d : Drive σ) : Action σ → Option Time
  | .edit edit now => if d.changes (.edit edit now) then some now else none
  | _ => none

/-- The time of the last change in a run, if there is one. -/
def lastChange? (d : Drive σ) : List (Action σ) → Option Time
  | [] => none
  | action :: actions => ((d.step action).lastChange? actions).or (d.changedAt? action)

/-- Whether an action is a poll that tells that an attempt was made. -/
def fires (d : Drive σ) : Action σ → Bool
  | .poll now => (d.session.poll now).2
  | _ => false

/-- Whether some poll of a run tells that an attempt was made. -/
def firesWithin (d : Drive σ) : List (Action σ) → Bool
  | [] => false
  | action :: actions => d.fires action || (d.step action).firesWithin actions

/-- A coherent drive with nothing in flight. -/
structure Settled (d : Drive σ) : Prop where
  /-- The drive is coherent. -/
  coherent : d.Coherent
  /-- Nothing is held and nothing was given up. -/
  flight : d.controller.flight = .none

/-- A drive has gone on to another one without an attempt. Its timer is the one of the last change,
if there was a change. -/
structure Waits (d : Drive σ) (change : Option Time) (d' : Drive σ) : Prop where
  /-- Still nothing is in flight. -/
  settled : d'.Settled
  /-- No attempt was made, and no engine was built or called. -/
  history : d'.session.history = d.session.history
  /-- The settings are the same. -/
  settings : d'.controller.settings = d.controller.settings
  /-- The timer rests for an interval after the last change. -/
  deadline : d'.controller.timer.deadline =
    change.elim d.controller.timer.deadline fun now => some (now + d.controller.settings.debounce)

variable {d d' d'' : Drive σ} {action : Action σ} {actions : List (Action σ)}

theorem Settled.refl (h : d.Settled) : d.Waits none d :=
  ⟨h, rfl, rfl, rfl⟩

theorem Settled.ne_live (h : d.Settled) : d.session.controller.flight ≠ .live :=
  fun hlive => Flight.noConfusion (h.flight.symm.trans hlive)

theorem Settled.ne_abandoned (h : d.Settled) : d.session.controller.flight ≠ .abandoned :=
  fun habandoned => Flight.noConfusion (h.flight.symm.trans habandoned)

theorem Waits.trans {first second : Option Time} (h : d.Waits first d')
    (h' : d'.Waits second d'') : d.Waits (second.or first) d'' := by
  refine ⟨h'.settled, h'.history.trans h.history, h'.settings.trans h.settings, ?_⟩
  rw [h'.deadline, h.settings, h.deadline]
  cases second <;> rfl

/-- An edit makes no attempt, and arms the timer if it is a change. -/
theorem Settled.waits_edit (h : d.Settled) (edit : Edit σ) (now : Time) :
    d.Waits (d.changedAt? (.edit edit now)) (d.step (.edit edit now)) := by
  have hhistory := d.session.history_edit now edit
  have hsettings := (d.session.meets_edit now edit).settings
  cases hchanges : d.changes (.edit edit now) with
  | false =>
    obtain ⟨htimer, hflight, -⟩ := Session.edit_of_not_change hchanges
    refine ⟨⟨h.coherent.step _, hflight.trans h.flight⟩, hhistory, hsettings, ?_⟩
    rw [changedAt?, hchanges]
    exact congrArg _ htimer
  | true =>
    obtain ⟨hdeadline, hflight⟩ := Session.edit_of_not_live h.coherent.controller h.ne_live hchanges
    refine ⟨⟨h.coherent.step _, hflight⟩, hhistory, hsettings, ?_⟩
    rw [changedAt?, hchanges]
    exact hdeadline

/-- An early action makes no attempt. -/
theorem Settled.waits_step (h : d.Settled) (hearly : d.isEarly action = true) :
    d.Waits (d.changedAt? action) (d.step action) ∧ d.fires action = false := by
  cases action with
  | edit edit now => exact ⟨h.waits_edit edit now, rfl⟩
  | poll now =>
    have hdue : d.controller.timer.isDue now = false := by simpa [isEarly] using hearly
    have hpoll : d.session.poll now = (d.session, false) :=
      Session.poll_of_not_due h.ne_abandoned hdue
    have hstep : d.step (.poll now) = d := by simp only [step, hpoll]
    rw [hstep, fires, hpoll]
    exact ⟨h.refl, rfl⟩
  | drift world =>
    have hcoherent := h.coherent.step (.drift world)
    exact ⟨⟨⟨hcoherent, h.flight⟩, rfl, rfl, rfl⟩, rfl⟩
  | begin | complete now | abandon | flush now => contradiction

/-- No attempt is made during a burst, and afterwards the timer waits for its last change to
rest. -/
theorem Settled.waits (h : d.Settled) (hburst : d.isBurst actions = true) :
    d.Waits (d.lastChange? actions) (d.perform actions) ∧ d.firesWithin actions = false := by
  -- Every action of the burst meets a settled drive, so each step of the induction is early too.
  induction actions generalizing d with
  | nil => exact ⟨h.refl, rfl⟩
  | cons action actions ih =>
    obtain ⟨hearly, hrest⟩ := (Bool.and_eq_true _ _).mp hburst
    obtain ⟨hfirst, hnot⟩ := h.waits_step hearly
    obtain ⟨hwaits, hnone⟩ := ih hfirst.settled hrest
    refine ⟨hfirst.trans hwaits, ?_⟩
    rw [firesWithin, hnot, hnone, Bool.false_or]

/-- While the timer is not armed, it is too early for any poll until there is a change. -/
theorem Settled.isBurst_of_unarmed (h : d.Settled) (hdeadline : d.controller.timer.deadline = none)
    (hpassive : actions.all Action.isPassive = true) (hsame : d.changesWithin actions = false) :
    d.isBurst actions = true := by
  induction actions generalizing d with
  | nil => rfl
  | cons action actions ih =>
    obtain ⟨hfirst, hothers⟩ := (Bool.and_eq_true _ _).mp hpassive
    obtain ⟨hchanges, hrest⟩ := (Bool.or_eq_false_iff).mp hsame
    have hearly : d.isEarly action = true := by
      cases action with
      | poll now => simp [isEarly, DebounceTimer.isDue, hdeadline]
      | _ => exact hfirst
    obtain ⟨hwaits, -⟩ := h.waits_step hearly
    have hnone : d.changedAt? action = none := by
      cases action with
      | edit edit now => rw [changedAt?, hchanges]; rfl
      | _ => rfl
    -- Without a change the timer stays stopped, which makes the next poll early again.
    have hstopped := hwaits.deadline
    rw [hnone] at hstopped
    rw [isBurst, hearly, Bool.true_and]
    exact ih hwaits.settled (hstopped.trans hdeadline) hothers hrest

/-- Once the deadline has come, a poll makes an attempt and completes its generation. Afterwards
nothing is in flight and the timer is stopped. -/
theorem Settled.poll_of_due (h : d.Settled) {deadline now : Time}
    (hdeadline : d.controller.timer.deadline = some deadline) (hdue : deadline ≤ now) :
    (d.session.poll now).2 = true ∧
      (d.step (.poll now)).Settled ∧
      (d.step (.poll now)).controller.timer.deadline = none ∧
      (d.step (.poll now)).session.calls =
        d.session.calls ++ (Fate.generations d.session.fate?).map PendingGeneration.request := by
  have hcoherent := h.coherent.controller
  have hisDue : d.session.controller.timer.isDue now = true := by
    have hsome : d.session.controller.timer.deadline = some deadline := hdeadline
    simp [DebounceTimer.isDue, hsome, hdue]
  have hpoll : d.session.poll now = (d.session.run now, true) := by
    simp only [Session.poll, Session.reclaimAt_of_ne_abandoned h.ne_abandoned, hisDue, ite_true]
  have hstep : (d.step (.poll now)).session = d.session.run now := by
    simp only [step, hpoll]
  have hflight := Session.flight_run hcoherent h.ne_live now
  refine ⟨by rw [hpoll], ⟨h.coherent.step _, ?_⟩, ?_, ?_⟩
  · rw [controller, hstep]
    exact hflight
  · rw [controller, hstep]
    exact (Session.rests_run hcoherent h.ne_live now).1
  · rw [hstep]
    exact (Session.meets_run hcoherent h.ne_live now).calls

/-- No engine is built or called during a burst that meets a driver with nothing in flight. If there
was a change in it, the first poll after the last change has rested for the interval makes an
attempt. It calls an engine at most once, with the template and the mode that the burst has left and
with the engine and the language of the selection it has left, reconciled. It calls one if there is
a template, an engine is registered and the selected one can be built. After it no poll does
anything until there is another change. -/
theorem burst_coalesces (settings : ControllerSettings) (registry : Registry σ)
    (emitters : EmitterTable) (world : σ) (before burst : List (Action σ))
    (hheld : ((start settings registry emitters world).perform before).held = [])
    (hflight :
      ((start settings registry emitters world).perform before).controller.flight ≠ .abandoned)
    (hburst : ((start settings registry emitters world).perform before).isBurst burst = true) :
    let first := (start settings registry emitters world).perform before
    let last := first.perform burst
    let s := last.session
    let chosen := s.controller.selection.reconciled s.registry.catalog
    first.firesWithin burst = false ∧ s.history = first.session.history ∧
      (∀ id, s.controller.selection.engine = some id → s.registry.contains id = true →
        chosen.engine = some id) ∧
      ∀ changed, first.lastChange? burst = some changed →
        ∀ now, changed + settings.debounce ≤ now →
          let fired := last.step (.poll now)
          (s.poll now).2 = true ∧
            (∃ requests, fired.session.calls = s.calls ++ requests ∧ requests.length ≤ 1 ∧
              (∀ request ∈ requests, chosen.engine = some request.engine ∧
                request.source = s.controller.text ∧
                request.host = ⟨chosen.language, s.controller.designTime⟩) ∧
              (s.controller.text ≠ "" → s.registry.isEmpty = false →
                (∃ instantiation engine, s.supply? = some instantiation ∧
                  instantiation.engine = .ok engine) → requests.length = 1)) ∧
            ∀ later : List (Action σ), later.all Action.isPassive = true →
              fired.changesWithin later = false →
                fired.firesWithin later = false ∧
                  (fired.perform later).session.history = fired.session.history := by
  intro first last s chosen
  have hstart := coherent_start settings registry emitters world
  have hfirst : first.Coherent := hstart.perform before
  have hsettings : first.controller.settings = settings := (frame_perform hstart before).2
  have hsettled : first.Settled := ⟨hfirst, hfirst.flight_of_held hheld hflight⟩
  obtain ⟨hwaits, hnot⟩ := hsettled.waits hburst
  refine ⟨hnot, hwaits.history, fun _ => Registry.engine_reconciled_of_contains, ?_⟩
  intro changed hchanged now hdue fired
  have hdeadline := hwaits.deadline
  rw [hchanged, hsettings] at hdeadline
  obtain ⟨hfires, hfired, hstopped, hcalls⟩ := hwaits.settled.poll_of_due hdeadline hdue
  have hcoherent := hwaits.settled.coherent.controller
  refine ⟨hfires, ⟨_, hcalls, ?_⟩, fun later hpassive hsame => ?_⟩
  · rcases Session.generations_fate? hcoherent hwaits.settled.ne_live with
      ⟨hnone, hsetback⟩ | ⟨id, engine, hone, hid⟩
    · -- An attempt that was set back had no template or no engine, so a call was not promised.
      rw [hnone]
      refine ⟨Nat.zero_le 1, by simp, ?_⟩
      rintro htext hany ⟨instantiation, engine, hsupply, hengine⟩
      rw [Session.setback?_of_supply? htext hany hsupply hengine] at hsetback
      contradiction
    · rw [hone]
      refine ⟨Nat.le_refl 1, ?_, fun _ _ _ => rfl⟩
      intro request hrequest
      obtain rfl := List.mem_singleton.mp hrequest
      exact ⟨hid, rfl, rfl⟩
  · obtain ⟨hquiet, hnoFire⟩ := hfired.waits (hfired.isBurst_of_unarmed hstopped hpassive hsame)
    exact ⟨hnoFire, hquiet.history⟩

/-- Two changes, the second at an earlier time, and a poll that comes too early end in one call. -/
theorem burst_coalesces_backwards :
    let before : List (Action Rehearsal) := [.edit (.input (.text "x")) 9, .flush 9]
    let burst : List (Action Rehearsal) :=
      [.edit (.input (.text "ab")) 60, .poll 159, .edit (.input (.designTime true)) 40]
    let first := (rehearse []).perform before
    let last := first.perform burst
    let fired := last.step (.poll 140)
    first.held = [] ∧ first.controller.flight ≠ .abandoned ∧ first.isBurst burst = true ∧
      first.lastChange? burst = some 40 ∧ last.session.history = first.session.history ∧
      (last.session.poll 140).2 = true ∧
      (∃ requests, fired.session.calls = last.session.calls ++ requests ∧ requests.length = 1) ∧
      fired.changesWithin [.edit (.input (.text "ab")) 300, .poll 500] = false ∧
      fired.firesWithin [.edit (.input (.text "ab")) 300, .poll 500] = false := by
  have hheld : ((rehearse []).perform [.edit (.input (.text "x")) 9, .flush 9]).held = [] := rfl
  have hflight : ((rehearse []).perform [.edit (.input (.text "x")) 9,
      .flush 9]).controller.flight ≠ .abandoned := by decide
  have hburst : ((rehearse []).perform [.edit (.input (.text "x")) 9, .flush 9]).isBurst
      [.edit (.input (.text "ab")) 60, .poll 159, .edit (.input (.designTime true)) 40] = true := by
    decide
  have hchanged : ((rehearse []).perform [.edit (.input (.text "x")) 9, .flush 9]).lastChange?
      [.edit (.input (.text "ab")) 60, .poll 159, .edit (.input (.designTime true)) 40] =
        some 40 := by decide
  have htext : ((rehearse []).perform [.edit (.input (.text "x")) 9, .flush 9,
      .edit (.input (.text "ab")) 60, .poll 159,
      .edit (.input (.designTime true)) 40]).controller.text ≠ "" := by decide
  have hany : ((rehearse []).perform [.edit (.input (.text "x")) 9, .flush 9,
      .edit (.input (.text "ab")) 60, .poll 159,
      .edit (.input (.designTime true)) 40]).session.registry.isEmpty = false := by decide
  have hsupply : ((rehearse []).perform [.edit (.input (.text "x")) 9, .flush 9,
      .edit (.input (.text "ab")) 60, .poll 159,
      .edit (.input (.designTime true)) 40]).session.supply? =
        some (.kept (Rehearsal.engine 0)) := rfl
  have hsame : ((rehearse []).perform [.edit (.input (.text "x")) 9, .flush 9,
      .edit (.input (.text "ab")) 60, .poll 159, .edit (.input (.designTime true)) 40,
      .poll 140]).changesWithin [.edit (.input (.text "ab")) 300, .poll 500] = false := by decide
  intro before burst first last fired
  obtain ⟨-, hhistory, -, hcalm⟩ :=
    burst_coalesces {} _ _ _ before burst hheld hflight hburst
  obtain ⟨hfires, ⟨requests, hcalls, -, -, hone⟩, hlater⟩ := hcalm 40 hchanged 140 (Nat.le_refl 140)
  exact ⟨hheld, hflight, hburst, hchanged, hhistory, hfires,
    ⟨requests, hcalls, hone htext hany ⟨_, _, hsupply, rfl⟩⟩, hsame, (hlater _ rfl hsame).1⟩

end Drive

end TemplateInspector
