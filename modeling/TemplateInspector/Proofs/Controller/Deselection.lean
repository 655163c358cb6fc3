import TemplateInspector.Proofs.Controller.Deadline
import TemplateInspector.Proofs.Controller.Handover

/-!
# Sessions without a selected engine

The selection of an engine can be cleared. It stays cleared through all edits that name no engine
and do not repair the selection. An attempt repairs the selection itself before it looks for an
engine: it takes the first one that is registered, and finds none only where none is registered.
Then nothing is built or called, and nothing is shown any more.
-/

namespace TemplateInspector

variable {σ : Type}

/-- Whether an action neither selects an engine nor reports to the controller that engines were
registered or removed. -/
def Action.leavesEngine : Action σ → Bool
  | .edit (.input (.engine (some _))) _ | .edit (.input .registryChanged) _ => false
  | _ => true

namespace Session

/-- The session has gone on without an action that is recorded: the registered engines and the
inputs are the same. -/
structure Idles (s s' : Session σ) : Prop where
  /-- Nothing was attempted, built or called. -/
  history : s'.history = s.history
  /-- The registered engines are the same. -/
  registry : s'.registry = s.registry
  /-- The inputs are the same. -/
  inputs : s'.controller.inputs = s.controller.inputs

theorem Idles.refl (s : Session σ) : s.Idles s := ⟨rfl, rfl, rfl⟩

theorem idles_reclaimed (s : Session σ) : s.Idles s.reclaimed :=
  ⟨rfl, rfl, s.controller.inputs_reclaim⟩

theorem idles_reclaimAt (s : Session σ) (now : Time) : s.Idles (s.reclaimAt now) := by
  have hinputs := s.controller.inputs_reclaim
  rcases hreclaim : s.controller.reclaim with ⟨c, recorded⟩
  rw [hreclaim] at hinputs
  cases recorded with
  | true =>
    simp only [reclaimAt, hreclaim]
    exact ⟨rfl, rfl, (Controller.inputs_markChanged ..).trans hinputs⟩
  | false =>
    simp only [reclaimAt, hreclaim]
    exact ⟨rfl, rfl, hinputs⟩

/-- An attempt has come to nothing: beside the attempt itself nothing was done, and nothing is
shown. -/
structure FindsNothing (s s' : Session σ) : Prop where
  /-- The attempt was recorded, and no engine was built or called. -/
  history : s'.history = s.history ++
    [.attempted s.controller.text s'.controller.selection s.controller.designTime]
  /-- There is nothing to be done. -/
  state : s'.controller.state = .idle
  /-- The status says so. -/
  status : s'.controller.status = "Ready"
  /-- Nothing is shown. -/
  output : s'.controller.output = ("", none)

theorem FindsNothing.of_idles {s s' s'' : Session σ} (h : s'.FindsNothing s'')
    (hidles : s.Idles s') : s.FindsNothing s'' := by
  obtain ⟨htext, -, hmode⟩ := Inputs.mk.inj hidles.inputs
  refine ⟨?_, h.state, h.status, h.output⟩
  rw [h.history, hidles.history, htext, hmode]

/-- Without a template or without engines an attempt comes to nothing. -/
theorem findsNothing_begin {s : Session σ} (h : s.controller.Coherent)
    (hlive : s.controller.flight ≠ .live)
    (hnothing : s.controller.text = "" ∨ s.registry.isEmpty = true) :
    s.FindsNothing s.begin.1 ∧ s.begin.2 = none := by
  obtain ⟨htext, -, hmode⟩ := s.fields_startAttempt
  rw [begin_of_nothing h hlive hnothing]
  refine ⟨⟨?_, rfl, rfl, rfl⟩, rfl⟩
  rw [← htext, ← hmode]
  rfl

/-- An attempt leaves the selection reconciled. -/
theorem selection_begin {s : Session σ} (h : s.controller.Coherent)
    (hlive : s.controller.flight ≠ .live) :
    s.begin.1.controller.selection = s.controller.selection.reconciled s.registry.catalog := by
  have hinputs := (attempt_concludeAttempt s.startAttempt).inputs.2
  rw [← begin_of_not_live h hlive] at hinputs
  exact (Inputs.mk.inj hinputs).2.1.trans s.fields_startAttempt.2.1

/-- Completing a generation leaves the selection alone. -/
theorem selection_complete (s : Session σ) (pending : PendingGeneration σ) (now : Time) :
    (s.complete pending now).controller.selection = s.controller.selection :=
  (Inputs.mk.inj (s.inputs_complete pending now).2).2.1

/-- A generation that is run leaves the selection reconciled. -/
theorem selection_run {s : Session σ} (h : s.controller.Coherent)
    (hlive : s.controller.flight ≠ .live) (now : Time) :
    (s.run now).controller.selection = s.controller.selection.reconciled s.registry.catalog := by
  rw [← selection_begin h hlive]
  rcases s.run_cases now with hrun | ⟨pending, hrun⟩
  · rw [hrun]
  · rw [hrun, selection_complete]

/-- A cleared selection stays cleared through an edit that leaves the engine alone. -/
theorem engine_edit {s : Session σ} (hengine : s.controller.selection.engine = none) {now : Time}
    {edit : Edit σ} (hleaves : (Action.edit edit now).leavesEngine = true) :
    (s.edit now edit).1.controller.selection.engine = none := by
  have htake (input : Input) (next : Inputs × Bool)
      (hgive : s.controller.inputs.give s.registry.catalog input = .ok next)
      (hnext : next.1.selection.engine = none) :
      (s.edit now (.input input)).1.controller.selection.engine = none := by
    have hinputs := Controller.inputs_take s.controller next now
    simp only [Session.edit, input_eq, hgive]
    exact (congrArg (·.selection.engine) hinputs).trans hnext
  cases edit with
  | input input =>
    cases input with
    | text text => exact htake (.text text) _ rfl hengine
    | designTime mode => exact htake (.designTime mode) _ rfl hengine
    | language language =>
      refine htake (.language language) _ rfl ?_
      exact (Selection.engine_ensureLanguage ..).trans hengine
    | engine id =>
      cases id with
      | none => exact htake (.engine none) _ rfl rfl
      | some id => simp [Action.leavesEngine] at hleaves
    | registryChanged => simp [Action.leavesEngine] at hleaves
  | register entry =>
    simp only [Session.edit, register]
    cases s.registry.register entry <;> exact hengine
  | unregister id => exact hengine
  | reportFailure error => exact hengine

/-- Clearing the selection is never refused, and nothing is selected afterwards. -/
theorem edit_engine_none (s : Session σ) (now : Time) :
    (∃ changed, (s.edit now (.input (.engine none))).2 = .answered (.ok changed)) ∧
      (s.edit now (.input (.engine none))).1.controller.selection.engine = none := by
  obtain ⟨next, hgive, hnext⟩ : ∃ next,
      s.controller.inputs.give s.registry.catalog (.engine none) = .ok next ∧
        next.1.selection.engine = none := ⟨_, rfl, rfl⟩
  have hinputs := Controller.inputs_take s.controller next now
  simp only [Session.edit, input_eq, hgive]
  exact ⟨⟨next.2, rfl⟩, (congrArg (·.selection.engine) hinputs).trans hnext⟩

end Session

namespace Drive

/-- Whether none of some actions selects an engine or repairs the selection, be it that an attempt
is made while an engine is registered. -/
def leavesBare (d : Drive σ) : List (Action σ) → Bool
  | [] => true
  | action :: actions =>
    action.leavesEngine && (d.attemptsMade action = 0 || d.session.registry.isEmpty) &&
      (d.step action).leavesBare actions

/-- A drive has gone on without an attempt. No engine is selected, and beside the engine of a
generation that was held none is called. -/
structure Bides (d d' : Drive σ) : Prop where
  /-- No engine is selected. -/
  engine : d'.controller.selection.engine = none
  /-- Nothing was done, or a generation that was held was completed. -/
  history : d'.session.history = d.session.history ∨
    ∃ pending ∈ d.held, d'.session.history = d.session.history ++ [.called pending.request]
  /-- What is held was held before. -/
  held : d'.held ⊆ d.held

/-- An action makes an attempt if what it comes to is an attempt of a session with the same
registered engines and inputs. -/
structure Tries (d : Drive σ) (s : Session σ) (d' : Drive σ) : Prop where
  /-- What comes before the attempt is not recorded. -/
  idles : d.session.Idles s
  /-- The session is coherent. -/
  coherent : s.controller.Coherent
  /-- Nothing is in flight. -/
  not_live : s.controller.flight ≠ .live
  /-- Nothing is held. -/
  held : d.held = []
  /-- A generation has begun, or was completed at once. -/
  attempt : d' = ⟨s.begin.1, s.begin.2.toList⟩ ∨ ∃ now, d' = ⟨s.run now, []⟩

/-- Without a selected engine, an action that leaves it alone makes an attempt or bides its time. -/
theorem tries_or_bides {d : Drive σ} (h : d.Coherent)
    (hengine : d.controller.selection.engine = none) {action : Action σ}
    (hleaves : action.leavesEngine = true) :
    (∃ s, d.Tries s (d.step action)) ∨ d.Bides (d.step action) := by
  have hstill {s : Session σ} (hidles : d.session.Idles s) : d.Bides { d with session := s } := by
    refine ⟨?_, .inl hidles.history, List.Subset.refl _⟩
    exact (congrArg (·.selection.engine) hidles.inputs).trans hengine
  have hfree (hlive : d.session.controller.flight ≠ .live) : d.held = [] :=
    Classical.not_not.mp fun hheld => hlive (h.live.mpr hheld)
  cases action with
  | edit edit now =>
    exact .inr ⟨Session.engine_edit hengine hleaves, .inl (Session.history_edit ..),
      List.Subset.refl _⟩
  | drift world => exact .inr (hstill ⟨rfl, rfl, rfl⟩)
  | complete now =>
    right
    rcases hheld : d.held with _ | ⟨pending, others⟩
    · simp only [step, hheld]
      exact hstill (.refl _)
    · simp only [step, hheld]
      refine ⟨?_, .inr ⟨pending, by simp [hheld], rfl⟩, by simp [hheld]⟩
      exact (congrArg Selection.engine (Session.selection_complete ..)).trans hengine
  | abandon =>
    right
    rcases hheld : d.held with _ | ⟨pending, others⟩
    · simp only [step, hheld]
      exact hstill (.refl _)
    · simp only [step, hheld]
      exact ⟨hengine, .inl rfl, by simp [hheld]⟩
  | begin =>
    by_cases hlive : d.session.controller.flight = .live
    · rw [h.step_begin_of_held (h.live.mp hlive)]
      exact .inr (hstill (.refl _))
    · refine .inl ⟨d.session, .refl _, h.controller, hlive, hfree hlive, .inl ?_⟩
      simp only [step, hfree hlive, List.nil_append]
  | poll now =>
    obtain ⟨hreclaimed, hkept⟩ := Session.coherent_reclaimAt h.controller now
    rcases Session.poll_eq_run_or_idle h.controller now with ⟨-, hlive, hpoll⟩ | ⟨-, hpoll⟩
    · have hheld := hfree ((not_congr hkept).mp hlive)
      refine .inl ⟨_, d.session.idles_reclaimAt now, hreclaimed, hlive, hheld, .inr ⟨now, ?_⟩⟩
      simp only [step, hpoll, hheld]
    · simp only [step, hpoll]
      exact .inr (hstill (d.session.idles_reclaimAt now))
  | flush now =>
    by_cases hlive : d.session.controller.flight = .live
    · simp only [step, Session.flush_of_live h.controller hlive]
      exact .inr (hstill (.refl _))
    · refine .inl ⟨d.session.reclaimed, d.session.idles_reclaimed, h.controller.reclaim,
        (not_congr Controller.flight_reclaim_eq_live_iff).mpr hlive, hfree hlive, .inr ⟨now, ?_⟩⟩
      simp only [step, hfree hlive]
      rfl

/-- Biding one's time is no attempt. -/
theorem Bides.attemptsMade {d : Drive σ} {action : Action σ} (h : d.Bides (d.step action)) :
    d.attemptsMade action = 0 := by
  have hattempts : (d.step action).session.attempts = d.session.attempts := by
    rcases h.history with hsame | ⟨pending, -, hcalled⟩
    · rw [Session.attempts, hsame, Session.attempts]
    · simp [Session.attempts, hcalled, Activity.attempt?]
  rw [Drive.attemptsMade, hattempts, Nat.sub_self]

/-- An action that makes an attempt makes just one. -/
theorem Tries.attemptsMade {d : Drive σ} {s : Session σ} {action : Action σ}
    (h : d.Tries s (d.step action)) : d.attemptsMade action = 1 := by
  have hattempts : s.Attempts (d.step action).session := by
    rcases h.attempt with hstep | ⟨now, hstep⟩
    · rw [hstep]
      exact Session.attempts_begin h.coherent h.not_live
    · rw [hstep]
      exact Session.attempts_run h.coherent h.not_live now
  have hsame : s.attempts = d.session.attempts := by
    rw [Session.attempts, h.idles.history, Session.attempts]
  rw [Drive.attemptsMade, hattempts, hsame, List.length_append, List.length_singleton,
    Nat.add_sub_cancel_left]

/-- An attempt is made with the first registered engine, if none was selected. -/
theorem Tries.engine {d d' : Drive σ} {s : Session σ} (h : d.Tries s d')
    (hengine : d.controller.selection.engine = none) :
    d'.controller.selection.engine = d.session.registry.ids.head? := by
  have hselected : s.controller.selection.engine = none :=
    (congrArg (·.selection.engine) h.idles.inputs).trans hengine
  have hselection :
      d'.controller.selection = s.controller.selection.reconciled s.registry.catalog := by
    rcases h.attempt with rfl | ⟨now, rfl⟩
    · exact Session.selection_begin h.coherent h.not_live
    · exact Session.selection_run h.coherent h.not_live now
  rw [hselection, Selection.engine_reconciled_of_not_mem (by simp [hselected]), h.idles.registry]

/-- An attempt without a template or without engines comes to nothing. -/
theorem Tries.findsNothing {d d' : Drive σ} {s : Session σ} (h : d.Tries s d')
    (hnothing : d.controller.text = "" ∨ d.session.registry.isEmpty = true) :
    d.session.FindsNothing d'.session ∧ d'.held = [] := by
  have htext : s.controller.text = d.controller.text := (Inputs.mk.inj h.idles.inputs).1
  rw [← htext, ← h.idles.registry] at hnothing
  obtain ⟨hfinds, hnone⟩ := Session.findsNothing_begin h.coherent h.not_live hnothing
  rcases h.attempt with rfl | ⟨now, rfl⟩
  · exact ⟨hfinds.of_idles h.idles, by rw [hnone]; rfl⟩
  · have hrun : s.run now = s.begin.1 := by
      rcases hs : s.begin with ⟨s', pending⟩
      rw [hs] at hnone
      cases hnone
      simp only [Session.run, hs]
    rw [hrun]
    exact ⟨hfinds.of_idles h.idles, rfl⟩

/-- What may be recorded once the selection is cleared: attempts without an engine, and calls for
generations that were held by then. -/
inductive Expects (first : Drive σ) : Activity → Prop
  /-- An attempt has found no engine. -/
  | attempted {text : String} {selection : Selection} {designTime : Bool}
      (h : selection.engine = none) : Expects first (.attempted text selection designTime)
  /-- A generation that was held is completed. -/
  | called {pending : PendingGeneration σ} (h : pending ∈ first.held) :
      Expects first (.called pending.request)

/-- A drive has gone on from another one without an engine. -/
structure Deselected (first d : Drive σ) : Prop where
  /-- The drive is coherent. -/
  coherent : d.Coherent
  /-- No engine is selected. -/
  engine : d.controller.selection.engine = none
  /-- What is held was held then. -/
  held : d.held ⊆ first.held
  /-- What was recorded since then is expected. -/
  history : ∃ news, d.session.history = first.session.history ++ news ∧
    ∀ activity ∈ news, first.Expects activity

/-- With no engine registered at attempts, actions that leave the engine alone leave it cleared. -/
theorem Deselected.step {first d : Drive σ} (h : first.Deselected d) {action : Action σ}
    (hleaves : action.leavesEngine = true)
    (hbare : d.attemptsMade action = 0 ∨ d.session.registry.isEmpty = true) :
    first.Deselected (d.step action) := by
  obtain ⟨news, hhistory, hnews⟩ := h.history
  have hmore {d' : Drive σ} {activity : Activity}
      (hadded : d'.session.history = d.session.history ++ [activity])
      (hexpects : first.Expects activity) : ∃ news,
        d'.session.history = first.session.history ++ news ∧
          ∀ activity ∈ news, first.Expects activity := by
    refine ⟨news ++ [activity], by rw [hadded, hhistory, List.append_assoc], ?_⟩
    intro other hother
    rcases List.mem_append.mp hother with hold | hnew
    · exact hnews other hold
    · exact List.mem_singleton.mp hnew ▸ hexpects
  have hcoherent := h.coherent.step action
  rcases tries_or_bides h.coherent h.engine hleaves with ⟨s, htries⟩ | hbides
  · have hempty : d.session.registry.isEmpty = true :=
      hbare.resolve_left (by simp [htries.attemptsMade])
    obtain ⟨hfinds, hheld⟩ := htries.findsNothing (.inr hempty)
    have hengine : (d.step action).controller.selection.engine = none := by
      rw [htries.engine h.engine, Registry.ids, Registry.isEmpty_eq_true_iff.mp hempty]
      rfl
    exact ⟨hcoherent, hengine, by simp [hheld], hmore hfinds.history (.attempted hengine)⟩
  · refine ⟨hcoherent, hbides.engine, List.Subset.trans hbides.held h.held, ?_⟩
    rcases hbides.history with hsame | ⟨pending, hpending, hcalled⟩
    · exact ⟨news, hsame.trans hhistory, hnews⟩
    · exact hmore hcalled (.called (h.held hpending))

/-- With no engine registered at attempts, a run that leaves the engine alone leaves it cleared. -/
theorem Deselected.perform {first d : Drive σ} (h : first.Deselected d) {actions : List (Action σ)}
    (hbare : d.leavesBare actions = true) : first.Deselected (d.perform actions) := by
  induction actions generalizing d with
  | nil => exact h
  | cons action actions ih =>
    obtain ⟨hfirst, hrest⟩ := Bool.and_eq_true_iff.mp hbare
    obtain ⟨hleaves, hattempt⟩ := Bool.and_eq_true_iff.mp hfirst
    exact ih (h.step hleaves (by simpa using hattempt)) hrest

/-- The selection of an engine can always be cleared. As long as no engine is selected afterwards,
the selection is not repaired after a change of the registered engines, and no attempt is made while
an engine is registered, it stays cleared: no engine is built, and none is called but for a
generation that was held when the selection was cleared. The next attempt then takes the first
registered engine. Where none is registered it finds none, and nothing is selected afterwards. There
or with an empty template the attempt builds and calls nothing, nothing is held or shown after it,
and nothing is to be done. -/
theorem deselected_finds_none (settings : ControllerSettings) (registry : Registry σ)
    (emitters : EmitterTable) (world : σ) (before : List (Action σ)) (now : Time)
    (after : List (Action σ)) :
    let earlier := (start settings registry emitters world).perform before
    let deselected := earlier.step (.edit (.input (.engine none)) now)
    let last := deselected.perform after
    (∃ changed, (earlier.session.edit now (.input (.engine none))).2 = .answered (.ok changed)) ∧
      (deselected.leavesBare after = true →
        last.controller.selection.engine = none ∧
        (∃ news, last.session.history = earlier.session.history ++ news ∧
          ∀ activity ∈ news, earlier.Expects activity) ∧
        ∀ action : Action σ, action.leavesEngine = true → last.attemptsMade action ≠ 0 →
          let next := last.step action
          next.controller.selection.engine = last.session.registry.ids.head? ∧
          (last.session.registry.isEmpty = true → next.controller.selection.engine = none) ∧
          (last.controller.text = "" ∨ last.session.registry.isEmpty = true →
            last.session.FindsNothing next.session ∧ next.held = [])) := by
  intro earlier deselected last
  have hearlier : earlier.Coherent :=
    (coherent_start settings registry emitters world).perform before
  obtain ⟨hanswer, hcleared⟩ := earlier.session.edit_engine_none now
  refine ⟨hanswer, fun hbare => ?_⟩
  have hfirst : earlier.Deselected deselected := by
    refine ⟨hearlier.step _, hcleared, List.Subset.refl _, [], ?_, by simp⟩
    rw [List.append_nil]
    exact Session.history_edit ..
  have hlast : earlier.Deselected last := hfirst.perform hbare
  refine ⟨hlast.engine, hlast.history, fun action hleaves hattempt => ?_⟩
  intro next
  rcases tries_or_bides hlast.coherent hlast.engine hleaves with ⟨s, htries⟩ | hbides
  · refine ⟨htries.engine hlast.engine, fun hempty => ?_, htries.findsNothing⟩
    rw [htries.engine hlast.engine, Registry.ids, Registry.isEmpty_eq_true_iff.mp hempty]
    rfl
  · exact absurd hbides.attemptsMade hattempt

/-- The selection is cleared while a generation is held, and its engine is removed before the
generation is completed and the timer is due. -/
theorem deselected_finds_none_removed :
    let before : List (Action Rehearsal) := [.edit (.input (.text "x")) 0, .begin]
    let after : List (Action Rehearsal) :=
      [.edit (.unregister "echo") 3, .edit (.input (.text "xy")) 2, .complete 9]
    let earlier := (rehearse []).perform before
    let deselected := earlier.step (.edit (.input (.engine none)) 1)
    let last := deselected.perform after
    let next := last.step (.poll 200)
    deselected.leavesBare after = true ∧ last.attemptsMade (.poll 200) ≠ 0 ∧
      last.session.registry.isEmpty = true ∧
      last.controller.selection.engine = none ∧
      last.session.calls = earlier.held.map PendingGeneration.request ∧
      next.controller.selection.engine = none ∧ last.session.FindsNothing next.session := by
  intro before after earlier deselected last next
  have hbare : deselected.leavesBare after = true := by decide +kernel
  have hattempt : last.attemptsMade (.poll 200) ≠ 0 := by decide +kernel
  have hempty : last.session.registry.isEmpty = true := by decide +kernel
  have hcalls : last.session.calls = earlier.held.map PendingGeneration.request := by
    decide +kernel
  -- From here on the run is not to be computed.
  clear_value before after
  obtain ⟨hengine, -, hnext⟩ := (deselected_finds_none {} _ _ _ before 1 after).2 hbare
  obtain ⟨-, hnone, hfinds⟩ := hnext (.poll 200) rfl hattempt
  exact ⟨hbare, hattempt, hempty, hengine, hcalls, hnone hempty, (hfinds (.inr hempty)).1⟩

/-- With its selection cleared, a session calls the first registered engine all the same. -/
theorem deselected_engine_called :
    let deselected := (rehearse []).step (.edit (.input (.engine none)) 0)
    let last := deselected.perform [.edit (.input (.text "x")) 0, .poll 100]
    deselected.controller.selection.engine = none ∧
      last.controller.selection.engine = some "echo" ∧
      last.session.calls.map Request.engine = ["echo"] ∧
      last.controller.state = .succeeded := by
  decide +kernel

end Drive

end TemplateInspector
