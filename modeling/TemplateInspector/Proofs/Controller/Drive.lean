import TemplateInspector.Engine.Script
import TemplateInspector.Proofs.Controller.Attempt

/-!
# Driven sessions

A driver makes input calls, lets time pass, and holds the generations that it has begun until it
completes them or gives them up. Meanwhile others register and remove engines, and the world in
which engines act goes its own way. Every order of these actions at any times is a run, and times
may go backwards.
-/

namespace TemplateInspector

/-- What can happen while a generation is in flight, apart from its end. -/
inductive Edit (σ : Type)
  /-- An input call. -/
  | input (input : Input)
  /-- An engine is registered. -/
  | register (entry : EngineEntry σ)
  /-- An engine is removed. -/
  | unregister (id : String)
  /-- A source of engines could not be loaded. -/
  | reportFailure (error : DiscoveryError)

/-- What the caller of an edit is told. -/
inductive Reply (σ : Type)
  /-- Whether the inputs have changed, or why the call was refused. -/
  | answered (answer : Except SelectionError Bool)
  /-- Whether the engine was registered. -/
  | registered (error : Option RegistryError)
  /-- The entry that was removed, if there was one. -/
  | unregistered (entry : Option (EngineEntry σ))
  /-- Nothing. -/
  | reported

/-- Whether a reply reports a change of the inputs. -/
def Reply.isChange : Reply σ → Bool
  | .answered (.ok changed) => changed
  | _ => false

/-- The inputs with which a generation was attempted, if that is what was done. -/
def Activity.attempt? : Activity → Option Inputs
  | .attempted text selection designTime => some ⟨text, selection, designTime⟩
  | _ => none

/-- What a driver or its surroundings do next. -/
inductive Action (σ : Type)
  /-- An edit is made. -/
  | edit (edit : Edit σ) (now : Time)
  /-- The driver begins a generation. -/
  | begin
  /-- The driver completes the generation that it holds. -/
  | complete (now : Time)
  /-- The driver gives up the generation that it holds. -/
  | abandon
  /-- The driver asks for a generation if the timer is due. -/
  | poll (now : Time)
  /-- The driver asks for a generation at once. -/
  | flush (now : Time)
  /-- The world of the engines changes. -/
  | drift (world : σ)

/-- A session with the generations that its driver holds, oldest first. -/
structure Drive (σ : Type) where
  /-- The session. -/
  session : Session σ
  /-- The generations that were begun and neither completed nor given up. -/
  held : List (PendingGeneration σ) := []

variable {σ : Type}

namespace Session

/-- Makes an edit and yields what the caller is told. -/
def edit (s : Session σ) (now : Time) : Edit σ → Session σ × Reply σ
  | .input input => (s.input now input).map id .answered
  | .register entry =>
    match s.register entry with
    | .ok s => (s, .registered none)
    | .error error => (s, .registered (some error))
  | .unregister id => ((s.unregister id).1, .unregistered (s.registry.unregister id).1)
  | .reportFailure error => ({ s with registry := s.registry.reportFailure error }, .reported)

/-- The inputs with which generations were attempted, in order. -/
def attempts (s : Session σ) : List Inputs :=
  s.history.filterMap Activity.attempt?

/-- An edit leaves the controller as it is and reports no change, or it is a call that gives the
controller inputs and reports whether they are a change. -/
theorem controller_edit (s : Session σ) (now : Time) (edit : Edit σ) :
    ((s.edit now edit).1.controller = s.controller ∧ (s.edit now edit).2.isChange = false) ∨
      ∃ input next, s.controller.inputs.give s.registry.catalog input = .ok next ∧
        (s.edit now edit).1.controller = s.controller.take next now ∧
        (s.edit now edit).2.isChange = next.2 := by
  cases edit with
  | input input =>
    cases hgive : s.controller.inputs.give s.registry.catalog input with
    | error error =>
      refine .inl ⟨?_, ?_⟩ <;> simp only [Session.edit, input_eq, hgive] <;> rfl
    | ok next =>
      refine .inr ⟨input, next, hgive, ?_, ?_⟩ <;> simp only [Session.edit, input_eq, hgive] <;> rfl
  | register entry =>
    refine .inl ⟨?_, ?_⟩ <;>
      simp only [Session.edit, register] <;>
      cases s.registry.register entry <;> rfl
  | unregister id => exact .inl ⟨rfl, rfl⟩
  | reportFailure error => exact .inl ⟨rfl, rfl⟩

/-- Edits are no part of the history. -/
theorem history_edit (s : Session σ) (now : Time) (edit : Edit σ) :
    (s.edit now edit).1.history = s.history := by
  cases edit with
  | input input =>
    simp only [Session.edit, input_eq]
    cases s.controller.inputs.give s.registry.catalog input <;> rfl
  | register entry =>
    simp only [Session.edit, register]
    cases s.registry.register entry <;> rfl
  | unregister id => rfl
  | reportFailure error => rfl

/-- Edits leave alone the world, the emitters and what is shown. -/
theorem frame_edit (s : Session σ) (now : Time) (edit : Edit σ) :
    (s.edit now edit).1.world = s.world ∧ (s.edit now edit).1.emitters = s.emitters ∧
      (s.edit now edit).1.controller.output = s.controller.output := by
  cases edit with
  | input input =>
    simp only [Session.edit, input_eq]
    cases s.controller.inputs.give s.registry.catalog input with
    | error error => exact ⟨rfl, rfl, rfl⟩
    | ok next => exact ⟨rfl, rfl, Controller.output_take ..⟩
  | register entry =>
    simp only [Session.edit, register]
    cases s.registry.register entry <;> exact ⟨rfl, rfl, rfl⟩
  | unregister id => exact ⟨rfl, rfl, rfl⟩
  | reportFailure error => exact ⟨rfl, rfl, rfl⟩

end Session

namespace Drive

/-- A session at its start, with nothing in flight. -/
def start (settings : ControllerSettings) (registry : Registry σ) (emitters : EmitterTable)
    (world : σ) : Drive σ where
  session := .initial settings registry emitters world

/-- A session at its start with one engine, which follows a script and writes plain text. -/
def rehearse (script : List Behavior) : Drive Rehearsal :=
  let made := Rehearsal.enlist {} ⟨"echo", "Echo", [⟨"text", "Text"⟩]⟩ script
  let emitters := EmitterTable.register {} "text" (.plain "text")
  start {} (Registry.registerIfNew {} made.1) emitters made.2

/-- The controller that is driven. -/
def controller (d : Drive σ) : Controller :=
  d.session.controller

@[simp] theorem controller_mk (s : Session σ) (held : List (PendingGeneration σ)) :
    (Drive.mk s held).controller = s.controller := rfl

/-- Takes an action. There is nothing to complete or to give up if nothing is held. -/
def step (d : Drive σ) : Action σ → Drive σ
  | .edit edit now => { d with session := (d.session.edit now edit).1 }
  | .begin => ⟨d.session.begin.1, d.held ++ d.session.begin.2.toList⟩
  | .complete now =>
    match d.held with
    | [] => d
    | pending :: others => ⟨d.session.complete pending now, others⟩
  | .abandon =>
    match d.held with
    | [] => d
    | _ :: others => ⟨d.session.abandon, others⟩
  | .poll now => { d with session := (d.session.poll now).1 }
  | .flush now => { d with session := d.session.flush now }
  | .drift world => { d with session := { d.session with world } }

/-- Takes actions one after another. -/
def perform (d : Drive σ) (actions : List (Action σ)) : Drive σ :=
  actions.foldl step d

@[simp] theorem perform_nil (d : Drive σ) : d.perform [] = d := rfl

@[simp] theorem perform_cons (d : Drive σ) (action : Action σ) (actions : List (Action σ)) :
    d.perform (action :: actions) = (d.step action).perform actions := rfl

theorem perform_append (d : Drive σ) (before after : List (Action σ)) :
    d.perform (before ++ after) = (d.perform before).perform after :=
  List.foldl_append

/-- Whether an action is an input call that reports a change. -/
def changes (d : Drive σ) : Action σ → Bool
  | .edit edit now => (d.session.edit now edit).2.isChange
  | _ => false

/-- Whether some of the actions is an input call that reports a change. -/
def changesWithin (d : Drive σ) : List (Action σ) → Bool
  | [] => false
  | action :: actions => d.changes action || (d.step action).changesWithin actions

end Drive

end TemplateInspector
