import TemplateInspector.Controller.Settings
import TemplateInspector.Controller.Snapshot
import TemplateInspector.Debounce
import TemplateInspector.Emit.Emitter
import TemplateInspector.Selection

/-!
# The controller of regeneration

A controller owns what can be edited (the template, the selection, the design-time flag) and what
was generated from it. An effective edit arms the debounce timer; once the timer is due a generation
is attempted. At most one generation is in flight, and a change that is made meanwhile is recorded
and arms the timer when the generation is completed.

This module holds the controller's own transitions. They take the catalog of registered engines and
the outcomes of engines as arguments and neither build nor run an engine.
-/

namespace TemplateInspector

/-- What a controller is doing. -/
inductive ControllerState
  /-- Nothing has to be done and nothing is shown. -/
  | idle
  /-- Edits are resting until the deadline. -/
  | pending (deadline : Time)
  /-- A generation is in flight. -/
  | generating
  /-- The last generation succeeded. -/
  | succeeded
  /-- The last attempt failed. -/
  | failed (reason : String)
  deriving DecidableEq, Repr

namespace ControllerState

/-- The name of a state. -/
def label : ControllerState → String
  | idle => "idle"
  | pending _ => "pending"
  | generating => "generating"
  | succeeded => "succeeded"
  | failed _ => "failed"

/-- The text that shows a state: its name, for a failure with the reason. -/
def display : ControllerState → String
  | failed reason => "failed: " ++ reason
  | state => state.label

end ControllerState

namespace Status

/-- The status when nothing is shown. -/
def ready : String := "Ready"

/-- The status while a generation is in flight. -/
def compiling : String := "Compiling..."

/-- The status after a generation without errors. -/
def success : String := "Success"

/-- The status after a generation of a template with errors. -/
def errors : String := "Errors during compilation"

/-- The status after a failed attempt. -/
def failure (reason : String) : String := "Generation failed: " ++ reason

end Status

/-- Whether a generation is in flight, as the controller knows it. -/
inductive Flight
  /-- None is. -/
  | none
  /-- One is, and somebody holds it. -/
  | live
  /-- One was, and it was given up without being completed. -/
  | abandoned
  deriving DecidableEq, Repr

/-- Why a generated unit could not be written. -/
inductive RenderError
  /-- The host named no language. -/
  | engine (error : EngineError)
  /-- The language has no emitter. -/
  | language (error : LanguageError)
  /-- The emitter failed. -/
  | emit (error : EmitError)
  deriving DecidableEq, Repr

/-- The text that reports a unit that could not be written. -/
def RenderError.message : RenderError → String
  | .engine error => error.message
  | .language error => error.message
  | .emit error => error.message

/-- Writes a unit in the language of a host. -/
def EmitterTable.render (emitters : EmitterTable) (language : Option Language) (unit : SourceUnit) :
    Except RenderError String :=
  match language with
  | none => .error (.engine .hostNotConfigured)
  | some language =>
    match emitters.create language with
    | .error error => .error (.language error)
    | .ok emitter =>
      match emitter.emit unit with
      | .error error => .error (.emit error)
      | .ok text => .ok text

/-- The inputs of a controller and what was generated from them. -/
structure Controller where
  /-- How the controller is set up. -/
  settings : ControllerSettings := {}
  /-- The selected engine and language. -/
  selection : Selection := {}
  /-- The template. -/
  text : String := ""
  /-- Whether the output should map back to the template. -/
  designTime : Bool := false
  /-- What the controller is doing. -/
  state : ControllerState := .idle
  /-- The debounce timer. -/
  timer : DebounceTimer := {}
  /-- The status line. -/
  status : String := Status.ready
  /-- The generated source. -/
  code : String := ""
  /-- The tree of the template from which the source was generated. -/
  tree : Option Block := none
  /-- The number of completed generations. -/
  generations : Nat := 0
  /-- Whether something was changed since the generation in flight began. -/
  changedInFlight : Bool := false
  /-- Whether a generation is in flight. -/
  flight : Flight := .none
  deriving DecidableEq, Repr

namespace Controller

/-- A controller at its start, with the first registered engine selected. -/
def initial (settings : ControllerSettings) (catalog : List EngineDescriptor) : Controller where
  settings
  selection := Selection.reconciled {} catalog

/-- Leaves the generating state if the generation in flight was given up. Tells whether changes
were recorded meanwhile. -/
def reclaim (c : Controller) : Controller × Bool :=
  if c.flight = .abandoned then
    ({ c with flight := .none, state := .idle, status := Status.ready, changedInFlight := false },
      c.changedInFlight)
  else (c, false)

/-- Takes note of a change: records it while a generation is in flight, else arms the timer. -/
def markChanged (c : Controller) (now : Time) : Controller :=
  let c := c.reclaim.1
  if c.state = .generating then { c with changedInFlight := true }
  else { c with
    timer := c.timer.arm now c.settings.debounce
    state := .pending (now + c.settings.debounce) }

/-- Replaces the template; tells whether that is a change. -/
def setText (c : Controller) (text : String) (now : Time) : Controller × Bool :=
  if text = c.text then (c, false) else ({ c with text }.markChanged now, true)

/-- Turns the design-time mode on or off; tells whether that is a change. -/
def setDesignTime (c : Controller) (designTime : Bool) (now : Time) : Controller × Bool :=
  if designTime = c.designTime then (c, false)
  else ({ c with designTime }.markChanged now, true)

/-- Takes over a selection and notes whether it is a change. -/
def withSelection (c : Controller) (now : Time) (next : Selection × Bool) : Controller × Bool :=
  let c := { c with selection := next.1 }
  (if next.2 then c.markChanged now else c, next.2)

/-- Selects an engine, or none; tells whether that is a change. -/
def selectEngine (c : Controller) (catalog : List EngineDescriptor) (id : Option String)
    (now : Time) : Except SelectionError (Controller × Bool) :=
  (c.selection.selectEngine id catalog).map (c.withSelection now)

/-- Selects a language, or none; tells whether that is a change. -/
def selectLanguage (c : Controller) (catalog : List EngineDescriptor) (language : Option Language)
    (now : Time) : Controller × Bool :=
  c.withSelection now (c.selection.selectLanguage language catalog)

/-- Repairs the selection after engines were registered or removed; tells whether that is a
change. -/
def registryChanged (c : Controller) (catalog : List EngineDescriptor) (now : Time) :
    Controller × Bool :=
  c.withSelection now (c.selection.reconcile catalog)

/-- Shows nothing. -/
def clearOutput (c : Controller) : Controller :=
  { c with code := "", tree := none, state := .idle, status := Status.ready }

/-- Reports a failure and keeps what is shown. -/
def fail (c : Controller) (reason : String) : Controller :=
  { c with status := Status.failure reason, state := .failed reason }

/-- Starts an attempt: stops the timer and reconciles the selection. -/
def startAttempt (c : Controller) (catalog : List EngineDescriptor) : Controller :=
  { c with
    timer := c.timer.cancel
    selection := c.selection.reconciled catalog }

/-- A host that an engine has made, configured as the selection and the mode ask for. -/
def configure (c : Controller) (host : Host) : Host :=
  { language := c.selection.language.or host.language, designTime := c.designTime }

/-- Enters the generating state. -/
def takeOff (c : Controller) : Controller :=
  { c with state := .generating, status := Status.compiling, flight := .live }

/-- Learns that the generation in flight was given up. -/
def abandon (c : Controller) : Controller :=
  { c with flight := .abandoned }

/-- Shows a result, if it can be written in the language of the host. -/
def showResult (c : Controller) (emitters : EmitterTable) (language : Option Language)
    (result : GenerationResult) : Controller :=
  match emitters.render language result.code with
  | .error error => c.fail error.message
  | .ok code =>
    if result.success then
      { c with code, tree := some result.document, state := .succeeded, status := Status.success }
    else
      { c with
        code, tree := some result.document
        state := .failed Status.errors, status := Status.errors }

/-- Takes over what an engine came to. -/
def absorb (c : Controller) (emitters : EmitterTable) (language : Option Language) :
    Outcome → Controller
  | .result result => c.showResult emitters language result
  | .declined => c.clearOutput
  | .failed error => c.fail error.message
  | .panicked message => c.fail ("engine panicked: " ++ message.getD "unknown panic")

/-- Completes the generation in flight with what the engine came to. A change that was recorded
meanwhile arms the timer. -/
def land (c : Controller) (emitters : EmitterTable) (language : Option Language)
    (outcome : Outcome) (now : Time) : Controller :=
  let c := { c with flight := .none, generations := c.generations + 1 }
  let c := c.absorb emitters language outcome
  if c.changedInFlight then { c with changedInFlight := false }.markChanged now else c

/-- The languages of the selected engine. -/
def languages (c : Controller) (catalog : List EngineDescriptor) : List Language :=
  c.selection.languages catalog

/-- What is shown of a controller. -/
def snapshot (c : Controller) (catalog : List EngineDescriptor) : Snapshot where
  state := c.state.display
  status := c.status
  text := c.text
  engine := c.selection.engine
  language := c.selection.language
  languages := c.languages catalog
  designTime := c.designTime
  code := c.code
  tree := c.tree
  generations := c.generations

end Controller

end TemplateInspector
