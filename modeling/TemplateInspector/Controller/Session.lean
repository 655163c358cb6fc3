import TemplateInspector.Controller.Basic
import TemplateInspector.Registry.Basic

/-!
# Sessions

A session is a controller together with the engines it works with: the registry, the emitters, and
the world in which engines act. Attempts, builds and runs of engines are kept in a history.
-/

namespace TemplateInspector

/-- What an engine was asked for. -/
structure Request where
  /-- The identifier of the engine. -/
  engine : String
  /-- Where the engine comes from. -/
  origin : EngineOrigin
  /-- The template. -/
  source : String
  /-- The language and mode. -/
  host : Host
  deriving DecidableEq, Repr

/-- What a session did. -/
inductive Activity
  /-- It attempted a generation with this template, selection and mode. -/
  | attempted (text : String) (selection : Selection) (designTime : Bool)
  /-- It had an engine built, with success or not. -/
  | built (engine : String) (success : Bool)
  /-- It ran an engine. -/
  | called (request : Request)
  deriving DecidableEq, Repr

/-- A generation that has begun and whose engine has not run. -/
structure PendingGeneration (σ : Type) where
  /-- The identifier of the engine. -/
  engineId : String
  /-- The engine. -/
  engine : Engine σ
  /-- The language and mode. -/
  host : Host
  /-- The template. -/
  source : String

/-- What the engine of a pending generation is asked for. -/
def PendingGeneration.request (pending : PendingGeneration σ) : Request :=
  ⟨pending.engineId, pending.engine.origin, pending.source, pending.host⟩

/-- A controller with the engines it works with. -/
structure Session (σ : Type) where
  /-- The controller. -/
  controller : Controller
  /-- The registered engines. -/
  registry : Registry σ
  /-- The emitters. -/
  emitters : EmitterTable
  /-- The world in which engines act. -/
  world : σ
  /-- What the session did, in order. -/
  history : List Activity := []

namespace Session

/-- A session at its start. -/
def initial (settings : ControllerSettings) (registry : Registry σ) (emitters : EmitterTable)
    (world : σ) : Session σ where
  controller := .initial settings registry.catalog
  registry
  emitters
  world

/-- Adds to the history. -/
def record (s : Session σ) (activities : List Activity) : Session σ :=
  { s with history := s.history ++ activities }

/-- Replaces the template. -/
def setText (s : Session σ) (text : String) (now : Time) : Session σ × Bool :=
  let (controller, changed) := s.controller.setText text now
  ({ s with controller }, changed)

/-- Turns the design-time mode on or off. -/
def setDesignTime (s : Session σ) (designTime : Bool) (now : Time) : Session σ × Bool :=
  let (controller, changed) := s.controller.setDesignTime designTime now
  ({ s with controller }, changed)

/-- Selects an engine, or none. -/
def selectEngine (s : Session σ) (id : Option String) (now : Time) :
    Except SelectionError (Session σ × Bool) :=
  (s.controller.selectEngine s.registry.catalog id now).map fun (controller, changed) =>
    ({ s with controller }, changed)

/-- Selects a language, or none. -/
def selectLanguage (s : Session σ) (language : Option Language) (now : Time) : Session σ × Bool :=
  let (controller, changed) := s.controller.selectLanguage s.registry.catalog language now
  ({ s with controller }, changed)

/-- Repairs the selection after engines were registered or removed. -/
def registryChanged (s : Session σ) (now : Time) : Session σ × Bool :=
  let (controller, changed) := s.controller.registryChanged s.registry.catalog now
  ({ s with controller }, changed)

/-- Begins a generation. There is none if one is in flight already, if no engine is registered or
the template is empty, or if the engine cannot be built. -/
def begin (s : Session σ) : Session σ × Option (PendingGeneration σ) :=
  let controller := s.controller.reclaim.1
  if controller.state = .generating then ({ s with controller }, none)
  else
    let c := controller.startAttempt s.registry.catalog
    let s := { s with controller := c }.record [.attempted c.text c.selection c.designTime]
    match if c.text.isEmpty then none else c.selection.engine with
    | none => ({ s with controller := c.clearOutput }, none)
    | some id =>
      match s.registry.instantiate id s.world with
      | (none, _, _) => ({ s with controller := c.clearOutput }, none)
      | (some instantiation, registry, world) =>
        let s := { s with registry, world }
        match instantiation with
        | .failed error =>
          ({ s with controller := c.fail error.message }.record [.built id false], none)
        | .built engine =>
          ({ s with controller := c.takeOff }.record [.built id true],
            some ⟨id, engine, c.configure engine.createHost, c.text⟩)
        | .kept engine =>
          ({ s with controller := c.takeOff },
            some ⟨id, engine, c.configure engine.createHost, c.text⟩)

/-- Runs the engine of a pending generation and completes it. -/
def complete (s : Session σ) (pending : PendingGeneration σ) (now : Time) : Session σ :=
  let (outcome, world) := pending.engine.generate pending.source pending.host s.world
  { s with
    controller := s.controller.land s.emitters pending.host.language outcome now
    world }.record [.called pending.request]

/-- Gives up the pending generation. -/
def abandon (s : Session σ) : Session σ :=
  { s with controller := s.controller.abandon }

/-- Begins a generation and completes it at once. -/
def run (s : Session σ) (now : Time) : Session σ :=
  match s.begin with
  | (s, some pending) => s.complete pending now
  | (s, none) => s

/-- Arms the timer if a generation was given up after changes had been recorded. -/
def reclaimAt (s : Session σ) (now : Time) : Session σ :=
  match s.controller.reclaim with
  | (controller, true) => { s with controller := controller.markChanged now }
  | (controller, false) => { s with controller }

/-- Runs a generation if the timer is due, and tells whether it was. -/
def poll (s : Session σ) (now : Time) : Session σ × Bool :=
  let s := s.reclaimAt now
  if s.controller.timer.isDue now then (s.run now, true) else (s, false)

/-- Runs a generation now, whether or not the timer is due. -/
def flush (s : Session σ) (now : Time) : Session σ :=
  { s with controller := s.controller.reclaim.1 }.run now

/-- What is shown of a session. -/
def snapshot (s : Session σ) : Snapshot :=
  s.controller.snapshot s.registry.catalog

/-- Registers an engine, of which the controller learns nothing. -/
def register (s : Session σ) (entry : EngineEntry σ) : Except RegistryError (Session σ) :=
  (s.registry.register entry).map fun registry => { s with registry }

/-- Removes an engine, of which the controller learns nothing. -/
def unregister (s : Session σ) (id : String) : Session σ × Bool :=
  let (entry, registry) := s.registry.unregister id
  ({ s with registry }, entry.isSome)

end Session

end TemplateInspector
