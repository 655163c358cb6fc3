import TemplateInspector.Engine.Entry
import TemplateInspector.Text.Line

/-!
# Engines that follow a script

A scripted engine answers each request as the next line of its script says; the last line is
repeated. Scripts are kept in the world, so that they go on where they stopped, together with the
number of engines that were built on request.
-/

namespace TemplateInspector

/-- A line of a script. -/
inductive Behavior
  /-- Succeed with the template as output. -/
  | succeed
  /-- As `succeed`, but report errors of the template. -/
  | errors
  /-- Produce nothing. -/
  | decline
  /-- Fail. -/
  | fail (error : EngineError)
  /-- Break down, leaving a message or none. -/
  | panic (message : Option String)
  /-- Produce this result. -/
  | produce (result : GenerationResult)
  /-- Insist on one of these languages, then succeed. -/
  | insist (languages : List Language)
  deriving DecidableEq, Repr

/-- The scripts of all scripted engines and the number of builds on request. -/
structure Rehearsal where
  /-- How often an engine was to be built on request. -/
  builds : Nat := 0
  /-- What is left of each script. -/
  scripts : List (List Behavior) := []
  deriving DecidableEq, Repr

namespace Behavior

/-- The result that has the template as its output. -/
def echo (source : String) (success : Bool) : GenerationResult where
  code := { types := [{
    name := "Echo"
    methods := [{ name := "render", statements := [.writeLiteral source] }] }] }
  document := ⟨.document, ⟨0, Text.byteLength source.toList⟩, "", []⟩
  success

/-- What an engine that follows a line comes to. -/
def outcome (source : String) (host : Host) : Behavior → Outcome
  | succeed => .result (echo source true)
  | errors => .result (echo source false)
  | decline => .declined
  | fail error => .failed error
  | panic message => .panicked message
  | produce result => .result result
  | insist languages =>
    match host.requireSupported languages with
    | .ok _ => .result (echo source true)
    | .error error => .failed error

end Behavior

namespace Rehearsal

/-- The line of a script that is next; without lines left an engine succeeds. -/
def next (world : Rehearsal) (script : Nat) : Behavior :=
  (world.scripts.getD script []).headD .succeed

/-- Goes on to the line after the next one, unless that is the last. -/
def advance (world : Rehearsal) (script : Nat) : Rehearsal :=
  { world with scripts := world.scripts.modify script fun
      | _ :: next :: rest => next :: rest
      | lines => lines }

/-- The engine that follows the script of a number. -/
def engine (script : Nat) : Engine Rehearsal where
  origin := .script
  generate source host world := ((world.next script).outcome source host, world.advance script)

/-- Adds a script, with an entry for an engine that follows it. -/
def enlist (world : Rehearsal) (descriptor : EngineDescriptor) (script : List Behavior) :
    EngineEntry Rehearsal × Rehearsal :=
  (.eager descriptor (engine world.scripts.length),
    { world with scripts := world.scripts ++ [script] })

/-- As `enlist`, for an engine that is built on request. Requests fail as long as no more than
`failures` were made of all engines together. -/
def enlistLazy (world : Rehearsal) (descriptor : EngineDescriptor) (script : List Behavior)
    (failures : Nat) : EngineEntry Rehearsal × Rehearsal :=
  let number := world.scripts.length
  let build (world : Rehearsal) : Except EngineError (Engine Rehearsal) × Rehearsal :=
    let world := { world with builds := world.builds + 1 }
    if world.builds ≤ failures then (.error (.instantiation "runtime missing"), world)
    else (.ok (engine number), world)
  ({ descriptor, build }, { world with scripts := world.scripts ++ [script] })

end Rehearsal

end TemplateInspector
