import TemplateInspector.Cli.Setup
import TemplateInspector.Cli.Transcript
import TemplateInspector.Loop
import TemplateInspector.Machine
import TemplateInspector.Text.Blank

/-!
# Watching a template

A loop compiles a template whenever its file has changed. Every completed generation is printed, and
a change of the status is said. A file that cannot be read counts as unchanged.
-/

namespace TemplateInspector.Cli

/-- A template that is being watched. -/
structure Watch where
  /-- The path of the template. -/
  template : String
  /-- The text that was read last. -/
  contents : String
  /-- The loop. -/
  loop : Loop Machine
  /-- The number of events of the loop that were looked at. -/
  seen : Nat := 0
  /-- The number of generations that were printed. -/
  printed : Nat := 0
  /-- The status that was said last. -/
  lastStatus : String := ""

namespace Watch

/-- Sends the current text to the loop. -/
def submit (w : Watch) : Watch :=
  match w.loop.send (.setText w.contents) with
  | .ok loop => { w with loop }
  | .error _ => w

/-- Begins to watch a template whose text is known. -/
def start (template contents : String) (s : Session Machine) : Watch :=
  submit { template, contents, loop := Loop.spawn s }

/-- The line that tells what is watched. -/
def greeting (w : Watch) : String :=
  "Watching " ++ w.template ++ " (Ctrl-C to stop)"

/-- Reads the template again. -/
def reload (w : Watch) : Watch :=
  match w.loop.session.world.readText w.template with
  | .ok text => if text = w.contents then w else submit { w with contents := text }
  | .error _ => w

/-- Prints a generation. -/
def printSnapshot (t : Transcript) (snapshot : Snapshot) : Transcript :=
  let t := t.blank
  let t := match snapshot.engine, snapshot.language with
    | some engine, some language => t.heading (engine ++ " / " ++ language.display)
    | _, _ => t
  let t := if snapshot.code = "" then t else t.line (Text.trimEnd snapshot.code)
  t.status snapshot.status

/-- Looks at a snapshot that the loop has published. -/
def observe (w : Watch) (t : Transcript) (snapshot : Snapshot) : Watch × Transcript :=
  let next := { w with
    printed := max w.printed snapshot.generations
    lastStatus := snapshot.status }
  if w.printed < snapshot.generations then (next, printSnapshot t snapshot)
  else if snapshot.status ≠ w.lastStatus then (next, t.status snapshot.status)
  else (next, t)

/-- Looks at what the loop has published since the last look. -/
def report (w : Watch) : Watch × Transcript :=
  let events := w.loop.log.drop w.seen
  let w := { w with seen := w.loop.log.length }
  events.foldl (fun (w, t) event =>
    match event with
    | .published _ snapshot => w.observe t snapshot
    | .called .. => (w, t)) (w, {})

/-- Reads the template again and lets the loop work up to a time. -/
def advance (w : Watch) (time : Time) : Watch × Transcript :=
  let w := w.reload
  { w with loop := w.loop.settle.sleepUntil time }.report

end Watch

end TemplateInspector.Cli
