import TemplateInspector.Cli.Program
import TemplateInspector.Shell.Run
import TemplateInspector.Template.Validation

/-!
# The program

Takes what a command line may need from the disk into a file tree, runs the inspector on it, and
prints and stores what came out of it. The scripts of plugins are run on the same tree.
-/

namespace TemplateInspector.Cli

/-- How deep below a search directory the files of a plugin are taken along. -/
def pluginDepth : Nat := 4

/-- Takes what is at a place of the disk into a tree, with what is below it down to a depth. A file
counts as a program if it names an interpreter. -/
def takePlace : Nat → Place → FileTree → IO FileTree
  | depth, place, tree => do
    let path ← try pure (some (← IO.FS.realPath place.path))
      catch _ => pure none
    let some path := path | return tree
    let names ← try pure (some ((← path.readDir).toList.map IO.FS.DirEntry.fileName))
      catch _ => pure none
    match names, depth with
    | some _, 0 => return tree.putDirectories place
    | some names, depth + 1 =>
      names.foldlM (fun tree name => takePlace depth (place ++ [name]) tree)
        (tree.putDirectories place)
    | none, _ =>
      try
        let bytes ← IO.FS.readBinFile path
        return tree.putBelow place
          (.file bytes (Program.interpreterOf? (Text.ofBytes bytes)).isSome)
      catch _ => return tree

/-- Takes what a path leads to into the tree of a machine. -/
def takePath (depth : Nat) (path : String) (machine : Machine) : IO Machine := do
  let start := if Path.isAbsolute path then [] else machine.directory
  let route := FileTree.route start (Path.segments path)
  let files ← route.foldlM (fun files place => takePlace 0 place files) machine.files
  let files ← match route.getLast? with
    | some place => takePlace depth place files
    | none => pure files
  return { machine with files }

/-- The paths that an invocation works on, with the depth down to which each matters. -/
def pathsOf (machine : Machine) (invocation : Invocation) : List (Nat × String) :=
  let plugins := (searchPaths machine (settingsFor machine invocation)).map fun path =>
    (pluginDepth, path)
  match invocation.task with
  | .engines _ | .listPlugins => plugins
  | .validatePlugin path => [(pluginDepth, path)]
  | .generate template _ _ output =>
    (0, template) :: (output.toList.map fun path => (0, path)) ++ plugins
  | .watch template _ => (0, template) :: plugins

/-- A machine with what a command line may need from the disk. -/
def takeMachine (arguments : List String) : IO Machine := do
  let home ← IO.getEnv "HOME"
  let directory := (Path.segments (← IO.currentDir).toString).filter fun s => !Path.isIdle s
  let machine : Machine := {
    files := FileTree.withSystem {}, directory, home
    check := Template.validate fun _ => "it does not match the grammar"
    execute := Shell.execute }
  let machine ← (InspectorSettings.candidates machine).foldlM (fun machine path =>
    takePath 0 path machine) machine
  match Invocation.read arguments with
  | .error _ => return machine
  | .ok invocation =>
    (pathsOf machine invocation).foldlM (fun machine (depth, path) =>
      takePath depth path machine) machine

/-- Prints what a command has printed. -/
def printTranscript (t : Transcript) : IO Unit := do
  IO.print t.output
  IO.eprint t.remarks
  (← IO.getStdout).flush

/-- Stores the files that have changed. -/
def storeChanges (before after : FileTree) : IO Unit :=
  (FileTree.changes before after).forM fun (place, bytes) =>
    IO.FS.writeBinFile place.path bytes

/-- The text of the input from here on. -/
partial def readInput (input : IO.FS.Stream) (text : String) : IO String := do
  let line ← input.getLine
  if line.isEmpty then return text else readInput input (text ++ line)

/-- Looks at a watched template over and over. `start` is the time at which the watch began. -/
partial def keepWatching (interval start : Nat) (watch : Watch) : IO Unit := do
  let world ← takePath 0 watch.template watch.loop.session.world
  let loop := { watch.loop with session := { watch.loop.session with world } }
  let (watch, transcript) := { watch with loop }.advance ((← IO.monoMsNow) - start)
  printTranscript transcript
  IO.sleep interval.toUInt32
  keepWatching interval start watch

end TemplateInspector.Cli

open TemplateInspector in
/-- Runs the inspector on the machine. -/
def main (arguments : List String) : IO UInt32 := do
  let machine ← Cli.takeMachine arguments
  let input ← if Cli.readsInput arguments then Cli.readInput (← IO.getStdin) "" else pure ""
  let run := Cli.run machine input arguments
  Cli.printTranscript run.transcript
  Cli.storeChanges machine.files run.machine.files
  match run.watch with
  | some watch =>
    let interval := (InspectorSettings.find machine).interval
    Cli.keepWatching interval (← IO.monoMsNow) watch
  | none => pure ()
  return run.code.toUInt32
