import TemplateInspector.Files.Tree
import TemplateInspector.Shell.Command
import TemplateInspector.Shell.Printing
import TemplateInspector.Text.Bytes

/-!
# The state of a shell

What a running script knows and has printed so far. Output goes to numbered buffers, of which the
first two belong to whoever started the shell, to files, or to a program that started the shell.
-/

namespace TemplateInspector.Shell

/-- A variable. -/
structure Variable where
  /-- Its name. -/
  name : List Char
  /-- Its value, if it has one. -/
  value : Option (List Char)
  /-- Whether programs that are run get to know it. -/
  exported : Bool := false
  /-- Whether its value must not change. -/
  isFixed : Bool := false
  deriving DecidableEq, Repr

/-- Where a descriptor leads. -/
inductive Channel
  /-- To a buffer. -/
  | buffer (number : Nat)
  /-- To the end of a file. -/
  | file (place : Place)
  /-- To a descriptor of the program that started the shell. -/
  | starter (descriptor : Nat)
  /-- Nowhere. -/
  | nowhere
  deriving DecidableEq, Repr

/-- How a script goes on. -/
inductive Flow
  /-- With the next command. -/
  | next
  /-- Not at all: the script has ended. -/
  | ended
  /-- Not at all: a signal has killed the shell. -/
  | killed (signal : Nat)
  /-- Behind a loop, which may enclose others. -/
  | broken (levels : Nat)
  /-- With the next round of a loop, which may enclose others. -/
  | continued (levels : Nat)
  /-- Behind the call of a function. -/
  | returned
  deriving DecidableEq, Repr

/-- When the commands of a trap are run. -/
inductive TrapEvent
  /-- At the end of the script. -/
  | ending
  /-- After the command during which a signal arrives. -/
  | signal (number : Nat)
  deriving DecidableEq, Repr

/-- Another descriptor for input than the first one. -/
structure InputDescriptor where
  /-- Its number. -/
  number : Nat
  /-- The text that has not been read. -/
  text : List Char
  /-- Whether it is a file. -/
  isFile : Bool
  deriving DecidableEq, Repr

/-- A shell at work. -/
structure State where
  /-- The files. -/
  files : FileTree
  /-- The working directory. -/
  directory : Place
  /-- The name under which the script runs. -/
  name : List Char
  /-- The arguments of the script or function. -/
  arguments : List (List Char) := []
  /-- The variables. -/
  bindings : List Variable := []
  /-- The functions. -/
  functions : List (List Char × Command) := []
  /-- The here-documents of the script. -/
  documents : List (Nat × Word) := []
  /-- The input that has not been read. -/
  input : List Char := []
  /-- Whether the input is a file. -/
  inputIsFile : Bool := false
  /-- The descriptor whose input the current command reads, if that is another one. -/
  inputFrom : Option Nat := none
  /-- The other descriptors for input. -/
  inputs : List InputDescriptor := []
  /-- Where the descriptors lead. -/
  descriptors : List (Nat × Channel) := [(1, .buffer 0), (2, .buffer 1)]
  /-- The contents of the buffers, last character first. -/
  buffers : List (List Char) := [[], []]
  /-- What was printed for the program that started the shell, last first, with its descriptors. -/
  pieces : List (Nat × List Char) := []
  /-- The status of the last command. -/
  status : Nat := 0
  /-- How the script goes on. -/
  flow : Flow := .next
  /-- The line of the current command. -/
  line : Nat := 1
  /-- The command that runs other commands, if there is one, which complaints name. -/
  speaker : List Char := []
  /-- Whether a command that fails ends the script. -/
  stopsOnFailure : Bool := false
  /-- Whether it is an error to use a parameter that is missing. -/
  demandsParameters : Bool := false
  /-- Whether commands are printed before they are run. -/
  traces : Bool := false
  /-- Whether all variables that are set are exported. -/
  exportsAll : Bool := false
  /-- Whether fields do not stand for the paths that have them for a pattern. -/
  ignoresPatterns : Bool := false
  /-- Whether files that are there must not be written. -/
  keepsFiles : Bool := false
  /-- Whether the script is printed as it is read. -/
  echoesScript : Bool := false
  /-- Whether commands are only read. -/
  skipsCommands : Bool := false
  /-- Whether the current command is a condition, which may fail. -/
  inCondition : Bool := false
  /-- Whether the input was redirected for the current command. -/
  inputRedirected : Bool := false
  /-- The status of the last commands whose output was taken for a word. -/
  outputStatus : Option Nat := none
  /-- The number of loops around the current command. -/
  loops : Nat := 0
  /-- In a function, the variables that get their old values back at its end. -/
  frame : Option (List (List Char × Option (List Char))) := none
  /-- Whether the shell is one of its own in another one. -/
  isInner : Bool := false
  /-- The names whose programs have been found. -/
  found : List (List Char) := []
  /-- The commands that are run at events. -/
  traps : List (TrapEvent × List Char) := []
  /-- The signals that have arrived and whose commands have not been run. -/
  arrived : List Nat := []
  /-- The statuses of the commands that were run beside the script, with their numbers. -/
  jobs : List (Nat × Nat) := []
  /-- How many letters of the current argument have been taken for options. -/
  lettersTaken : Nat := 0
  /-- The mask of permissions. -/
  mask : Nat := 18
  /-- The microseconds that have gone by. -/
  elapsed : Nat := 0

namespace State

/-- The number of the process of a shell. Commands that are run beside the script have the numbers
behind it. -/
def processNumber : Nat := 4711

/-- Whether the script goes on with the next command. -/
def goesOn (s : State) : Bool :=
  s.flow = .next

/-- Sets the status. -/
def withStatus (s : State) (status : Nat) : State :=
  { s with status }

/-- Ends the script with a status. -/
def stop (s : State) (status : Nat) : State :=
  { s with status, flow := .ended }

/-- Writes to a channel. -/
def writeTo (s : State) (text : List Char) : Channel → State
  | .buffer number =>
    { s with buffers := s.buffers.modify number fun old => text.reverse ++ old }
  | .file place =>
    match s.files.node? place with
    | some (.file bytes executable) =>
      { s with files := s.files.put place (.file (bytes ++ Text.toBytes text) executable) }
    | _ => s
  | .starter descriptor => { s with pieces := (descriptor, text) :: s.pieces }
  | .nowhere => s

/-- Writes to a descriptor. -/
def write (s : State) (descriptor : Nat) (text : List Char) : State :=
  match s.descriptors.lookup descriptor with
  | some channel => s.writeTo text channel
  | none => s

/-- Leads a descriptor to a channel. -/
def lead (s : State) (descriptor : Nat) (channel : Channel) : State :=
  { s with descriptors :=
      (descriptor, channel) :: s.descriptors.filter fun entry => entry.1 ≠ descriptor }

/-- Closes a descriptor. -/
def close (s : State) (descriptor : Nat) : State :=
  { s with descriptors := s.descriptors.filter fun entry => entry.1 ≠ descriptor }

/-- Writes a line that complains about something, with the current line of the script and the
command that complains. -/
def complain (s : State) (text : List Char) : State :=
  let parts := [s.name, (toString s.line).toList] ++
    (if s.speaker.isEmpty then [] else [s.speaker]) ++ [text]
  s.write 2 (": ".toList.intercalate parts ++ ['\n'])

/-- The text of a buffer. -/
def bufferText (s : State) (number : Nat) : List Char :=
  ((s.buffers[number]?).getD []).reverse

/-- The value of a variable. -/
def valueOf? (s : State) (name : List Char) : Option (List Char) :=
  (s.bindings.find? fun entry => entry.name = name).bind Variable.value

/-- Whether the value of a variable must not change. -/
def isFixed (s : State) (name : List Char) : Bool :=
  s.bindings.any fun entry => entry.name = name && entry.isFixed

/-- Sets a variable, which stays exported if it was. -/
def set (s : State) (name value : List Char) : State :=
  if s.bindings.any fun entry => entry.name = name then
    { s with bindings := s.bindings.map fun entry =>
        if entry.name = name then
          { entry with value := some value, exported := entry.exported || s.exportsAll }
        else entry }
  else { s with bindings := s.bindings ++
        [{ name, value := some value, exported := s.exportsAll }] }

/-- Changes what is known of a variable, which need not have a value. -/
def mark (s : State) (name : List Char) (change : Variable → Variable) : State :=
  if s.bindings.any fun entry => entry.name = name then
    { s with bindings := s.bindings.map fun entry =>
        if entry.name = name then change entry else entry }
  else { s with bindings := s.bindings ++ [change { name, value := none }] }

/-- Exports a variable. -/
def export_ (s : State) (name : List Char) : State :=
  s.mark name fun entry => { entry with exported := true }

/-- Keeps the value of a variable from being changed. -/
def fix (s : State) (name : List Char) : State :=
  s.mark name fun entry => { entry with isFixed := true }

/-- Removes a variable. -/
def unset (s : State) (name : List Char) : State :=
  { s with bindings := s.bindings.filter fun entry => entry.name ≠ name }

/-- Lets a command speak. -/
def speaking (s : State) (speaker : List Char) : State :=
  { s with speaker }

/-- Makes some variables what they are in another state. -/
def putBack (s other : State) (names : List (List Char)) : State :=
  let isNamed (entry : Variable) : Bool := names.contains entry.name
  if names.isEmpty then s
  else { s with bindings :=
    (s.bindings.filter fun entry => !isNamed entry) ++ other.bindings.filter isNamed }

/-- Gives variables their old values back. -/
def restore (s : State) (saved : List (List Char × Option (List Char))) : State :=
  saved.foldl (fun s (name, value) =>
    match value with
    | some value => s.set name value
    | none => s.unset name) s

/-- The number of rows in which variables are kept. -/
def rowCount : Nat := 39

/-- The row in which a variable is kept. -/
def rowOf (name : List Char) : Nat :=
  (name.map Char.toNat).foldl (· + ·) (16 * (name.headD '\x00').toNat) % rowCount

/-- Puts the variables in the order of their rows, in which programs get to know them. -/
def inRows (s : State) : State :=
  { s with bindings := s.bindings.mergeSort fun x y => rowOf x.name ≤ rowOf y.name }

/-- The environment of programs that are run. -/
def environment (s : State) : List (List Char × List Char) :=
  (s.bindings.filter Variable.exported).filterMap fun entry =>
    entry.value.map fun value => (entry.name, value)

/-- Sets the variables of an environment. -/
def withEnvironment (s : State) (environment : List (List Char × List Char)) : State :=
  environment.foldl (fun s (name, value) => (s.set name value).export_ name) s

/-- The value of a parameter; none if it is missing. -/
def parameter? (s : State) (name : List Char) : Option (List Char) :=
  match name with
  | ['#'] => some (toString s.arguments.length).toList
  | ['?'] => some (toString s.status).toList
  | ['$'] => some (toString processNumber).toList
  | ['!'] => s.jobs.head?.map fun job => (toString job.1).toList
  | ['-'] => some ([(s.demandsParameters, 'u'), (s.exportsAll, 'a'), (s.keepsFiles, 'C'),
      (s.echoesScript, 'v'), (s.traces, 'x'), (s.skipsCommands, 'n'), (s.ignoresPatterns, 'f'),
      (s.stopsOnFailure, 'e')].filterMap fun (isOn, letter) => if isOn then some letter else none)
  | ['@'] | ['*'] => if s.arguments.isEmpty then none else some ([' '].intercalate s.arguments)
  | c :: rest =>
    if c.isDigit then
      match digitsIn 10 (c :: rest) with
      | 0 => some s.name
      | number + 1 => s.arguments[number]?
    else s.valueOf? (c :: rest)
  | [] => none

/-- The characters at which values are divided into fields. -/
def separators (s : State) : List Char :=
  (s.valueOf? "IFS".toList).getD [' ', '\t', '\n']

end State

end TemplateInspector.Shell
