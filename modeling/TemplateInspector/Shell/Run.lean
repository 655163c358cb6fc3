import TemplateInspector.Shell.Arithmetic
import TemplateInspector.Shell.Builtin
import TemplateInspector.Shell.Matching
import TemplateInspector.Shell.Reader
import TemplateInspector.Utility.Table

/-!
# Running scripts

Words are replaced by what they stand for, and commands change the state of the shell. What runs in
a shell of its own (the commands of a pipeline or in parentheses, and those whose output is taken
for a word) leaves output, files and the input it did not read. Every step uses up fuel; a script
that runs out of it is killed.
-/

namespace TemplateInspector.Shell

namespace State

/-- The inputs of another state as far as they were there before. -/
def keepInputs (before after : State) : List InputDescriptor :=
  before.inputs.map fun entry =>
    (after.inputs.find? fun other => other.number = entry.number).getD entry

/-- The state in which a shell of its own starts. -/
def enterSubshell (s : State) : State :=
  { s with isInner := true, traps := s.traps.filter fun entry => entry.1 ≠ .ending }

/-- The state after a shell of its own, which has started in `before`, has come to an end. -/
def leaveSubshell (before after : State) : State :=
  { before with
    files := after.files
    input := after.input
    inputs := before.keepInputs after
    buffers := after.buffers
    pieces := after.pieces
    elapsed := after.elapsed
    arrived := after.arrived
    status := after.status % 256
    flow := match after.flow with
      | .killed signal => .killed signal
      | _ => .next }

/-- Opens a new buffer and leads the output to it. -/
def openBuffer (s : State) : State :=
  { s with buffers := s.buffers ++ [[]] }.lead 1 (.buffer s.buffers.length)

/-- Drops the buffers from a number on. -/
def dropBuffers (s : State) (number : Nat) : State :=
  { s with buffers := s.buffers.take number }

/-- The state in which a program of the shell's starts, which knows nothing but the environment and
the signals that are ignored. -/
def forProgram (s : State) (name : List Char) : State :=
  { files := s.files
    directory := s.directory
    name
    bindings := (s.bindings.filter Variable.exported).map fun entry =>
      { entry with isFixed := false }
    input := s.input
    inputIsFile := s.inputIsFile
    inputs := s.inputs
    descriptors := s.descriptors
    buffers := s.buffers
    pieces := s.pieces
    elapsed := s.elapsed
    traps := s.traps.filter fun entry => entry.1 ≠ .ending && entry.2.isEmpty
    mask := s.mask }

/-- The state after a program, which has started in `before`, has come to an end. -/
def leaveProgram (before after : State) : State :=
  { before with
    files := after.files
    input := after.input
    inputs := before.keepInputs after
    buffers := after.buffers
    pieces := after.pieces
    elapsed := after.elapsed
    status := match after.flow with
      | .killed signal => 128 + signal
      | _ => after.status % 256 }

/-- Tells which signal has ended a program. -/
def reportSignal (s : State) : Flow → State
  | .killed signal => match signalReason? signal with
    | some reason => s.write 2 (reason.toList ++ ['\n'])
    | none => s
  | _ => s

/-- The state after a command whose redirections end with it. -/
def endRedirections (before after : State) : State :=
  let update (entry : InputDescriptor) : InputDescriptor :=
    if after.inputRedirected && after.inputFrom = some entry.number then
      { entry with text := after.input }
    else entry
  let after := { after with inputs := after.inputs.map update }
  { after with
    descriptors := before.descriptors
    inputs := before.keepInputs after
    input := if after.inputRedirected then before.input else after.input
    inputIsFile := before.inputIsFile
    inputFrom := before.inputFrom
    inputRedirected := before.inputRedirected }

/-- The state after redirections that stay in force. -/
def keepRedirections (before after : State) : State :=
  { after with inputFrom := none, inputRedirected := before.inputRedirected, status := 0 }

/-- Prints a command that is run, where complaints went before its redirections. -/
def trace (s before : State) (texts : List (List Char)) : State :=
  match s.traces, before.descriptors.lookup 2 with
  | true, some channel =>
    let mark := (s.valueOf? "PS4".toList).getD "+ ".toList
    s.writeTo (mark ++ [' '].intercalate texts ++ ['\n']) channel
  | _, _ => s

/-- Ends the script if a command has failed and no failure is allowed. -/
def checkFailure (s : State) : State :=
  if s.goesOn && s.stopsOnFailure && !s.inCondition && s.status ≠ 0 then s.stop s.status else s

/-- The value of a parameter. It may be an error if it is missing. -/
def demand (s : State) (name : List Char) : List Char × State :=
  match s.parameter? name with
  | some value => (value, s)
  | none =>
    if s.demandsParameters && name ≠ ['@'] && name ≠ ['*'] then
      ([], (s.complain (name ++ ": parameter not set".toList)).stop 2)
    else ([], s)

/-- A word with the home directory in the place of a tilde that is its first segment. -/
def expandTilde (s : State) (word : Word) : Word :=
  match word, s.valueOf? "HOME".toList with
  | [.text false ['~']], some home => [.text true home]
  | .text false ('~' :: '/' :: rest) :: parts, some home =>
    .text true home :: .text false ('/' :: rest) :: parts
  | word, _ => word

/-- What all arguments stand for. -/
def argumentFragments (s : State) (quoted : Bool) (name : List Char) : List Fragment :=
  if name = ['*'] && quoted then [.whole true ((s.separators.take 1).intercalate s.arguments)]
  else
    (s.arguments.map fun argument =>
      if quoted then Fragment.whole true argument else .divided argument).intersperse .fieldEnd

/-- A value as a fragment. -/
def fragmentOf (quoted : Bool) (value : List Char) : Fragment :=
  if quoted then .whole true value else .divided value

/-- The reason why a file cannot be opened. -/
def openReason (creating : Bool) : FileError → String
  | .notFound | .notDirectory => if creating then "Directory nonexistent" else "No such file"
  | error => error.reason

/-- The descriptor that a path stands for. -/
def descriptorAt? (path : String) : Option Nat :=
  match path with
  | "/dev/stdin" | "/dev/fd/0" => some 0
  | "/dev/stdout" | "/dev/fd/1" => some 1
  | "/dev/stderr" | "/dev/fd/2" => some 2
  | _ => none

/-- Makes a descriptor yield a text. -/
def feed (s : State) (descriptor : Nat) (text : List Char) (isFile : Bool) : State :=
  if descriptor = 0 then
    { s with input := text, inputIsFile := isFile, inputFrom := none, inputRedirected := true }
  else { s with inputs :=
    ⟨descriptor, text, isFile⟩ :: s.inputs.filter fun entry => entry.number ≠ descriptor }

/-- Redirects a descriptor to or from a file. -/
def redirectFile (s : State) (descriptor : Nat) (use : FileUse) (path : List Char) :
    Except State State :=
  let shown := Text.shown path
  let refuse (verb reason : String) : Except State State :=
    .error ((s.complain (["cannot ".toList, verb.toList, [' '], path, ": ".toList,
      Text.bytesOf reason].flatten)).withStatus 2)
  let isOpen := use = .read || use = .open
  let old := s.files.read s.directory shown
  let write (bytes : ByteArray) : Except State State :=
    match s.files.write s.directory shown bytes, s.files.resolve s.directory shown with
    | .ok files, .ok place =>
      match files.node? place with
      | some .sink => .ok (s.lead descriptor .nowhere)
      | _ => .ok ({ s with files }.lead descriptor (.file place))
    | .error error, _ | _, .error error => refuse "create" (openReason true error)
  match isOpen, descriptorAt? shown with
  | true, some 0 => .ok s
  | false, some other =>
    match s.descriptors.lookup other with
    | some channel => .ok (s.lead descriptor channel)
    | none => refuse "create" (openReason true .notFound)
  | true, _ =>
    match old with
    | .ok bytes => .ok (s.feed descriptor (Text.ofBytes bytes) true)
    | .error error =>
      if use = .open && error = .notFound then
        match s.files.write s.directory shown .empty with
        | .ok files => .ok ({ s with files }.feed descriptor [] true)
        | .error error => refuse "create" (openReason true error)
      else refuse "open" (openReason false error)
  | false, none =>
    if use = .append then write (old.toOption.getD .empty)
    else if use = .write && s.keepsFiles && s.files.isFile s.directory shown then
      refuse "create" "File exists"
    else write .empty

/-- Leads a descriptor to where another one leads. -/
def redirectCopy (s : State) (descriptor : Nat) (target : List Char) : Except State State :=
  match target with
  | ['-'] =>
    if descriptor = 0 then .ok (s.feed 0 [] false)
    else .ok { s.close descriptor with
      inputs := s.inputs.filter fun entry => entry.number ≠ descriptor }
  | [c] =>
    if !c.isDigit then .error ((s.complain "Syntax error: Bad fd number".toList).stop 2)
    else
      let other := c.toNat - '0'.toNat
      match s.inputs.find? fun entry => entry.number = other, s.descriptors.lookup other with
      | some entry, _ =>
        let s := s.feed descriptor entry.text entry.isFile
        .ok (if descriptor = 0 then { s with inputFrom := some other } else s)
      | none, some channel => .ok (s.lead descriptor channel)
      | none, none =>
        if other = 0 then
          .ok (if descriptor = 0 then s else s.feed descriptor s.input s.inputIsFile)
        else .error ((s.complain (target ++ ": Bad file descriptor".toList)).withStatus 2)
  | _ => .error ((s.complain "Syntax error: Bad fd number".toList).stop 2)

/-- The program that a name stands for, as a path. -/
def programPath (s : State) (name : List Char) : Except FileError String :=
  let shown := Text.shown name
  if name.contains '/' then .ok shown
  else if name.isEmpty then .error .notFound
  else Program.search s.files s.directory ((s.valueOf? "PATH".toList).getD []) shown

/-- The status after a program could not be started. -/
def startStatus : FileError → Nat
  | .notFound | .notDirectory | .nameTooLong | .tooManyLinks => 127
  | _ => 126

/-- What the shell says about a program that could not be started. -/
def startReason : FileError → String
  | .notFound | .notDirectory => "not found"
  | error => error.reason

/-- The program that a name stands for, with its arguments. A file of no known format is a script of
the shell. If there is no program, yields the state with the complaint. -/
def findProgram (s : State) (name : List Char) (arguments : List (List Char)) :
    Except State Program :=
  let refuse (error : FileError) (status : Nat) : Except State Program :=
    .error ((s.complain (name ++ (": " ++ startReason error).toList)).withStatus status)
  match s.programPath name with
  | .error error => refuse error 127
  | .ok path =>
    match Program.start s.files s.directory path (name :: arguments) with
    | .ok program => .ok program
    | .error .unknownFormat => .ok ⟨"sh", "sh".toList :: Text.bytesOf path :: arguments⟩
    | .error error => refuse error (startStatus error)

/-- The value of an arithmetic expression, and the state after its assignments. -/
def calculate (s : State) (text : List Char) : Except ArithmeticError (Int × State) := do
  let expression ← Arithmetic.parse text
  expression.evaluate valueOf? (fun s name value => s.set name (toString value).toList) s

/-- What a call of the shell asks for. -/
structure ShellCall where
  /-- The state with its options. -/
  state : State
  /-- Whether a text is the script. -/
  hasText : Bool := false
  /-- Whether the input is the script. -/
  hasInput : Bool := false
  /-- The arguments behind the options. -/
  arguments : List (List Char) := []

/-- Reads the options of a call of the shell. `fuel` bounds the number of arguments. -/
def readCall : Nat → ShellCall → List (List Char) → Except (List Char) ShellCall
  | 0, call, arguments => .ok { call with arguments }
  | fuel + 1, call, arguments =>
    match arguments with
    | ['-', '-'] :: rest | ['-'] :: rest => .ok { call with arguments := rest }
    | (sign :: letters) :: rest =>
      if sign ≠ '-' && sign ≠ '+' then .ok { call with arguments }
      else
        match call.state.withLetters (sign == '-') (letters.filter (· ≠ 'c')) rest with
        | .error reason => .error reason
        | .ok (state, rest) =>
          readCall fuel { call with
            state
            hasText := call.hasText || letters.contains 'c'
            hasInput := call.hasInput || letters.contains 's' } rest
    | arguments => .ok { call with arguments }

/-- The state in which a script starts: the variables of the shell have values. -/
def withVariables (s : State) : State :=
  let place := Text.bytesOf s.directory.path
  let isHere := match s.valueOf? "PWD".toList with
    | some path => path.head? = some '/' &&
        (s.files.resolve s.directory (Text.shown path)).toOption == some s.directory
    | none => false
  let s := if isHere then s else (s.set "PWD".toList place).export_ "PWD".toList
  let s := if (s.valueOf? "PATH".toList).isSome then s
    else s.set "PATH".toList Program.searchPath.toList
  [("IFS", " \t\n"), ("OPTIND", "1"), ("PS1", "# "), ("PS2", "> "), ("PS4", "+ ")].foldl
    (fun s (name, value) => s.set name.toList value.toList) s

/-- The path of a program that a name stands for. A path with a slash in it need only lead to
something. -/
def runnablePath? (s : State) (name : List Char) : Option (List Char) :=
  match s.programPath name with
  | .error _ => none
  | .ok path =>
    if (s.files.find s.directory path).isOk then some (Text.bytesOf path) else none

/-- Writes what a name stands for: the name of a command of the shell or the path of a program; or a
sentence about it. It fails if it stands for nothing. -/
def describe (s : State) (command : String) (inWords : Bool) (name : List Char) : State :=
  let shown := String.ofList name
  let say (short : List Char) (words : List Char) : State :=
    s.print command ((if inWords then name ++ ' ' :: words else short) ++ ['\n'])
  if reservedWords.contains shown then say name "is a shell keyword".toList
  else if (s.functions.lookup name).isSome then say name "is a shell function".toList
  else if specialBuiltins.contains shown then say name "is a special shell builtin".toList
  else if s.isBuiltin shown then say name "is a shell builtin".toList
  else match s.runnablePath? name with
    | some path =>
      say path ((if s.found.contains name then "is a tracked alias for " else "is ").toList ++ path)
    | none =>
      (if inWords then s.print command (name ++ ": not found\n".toList) else s).withStatus 127

/-- Writes what names stand for. -/
def describeAll (s : State) (command : String) (names : List (List Char)) : State :=
  names.foldl (fun s name =>
    let status := s.status
    let s := s.describe command true name
    if s.status = 0 then s.withStatus status else s) (s.withStatus 0)

/-- Looks programs up, or prints those that have been found. -/
def lookUpAll (s : State) (arguments : List (List Char)) : State :=
  match unknownOption? "rv" arguments with
  | some letter => s.illegalOption "hash" letter
  | none =>
    match behindOptions arguments with
    | [] =>
      if arguments.isEmpty then
        s.print "hash" ((s.found.filterMap s.runnablePath?).flatMap (· ++ ['\n']))
      else { s.withStatus 0 with found := [] }
    | names => names.foldl (fun s name =>
        match s.runnablePath? name with
        | some _ => { s with found := if s.found.contains name then s.found else s.found ++ [name] }
        | none => s.fault "hash" (name ++ ": not found".toList) 1) (s.withStatus 0)

/-- The script that a name stands for: a path with a slash in it, or a file on the search path. -/
def findScript (s : State) (name : List Char) : Except State (List Char) :=
  if name.contains '/' then
    match s.files.read s.directory (Text.shown name) with
    | .ok bytes => .ok (Text.ofBytes bytes)
    | .error error =>
      .error (s.crash "." ("cannot open ".toList ++ name ++ ": ".toList ++
        Text.bytesOf (openReason false error)))
  else
    let paths := Program.candidates ((s.valueOf? "PATH".toList).getD []) (Text.shown name)
    match paths.findSome? fun path => (s.files.read s.directory path).toOption with
    | some bytes => .ok (Text.ofBytes bytes)
    | none => .error (s.crash "." (name ++ ": not found".toList))

/-- The state in which a program starts for another one: what it prints is handed on. -/
def forJob (s : State) (job : Utility.Job) : State :=
  { s.forProgram [] with
    files := job.files
    directory := job.directory
    bindings := []
    input := job.input
    inputIsFile := job.inputIsFile
    descriptors := [(1, .starter 1), (2, .starter 2)]
    buffers := []
    pieces := []
    elapsed := job.elapsed }.withEnvironment job.environment

/-- What a program leaves for the one that has started it. -/
def leaveJob (job : Utility.Job) (after : State) : Utility.Job :=
  { job with
    files := after.files
    input := after.input
    printed := after.pieces ++ job.printed
    elapsed := after.elapsed
    status := match after.flow with
      | .killed signal => 128 + signal
      | _ => after.status % 256 }

/-- The program that arguments name, as programs start others. -/
def findForJob (s : State) (arguments : List (List Char)) : Except FileError Program := do
  let name := arguments.headD []
  let directories := (s.valueOf? "PATH".toList).getD "/bin:/usr/bin".toList
  let path ← if name.contains '/' then .ok (Text.shown name)
    else if name.isEmpty then .error .notFound
    else Program.search s.files s.directory directories (Text.shown name)
  match Program.start s.files s.directory path arguments with
  | .error .unknownFormat => .ok ⟨"sh", "sh".toList :: Text.bytesOf path :: arguments.drop 1⟩
  | result => result

end State

mutual

/-- The fragments that parts of a word stand for. -/
def expand : Nat → List WordPart → State → List Fragment × State
  | 0, _, s => ([], { s with flow := .killed 9 })
  | _, [], s => ([], s)
  | fuel + 1, part :: parts, s =>
    let (first, s) := expandPart fuel part s
    if s.goesOn then
      let (others, s) := expand fuel parts s
      (first ++ others, s)
    else (first, s)

/-- The fragments that a part of a word stands for. -/
def expandPart : Nat → WordPart → State → List Fragment × State
  | 0, _, s => ([], { s with flow := .killed 9 })
  | fuel + 1, part, s =>
    match part with
    | .text quoted text => ([.whole quoted text], s)
    | .parameter quoted name =>
      if name = ['@'] || name = ['*'] then (s.argumentFragments quoted name, s)
      else
        let (value, s) := s.demand name
        ([State.fragmentOf quoted value], s)
    | .length quoted name =>
      let (value, s) := s.demand name
      ([State.fragmentOf quoted (toString value.length).toList], s)
    | .substitute quoted name use emptyIsMissing word =>
      let value := s.parameter? name
      let missing := match value with
        | none => true
        | some value => emptyIsMissing && value.isEmpty
      let present : List Fragment :=
        if name = ['@'] || name = ['*'] then s.argumentFragments quoted name
        else [State.fragmentOf quoted (value.getD [])]
      match use, missing with
      | .replace, true => ([State.fragmentOf quoted []], s)
      | .replace, false => expand fuel word s
      | _, false => (present, s)
      | .default, true => expand fuel word s
      | .assign, true =>
        let (text, s) := expandText fuel word s
        ([State.fragmentOf quoted text], s.set name text)
      | .demand, true =>
        let (text, s) := expandText fuel word s
        let reason := if !text.isEmpty then text else
          ("parameter not set" ++ if emptyIsMissing then " or null" else "").toList
        ([], (s.complain (name ++ ": ".toList ++ reason)).stop 2)
    | .trim quoted name atEnd longest pattern =>
      let (value, s) := s.demand name
      let (fragments, s) := expand fuel pattern s
      let marked := fragments.flatMap Fragment.marked
      let items := patternItems (marked.length + 1) marked
      ([State.fragmentOf quoted (trimPattern items atEnd longest value)], s)
    | .unknownUse => ([], (s.complain "Bad substitution".toList).stop 2)
    | .output quoted commands =>
      let number := s.buffers.length
      let after := runInside fuel commands s.openBuffer
      let text := (after.bufferText number).filter (· ≠ '\x00')
      let text := (text.reverse.dropWhile (· = '\n')).reverse
      let s := (s.leaveSubshell after).dropBuffers number
      ([State.fragmentOf quoted text], { s with outputStatus := some s.status })
    | .arithmetic quoted expression =>
      let (text, s) := expandText fuel expression s
      if !s.goesOn then ([], s)
      else match s.calculate text with
        | .ok (value, s) => ([State.fragmentOf quoted (toString value).toList], s)
        | .error error => ([], (s.complain (error.message text)).stop 2)

/-- The text that a word stands for where it is not divided. -/
def expandText : Nat → Word → State → List Char × State
  | 0, _, s => ([], { s with flow := .killed 9 })
  | fuel + 1, word, s =>
    let (fragments, s) := expand fuel word s
    (fragments.flatMap Fragment.text, s)

/-- The fields that words stand for. -/
def expandFields : Nat → List Word → State → List (List Char) × State
  | 0, _, s => ([], { s with flow := .killed 9 })
  | _, [], s => ([], s)
  | fuel + 1, word :: words, s =>
    let (fragments, s) := expand fuel (s.expandTilde word) s
    if s.goesOn then
      let (others, after) := expandFields fuel words s
      let texts (field : Field) : List (List Char) :=
        if s.ignoresPatterns then [field.map Prod.fst] else matchFiles s.files s.directory field
      ((fieldsOf s.separators fragments).flatMap texts ++ others, after)
    else ([], s)

/-- Carries redirections out. A redirection that fails yields the state with the complaint. -/
def redirect : Nat → List Redirection → State → Except State State
  | 0, _, s => .error { s with flow := .killed 9 }
  | _, [], s => .ok s
  | fuel + 1, redirection :: others, s =>
    match redirection with
    | .file descriptor use target =>
      let (path, s) := expandText fuel target s
      if !s.goesOn then .error s
      else match s.redirectFile descriptor use path with
        | .ok s => redirect fuel others s
        | .error s => .error s
    | .copy descriptor target =>
      let (path, s) := expandText fuel target s
      if !s.goesOn then .error s
      else match s.redirectCopy descriptor path with
        | .ok s => redirect fuel others s
        | .error s => .error s
    | .document descriptor number =>
      let (text, s) := expandText fuel ((s.documents.lookup number).getD []) s
      if s.flow = .ended then .error { s with flow := .next, status := 2 }
      else if !s.goesOn then .error s
      else redirect fuel others (s.feed descriptor text false)

/-- Sets variables to what words stand for. Yields the assignments as they can be printed. -/
def assign : Nat → List (List Char × Word) → State → List (List Char) × State
  | 0, _, s => ([], { s with flow := .killed 9 })
  | _, [], s => ([], s)
  | fuel + 1, (name, word) :: others, s =>
    let (value, s) := expandText fuel (s.expandTilde word) s
    if !s.goesOn then ([], s)
    else if s.isFixed name then ([], (s.complain (name ++ ": is read only".toList)).stop 2)
    else
      let (texts, s) := assign fuel others (s.set name value)
      ((name ++ '=' :: value) :: texts, s)

/-- Runs commands in a row. -/
def runAll : Nat → List Command → State → State
  | 0, _, s => { s with flow := .killed 9 }
  | _, [], s => s
  | fuel + 1, command :: commands, s =>
    let s := run fuel command s
    if s.goesOn then runAll fuel commands s else s

/-- Runs a condition, which may fail. -/
def runCondition : Nat → List Command → State → State
  | 0, _, s => { s with flow := .killed 9 }
  | fuel + 1, commands, s =>
    { runAll fuel commands { s with inCondition := true } with inCondition := s.inCondition }

/-- Runs commands, each of which reads what the one before prints. -/
def runPiped : Nat → List Command → State → State
  | 0, _, s => { s with flow := .killed 9 }
  | _, [], s => s
  | fuel + 1, [command], s => s.leaveSubshell (runInside fuel [command] s)
  | fuel + 1, command :: commands, s =>
    let number := s.buffers.length
    let after := runInside fuel [command] s.openBuffer
    let text := after.bufferText number
    let s := (s.leaveSubshell after).dropBuffers number
    if s.goesOn then
      let last := runPiped fuel commands { s with input := text, inputIsFile := false }
      { last with input := s.input, inputIsFile := s.inputIsFile }
    else s

/-- Runs commands in a shell of its own, and then those that it has set for its end. -/
def runInside : Nat → List Command → State → State
  | 0, _, s => { s with flow := .killed 9 }
  | fuel + 1, commands, s => runEnding fuel (runAll fuel commands s.enterSubshell)

/-- Runs the commands that a shell has set for its end. They do not change its status, unless they
set one. -/
def runEnding : Nat → State → State
  | 0, s => { s with flow := .killed 9 }
  | fuel + 1, s =>
    match s.traps.lookup .ending, s.flow with
    | none, _ | _, .killed _ => s
    | some action, _ =>
      let traps := s.traps.filter fun entry => entry.1 ≠ .ending
      let final := runScript fuel { rest := action } { s.speaking [] with traps, flow := .next }
      if final.goesOn then { final with status := s.status } else final

/-- Runs the commands for signals that have arrived. They do not change the status. -/
def runArrived : Nat → State → State
  | 0, s => { s with flow := .killed 9 }
  | fuel + 1, s =>
    match s.arrived with
    | [] => s
    | number :: arrived =>
      if s.isInner || !s.goesOn then s
      else
        let action := (s.traps.lookup (.signal number)).getD []
        let after := runScript fuel { rest := action } { s.speaking [] with arrived }
        runArrived fuel (if after.goesOn then
          { after.speaking s.speaker with status := s.status } else after)

/-- Runs the rounds of a loop. -/
def runRounds : Nat → Bool → List Command → List Command → State → State
  | 0, _, _, _, s => { s with flow := .killed 9 }
  | fuel + 1, whileTrue, condition, body, s =>
    let status := s.status
    let s := runCondition fuel condition s
    if !s.goesOn then endRound s
    else if (s.status = 0) != whileTrue then s.withStatus status
    else
      let s := runAll fuel body s
      match s.flow with
      | .next => runRounds fuel whileTrue condition body s
      | .continued levels =>
        if levels ≤ 1 then runRounds fuel whileTrue condition body { s with flow := .next }
        else endRound s
      | _ => endRound s
where
  /-- The state behind the loop. -/
  endRound (s : State) : State :=
    match s.flow with
    | .broken levels => { s with flow := if levels ≤ 1 then .next else .broken (levels - 1) }
    | .continued levels => { s with flow := if levels ≤ 1 then .next else .continued (levels - 1) }
    | _ => s

/-- Runs commands for each of some values of a variable. -/
def runEach : Nat → List Char → List (List Char) → List Command → State → State
  | 0, _, _, _, s => { s with flow := .killed 9 }
  | _, _, [], _, s => s
  | fuel + 1, name, value :: values, body, s =>
    let s := if s.isFixed name then (s.complain (name ++ ": is read only".toList)).stop 2
      else runAll fuel body (s.set name value)
    match s.flow with
    | .next => runEach fuel name values body s
    | .continued levels =>
      if levels ≤ 1 then runEach fuel name values body { s with flow := .next }
      else { s with flow := .continued (levels - 1) }
    | .broken levels => { s with flow := if levels ≤ 1 then .next else .broken (levels - 1) }
    | _ => s

/-- Runs the first of some branches whose pattern a text has. -/
def runBranch : Nat → List Char → List (List Word × List Command) → State → State
  | 0, _, _, s => { s with flow := .killed 9 }
  | _, _, [], s => s.withStatus 0
  | fuel + 1, text, ([], _) :: branches, s => runBranch fuel text branches s
  | fuel + 1, text, (pattern :: patterns, body) :: branches, s =>
    let (fragments, s) := expand fuel pattern s
    let marked := fragments.flatMap Fragment.marked
    if !s.goesOn then s
    else if hasPattern (patternItems (marked.length + 1) marked) text then
      runAll fuel body (s.withStatus 0)
    else runBranch fuel text ((patterns, body) :: branches) s

/-- Runs a command, and then the commands for signals that have arrived. -/
def run : Nat → Command → State → State
  | 0, _, s => { s with flow := .killed 9 }
  | fuel + 1, command, s =>
    if s.skipsCommands then s else runArrived fuel (runCommand fuel command s)

/-- Runs a command. -/
def runCommand : Nat → Command → State → State
  | 0, _, s => { s with flow := .killed 9 }
  | fuel + 1, command, s =>
    match command with
    | .simple line assignments words redirections =>
      (runSimple fuel assignments words redirections
          { s with line, outputStatus := none }).checkFailure
    | .pipeline negated [command] =>
      let after := runCondition fuel [command] s
      if negated then after.withStatus (if after.status = 0 then 1 else 0) else after
    | .pipeline negated commands =>
      let after := runPiped fuel commands s
      if negated then after.withStatus (if after.status = 0 then 1 else 0)
      else after.checkFailure
    | .both first second =>
      let s := runCondition fuel [first] s
      if s.goesOn && s.status = 0 then run fuel second s else s
    | .either first second =>
      let s := runCondition fuel [first] s
      if s.goesOn && s.status ≠ 0 then run fuel second s else s
    | .beside command =>
      let after := s.leaveSubshell (runInside fuel [command] { s with input := [] })
      let status := match after.flow with
        | .killed signal => 128 + signal
        | _ => after.status
      { after with
        input := s.input
        jobs := (State.processNumber + 1 + s.jobs.length, status) :: s.jobs
        status := 0 }
    | .group commands => runAll fuel commands s
    | .subshell commands => (s.leaveSubshell (runInside fuel commands s)).checkFailure
    | .conditional condition body otherwise =>
      let s := runCondition fuel condition s
      if !s.goesOn then s
      else if s.status = 0 then runAll fuel body s
      else runAll fuel otherwise (s.withStatus 0)
    | .repetition whileTrue condition body =>
      { runRounds fuel whileTrue condition body { s.withStatus 0 with loops := s.loops + 1 } with
        loops := s.loops }
    | .each name words body =>
      let (values, s) := match words with
        | some words => expandFields fuel words s
        | none => (s.arguments, s)
      if !s.goesOn then s
      else
        { runEach fuel name values body { s.withStatus 0 with loops := s.loops + 1 } with
          loops := s.loops }
    | .selection word branches =>
      let (text, s) := expandText fuel word s
      if s.goesOn then runBranch fuel text branches s else s
    | .definition name body =>
      { s with
        functions := (name, body) :: s.functions.filter fun entry => entry.1 ≠ name
        status := 0 }
    | .redirected command redirections =>
      match redirect fuel redirections { s with inputRedirected := false } with
      | .error after => (s.endRedirections after).checkFailure
      | .ok inner => s.endRedirections (run fuel command inner)

/-- Runs a simple command. -/
def runSimple : Nat → List (List Char × Word) → List Word → List Redirection → State → State
  | 0, _, _, _, s => { s with flow := .killed 9 }
  | fuel + 1, assignments, words, redirections, s =>
    let (fields, s) := expandFields fuel words s
    if !s.goesOn then s
    else match redirect fuel redirections { s with inputRedirected := false } with
      | .error after =>
        let after := s.endRedirections after
        match fields with
        | name :: _ =>
          if State.specialBuiltins.contains (String.ofList name) && after.goesOn then after.stop 2
          else after
        | [] => after
      | .ok inner =>
        let (texts, inner) := assign fuel assignments inner
        let inner := if inner.goesOn then inner.trace s (texts ++ fields) else inner
        match fields with
        | [] =>
          let after := if inner.goesOn then inner.withStatus (inner.outputStatus.getD 0) else inner
          s.endRedirections after
        | name :: arguments =>
          if !inner.goesOn then s.endRedirections inner
          else if name = "exec".toList && arguments.isEmpty then s.keepRedirections inner
          else if State.specialBuiltins.contains (String.ofList name) then
            s.endRedirections (call fuel name arguments inner)
          else
            let exported := assignments.foldl (fun s (name, _) => s.export_ name) inner
            let after := s.endRedirections (call fuel name arguments exported)
            after.putBack s (assignments.map Prod.fst)

/-- Calls a function, a command of the shell or a program. -/
def call : Nat → List Char → List (List Char) → State → State
  | 0, _, _, s => { s with flow := .killed 9 }
  | fuel + 1, name, arguments, s =>
    match s.functions.lookup name with
    | some body =>
      let after := run fuel body { s with arguments, loops := 0, frame := some [] }
      { after.restore (after.frame.getD []) with
        arguments := s.arguments
        loops := s.loops
        frame := s.frame
        flow := if after.flow = .returned then .next else after.flow }
    | none =>
      match String.ofList name with
      | "eval" =>
        let after := runText fuel { rest := [' '].intercalate arguments } (s.speaking "eval".toList)
        after.speaking s.speaker
      | "." => match arguments with
        | [] => s.withStatus 0
        | path :: _ => match s.findScript path with
          | .error after => after
          | .ok text =>
            let after := runText fuel { rest := text } (s.speaking path)
            { after.speaking s.speaker with
              flow := if after.flow = .returned then .next else after.flow }
      | "exec" => match arguments with
        | [] => s.withStatus 0
        | name :: arguments => match (s.speaking "exec".toList).findProgram name arguments with
          | .error after => { after.speaking s.speaker with flow := .ended }
          | .ok program =>
            let after := runImage fuel program s.inRows
            { s.leaveProgram after with
              traps := []
              flow := match after.flow with
                | .killed signal => .killed signal
                | _ => .ended }
      | "command" => match State.unknownOption? "pvV" arguments, arguments with
        | some letter, _ => s.illegalOption "command" letter
        | none, option :: _ =>
          let isOption := option.head? = some '-'
          match State.behindOptions arguments with
          | [] => s.withStatus 0
          | name :: arguments =>
            if isOption && option.contains 'v' then s.describe "command" false name
            else if isOption && option.contains 'V' then s.describe "command" true name
            else { call fuel name arguments { s with functions := [] }
                with functions := s.functions }
        | none, [] => s.withStatus 0
      | "type" => s.describeAll "type" arguments
      | "hash" => s.lookUpAll arguments
      | shown => match s.builtin? shown arguments with
        | some after => after
        | none => runProgram fuel name arguments s

/-- Runs a program by its name. -/
def runProgram : Nat → List Char → List (List Char) → State → State
  | 0, _, _, s => { s with flow := .killed 9 }
  | fuel + 1, name, arguments, s =>
    match s.findProgram name arguments with
    | .ok program =>
      let s := if name.contains '/' || s.found.contains name then s
        else { s with found := s.found ++ [name] }
      let after := runImage fuel program s.inRows
      (s.leaveProgram after).reportSignal after.flow
    | .error s => s

/-- The state in which a program comes to its end. -/
def runImage : Nat → Program → State → State
  | 0, _, s => { s with flow := .killed 9 }
  | fuel + 1, program, s =>
    let inner := s.forProgram (program.arguments.headD [])
    if Utility.shells.contains program.utility then
      interpret fuel (program.arguments.drop 1) inner.withVariables
    else runUtility fuel program inner

/-- Runs a program of the system that is no shell. -/
def runUtility : Nat → Program → State → State
  | 0, _, s => { s with flow := .killed 9 }
  | fuel + 1, program, s =>
    let job := Utility.run program.utility program.arguments
      { environment := s.environment, files := s.files, directory := s.directory, input := s.input
        inputIsFile := s.inputIsFile, elapsed := s.elapsed }
          (fun arguments job => startFor fuel arguments job s)
    let hasOutput := job.printed.any fun piece => piece.1 = 1
    let isClosed := hasOutput && (s.descriptors.lookup 1).isNone
    let s := job.printed.foldr (fun (descriptor, text) s => s.write descriptor text)
      { s with
        files := job.files, input := job.input, status := job.status, elapsed := job.elapsed }
    if isClosed then
      (s.write 2 (s.name ++ ": write error: Bad file descriptor\n".toList)).withStatus 1
    else s

/-- Runs a program that another one has started. -/
def startFor : Nat → List (List Char) → Utility.Job → State → Except FileError Utility.Job
  | 0, _, job, _ => .ok { job with status := 137 }
  | fuel + 1, arguments, job, s => do
    let inner := s.forJob job
    let program ← inner.findForJob arguments
    return State.leaveJob job (runImage fuel program inner)

/-- Runs the shell with its arguments: a text, a file or the input is taken for the script. -/
def interpret : Nat → List (List Char) → State → State
  | 0, _, s => { s with flow := .killed 9 }
  | fuel + 1, arguments, s =>
    match State.readCall (arguments.length + 1) { state := s } arguments with
    | .error reason => ({ s with line := 0 }.complain reason).stop 2
    | .ok call =>
      let s := call.state
      match call.hasText, call.hasInput, call.arguments with
      | true, _, text :: arguments =>
        let s := match arguments with
          | name :: arguments => { s with name, arguments }
          | [] => s
        runToEnd fuel { rest := text } s
      | true, _, [] => ({ s with line := 0 }.complain "-c requires an argument".toList).stop 2
      | false, false, path :: arguments =>
        match s.files.read s.directory (Text.shown path) with
        | .ok bytes =>
          runToEnd fuel { rest := Text.ofBytes bytes, isFile := true }
              { s with name := path, arguments }
        | .error error =>
          ({ s with line := 0 }.complain ("cannot open ".toList ++ path ++
            (": " ++ State.openReason false error).toList)).stop 2
      | false, _, arguments =>
        runToEnd fuel { rest := s.input, isFile := true } { s with input := [], arguments }

/-- Runs a script and then the commands that it has set for its end. -/
def runToEnd : Nat → Source → State → State
  | 0, _, s => { s with flow := .killed 9 }
  | fuel + 1, source, s => runEnding fuel (runScript fuel source s)

/-- Runs a script, which succeeds if there is no command in it. -/
def runText : Nat → Source → State → State
  | 0, _, s => { s with flow := .killed 9 }
  | fuel + 1, source, s =>
    match nextCommands source with
    | .ok (none, _) => s.withStatus 0
    | _ => runScript fuel source s

/-- Runs a script. -/
def runScript : Nat → Source → State → State
  | 0, _, s => { s with flow := .killed 9 }
  | fuel + 1, source, s =>
    let echoed (rest : List Char) : State :=
      if s.echoesScript && source.isFile then
        s.write 2 (source.rest.take (source.rest.length - rest.length))
      else s
    match nextCommands source with
    | .error error =>
      ({ s with line := error.line }.complain
        ("Syntax error: ".toList ++ Text.bytesOf error.reason)).stop 2
    | .ok (none, _) => echoed []
    | .ok (some commands, next) =>
      let after := runAll fuel commands { echoed next.rest with documents := next.documents }
      match after.flow with
      | .next | .broken _ | .continued _ => runScript fuel next { after with flow := .next }
      | _ => after

end

/-- The fuel of a program. -/
def programFuel : Nat := 100000

/-- Runs a program of the system with the shell and the utilities of this library. -/
def execute (execution : Execution) (files : FileTree) : Termination × FileTree :=
  let bindings := execution.environment.map fun (name, value) =>
    (Text.bytesOf name, Text.bytesOf value)
  let start : State := {
    files, directory := execution.directory, name := [], input := Text.bytesOf execution.input }
  let final := runImage programFuel execution.program (start.withEnvironment bindings)
  let status : ExitStatus := match final.flow with
    | .killed signal => .signal signal
    | _ => .code (final.status % 256)
  (⟨status, Text.toBytes (final.bufferText 0), Text.toBytes (final.bufferText 1)⟩, final.files)

end TemplateInspector.Shell
