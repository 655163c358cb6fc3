import TemplateInspector.Launch
import TemplateInspector.Shell.Field
import TemplateInspector.Shell.Test

/-!
# Commands of the shell itself

The commands that change the shell or need nothing but it. They take their arguments as fields and
leave a status.
-/

namespace TemplateInspector.Shell

/-- What a shell says about a program that a signal has ended, if it says anything. -/
def signalReason? (number : Nat) : Option String :=
  [(1, "Hangup"), (3, "Quit"), (4, "Illegal instruction"), (5, "Trace/breakpoint trap"),
    (6, "Aborted"), (7, "Bus error"), (8, "Floating point exception"), (9, "Killed"),
    (10, "User defined signal 1"), (11, "Segmentation fault"), (12, "User defined signal 2"),
    (14, "Alarm clock"), (15, "Terminated"), (16, "Stack fault"), (24, "CPU time limit exceeded"),
    (25, "File size limit exceeded"), (26, "Virtual timer expired"),
    (27, "Profiling timer expired"), (29, "I/O possible"), (30, "Power failure"),
    (31, "Bad system call")].lookup number

/-- The number of the signal that a text names, with or without its first three letters. -/
def signalNumber? (text : List Char) : Option Nat :=
  if !text.isEmpty && text.all Char.isDigit then some (digitsIn 10 text)
  else
    let name := String.ofList (text.map Char.toUpper)
    (ExitStatus.signals.find? fun (_, other) => name = other || name = "SIG" ++ other).map Prod.fst

/-- Whether a text is the name of a variable. -/
def isName : List Char → Bool
  | c :: rest => (c.isAlpha || c = '_') && rest.all fun c => c.isAlphanum || c = '_'
  | [] => false

/-- The name and the value of an assignment. -/
def assignmentOf (argument : List Char) : List Char × Option (List Char) :=
  let name := argument.takeWhile (· ≠ '=')
  (name, (argument.drop name.length).tail?)

/-- A text between quotes, as it can be read by the shell. Quotes in it are quoted in another way.
`fuel` bounds the number of runs of them. -/
def requoteRuns : Nat → List Char → List Char
  | 0, _ => []
  | fuel + 1, text =>
    let plain := text.takeWhile (· ≠ '\'')
    let quotes := (text.drop plain.length).takeWhile (· = '\'')
    let rest := text.drop (plain.length + quotes.length)
    '\'' :: plain ++ ['\''] ++
      (if quotes.isEmpty then [] else '"' :: quotes ++ ['"']) ++
      (if rest.isEmpty then [] else requoteRuns fuel rest)

/-- A text between quotes, as it can be read by the shell. -/
def requote (text : List Char) : List Char :=
  requoteRuns (text.length + 1) text

namespace State

/-- Complains in the name of a command, which fails. -/
def fault (s : State) (command : String) (reason : List Char) (status : Nat) : State :=
  { (s.speaking command.toList).complain reason with speaker := s.speaker, status }

/-- Complains in the name of a command, and ends the script. -/
def crash (s : State) (command : String) (reason : List Char) : State :=
  (s.fault command reason 2).stop 2

/-- Prints a text in the name of a command, which fails if the output is closed. -/
def print (s : State) (command : String) (text : List Char) : State :=
  if text.isEmpty || (s.descriptors.lookup 1).isSome then (s.write 1 text).withStatus 0
  else s.fault command (command ++ ": I/O error").toList 1

/-- Tests something. A test that is not well formed is a complaint. -/
def runTest (s : State) (command : String) (words : List (List Char)) : State :=
  match s.test words with
  | .ok value => s.withStatus (if value then 0 else 1)
  | .error reason => s.fault command reason 2

/-- Complains about a text that should write a number; the script ends. -/
def illegalNumber (s : State) (command : String) (text : List Char) : State :=
  s.crash command ("Illegal number: ".toList ++ text)

/-- The letter of the first option that a command does not know, in the arguments up to the first
that is none. -/
def unknownOption? (known : String) : List (List Char) → Option Char
  | ['-', '-'] :: _ => none
  | ('-' :: c :: letters) :: rest =>
    match (c :: letters).find? fun letter => !known.toList.contains letter with
    | some letter => some letter
    | none => unknownOption? known rest
  | _ => none

/-- The arguments behind options, none of which has a value. -/
def behindOptions : List (List Char) → List (List Char)
  | ['-', '-'] :: rest => rest
  | ('-' :: _ :: _) :: rest => behindOptions rest
  | rest => rest

/-- Complains about an option that a command does not know. -/
def illegalOption (s : State) (command : String) (letter : Char) : State :=
  s.fault command ("Illegal option -".toList ++ [letter]) 2

/-! ## Variables -/

/-- Changes variables as arguments tell. One that has no name, or whose value must not change, ends
the script. -/
def declareAll (s : State) (command : String) (change : State → List Char → State) :
    List (List Char) → State
  | [] => s.withStatus 0
  | argument :: rest =>
    let (name, value) := assignmentOf argument
    if !isName name then s.crash command (name ++ ": bad variable name".toList)
    else match value with
      | some value =>
        if s.isFixed name then s.crash command (name ++ ": is read only".toList)
        else declareAll (change (s.set name value) name) command change rest
      | none => declareAll (change s name) command change rest

/-- Prints variables as commands that set them. -/
def printVariables (s : State) (command : String) (isShown : Variable → Bool) : State :=
  let shown := (s.bindings.filter isShown).mergeSort fun a b =>
    !(decide (b.name < a.name))
  s.print command (shown.flatMap fun entry =>
    command.toList ++ (if command.isEmpty then [] else [' ']) ++ entry.name ++
      (entry.value.elim [] fun value => '=' :: requote value) ++ ['\n'])

/-- Declares variables, or prints those that are declared. -/
def declare (s : State) (command : String) (change : State → List Char → State)
    (isShown : Variable → Bool) (arguments : List (List Char)) : State :=
  match unknownOption? "p" arguments with
  | some letter => (s.illegalOption command letter).stop 2
  | none =>
    let names := behindOptions arguments
    if names.isEmpty || arguments.head? = some ['-', 'p'] then s.printVariables command isShown
    else s.declareAll command change names

/-- Sets variables that get their old values back at the end of the function; only a function has
such variables. -/
def assignLocal (s : State) (arguments : List (List Char)) : State :=
  match s.frame with
  | none => s.crash "local" "not in a function".toList
  | some saved =>
    let names := arguments.map fun argument => (assignmentOf argument).1
    match names.find? fun name => !isName name with
    | some name => s.crash "local" (name ++ ": bad variable name".toList)
    | none =>
      { s with frame := some (names.map (fun name => (name, s.valueOf? name)) ++ saved) }.declareAll
        "local" (fun s _ => s) arguments

/-- Removes variables. -/
def unsetVariables (s : State) : List (List Char) → State
  | [] => s.withStatus 0
  | name :: names =>
    if !isName name then s.crash "unset" (name ++ ": bad variable name".toList)
    else if s.isFixed name then s.crash "unset" (name ++ ": is read only".toList)
    else (s.unset name).unsetVariables names

/-- Removes variables or functions. -/
def unsetAll (s : State) (arguments : List (List Char)) : State :=
  match unknownOption? "vf" arguments with
  | some letter => (s.illegalOption "unset" letter).stop 2
  | none =>
    let names := behindOptions arguments
    if (arguments.takeWhile fun argument => argument.head? = some '-').any (·.contains 'f') then
      { s.withStatus 0 with functions := s.functions.filter fun entry => !names.contains entry.1 }
    else s.unsetVariables names

/-! ## Options of the shell -/

/-- Turns an option on or off; none if there is no such option. -/
def withOption? (s : State) (isOn : Bool) : Char → Option State
  | 'e' => some { s with stopsOnFailure := isOn }
  | 'u' => some { s with demandsParameters := isOn }
  | 'x' => some { s with traces := isOn }
  | 'f' => some { s with ignoresPatterns := isOn }
  | 'a' => some { s with exportsAll := isOn }
  | 'C' => some { s with keepsFiles := isOn }
  | 'v' => some { s with echoesScript := isOn }
  | 'n' => some { s with skipsCommands := isOn }
  | 'I' | 'i' | 'm' | 's' | 'V' | 'E' | 'b' | 'p' => some s
  | _ => none

/-- The letters of the options that have names. -/
def optionLetters : List (String × Char) :=
  [("errexit", 'e'), ("nounset", 'u'), ("xtrace", 'x'), ("noglob", 'f'), ("allexport", 'a'),
    ("noclobber", 'C'), ("verbose", 'v'), ("noexec", 'n'), ("ignoreeof", 'I'), ("interactive", 'i'),
    ("monitor", 'm'), ("stdin", 's'), ("vi", 'V'), ("emacs", 'E'), ("notify", 'b'),
    ("privileged", 'p'), ("nolog", 'p'), ("debug", 'p')]

/-- Turns the options of letters on or off. The letter `o` stands for a name in the next argument.
Yields the arguments that are left, or what is wrong. -/
def withLetters (s : State) (isOn : Bool) : List Char → List (List Char) →
    Except (List Char) (State × List (List Char))
  | [], rest => .ok (s, rest)
  | 'o' :: letters, rest =>
    match rest with
    | [] => .ok (s, [])
    | name :: rest =>
      match (optionLetters.lookup (String.ofList name)).bind fun letter =>
          s.withOption? isOn letter with
      | some s => s.withLetters isOn letters rest
      | none => .error ("Illegal option -o ".toList ++ name)
  | letter :: letters, rest =>
    match s.withOption? isOn letter with
    | some s => s.withLetters isOn letters rest
    | none => .error ["Illegal option ".toList, [if isOn then '-' else '+'], [letter]].flatten

/-- Reads options. Yields the arguments behind them; and whether there are any, as those behind two
hyphens count even if there are none. `fuel` bounds the number of arguments. -/
def readOptions : Nat → State → List (List Char) →
    Except (List Char) (State × Bool × List (List Char))
  | 0, s, rest => .ok (s, false, rest)
  | fuel + 1, s, arguments =>
    match arguments with
    | [] => .ok (s, false, [])
    | ['-', '-'] :: rest => .ok (s, true, rest)
    | ['-'] :: rest =>
      .ok ({ s with traces := false, echoesScript := false }, !rest.isEmpty, rest)
    | ('-' :: letters) :: rest => do
      let (s, rest) ← s.withLetters true letters rest
      readOptions fuel s rest
    | ('+' :: letters) :: rest => do
      let (s, rest) ← s.withLetters false letters rest
      readOptions fuel s rest
    | rest => .ok (s, true, rest)

/-- Sets options and arguments, or prints all variables. -/
def setOptions (s : State) (arguments : List (List Char)) : State :=
  if arguments.isEmpty then s.printVariables "" fun entry => entry.value.isSome
  else match readOptions (arguments.length + 1) s arguments with
    | .error reason => s.crash "set" reason
    | .ok (s, true, arguments) => { s with arguments, status := 0 }
    | .ok (s, false, _) => s.withStatus 0

/-- Prints the mask of permissions, or sets it. -/
def maskPermissions (s : State) (arguments : List (List Char)) : State :=
  let isOctal (text : List Char) : Bool :=
    text.all fun c => c.isDigit && c ≠ '8' && c ≠ '9'
  match unknownOption? "S" arguments with
  | some letter => s.illegalOption "umask" letter
  | none =>
    match behindOptions arguments with
    | [] =>
      if arguments.isEmpty then
        s.print "umask" ('0' :: (Nat.toDigits 8 (512 + s.mask)).drop 1 ++ ['\n'])
      else
        let allowed (divisor : Nat) : List Char :=
          let bits := s.mask / divisor % 8
          [('r', 4), ('w', 2), ('x', 1)].filterMap fun (letter, bit) =>
            if bits / bit % 2 = 0 then some letter else none
        s.print "umask" ("u=".toList ++ allowed 64 ++ ",g=".toList ++ allowed 8 ++ ",o=".toList ++
          allowed 1 ++ ['\n'])
    | text :: _ =>
      if (text.head?.any Char.isDigit) then
        if isOctal text then { s.withStatus 0 with mask := digitsIn 8 text % 512 }
        else s.fault "umask" ("Illegal number: ".toList ++ text) 2
      else s.fault "umask" ("Illegal mode: ".toList ++ text) 2

/-! ## Directories -/

/-- Changes the working directory. A hyphen stands for the one before, which is printed. -/
def changeDirectory (s : State) (arguments : List (List Char)) : State :=
  match unknownOption? "LP" arguments with
  | some letter => if letter = '-' then s else s.illegalOption "cd" letter
  | none =>
    let target := (behindOptions arguments).head?
    let path := match target with
      | none => s.valueOf? "HOME".toList
      | some ['-'] => some ((s.valueOf? "OLDPWD".toList).getD ['.'])
      | some [] => some ['.']
      | some path => some path
    let refused (path : List Char) : State := s.fault "cd" ("can't cd to ".toList ++ path) 2
    match path with
    | none => s.fault "cd" "HOME not set".toList 2
    | some path =>
      match s.files.resolve s.directory (Text.shown path) with
      | .ok place =>
        if s.files.isDirectoryAt place then
          let shown := Text.bytesOf place.path
          let s := ((s.set "OLDPWD".toList (Text.bytesOf s.directory.path)).export_
            "OLDPWD".toList)
          let s := { (s.set "PWD".toList shown).export_ "PWD".toList with directory := place }
          if target = some ['-'] then s.print "cd" (shown ++ ['\n']) else s.withStatus 0
        else refused path
      | .error _ => refused path

/-! ## Reading lines -/

/-- A character of a line, and whether a backslash hides what it means. -/
abbrev LineChar := Char × Bool

/-- Whether a character of a line divides fields. -/
def divides (separators : List Char) (c : LineChar) : Bool :=
  !c.2 && separators.contains c.1

/-- A line without the blanks at its beginning that divide fields. -/
def dropFieldBlanks (separators : List Char) (line : List LineChar) : List LineChar :=
  line.dropWhile fun c => divides separators c && isFieldBlank c.1

/-- A line without the separator at its beginning and the blanks around it. -/
def dropSeparator (separators : List Char) (line : List LineChar) : List LineChar :=
  match dropFieldBlanks separators line with
  | c :: rest =>
    if divides separators c then dropFieldBlanks separators rest else c :: rest
  | [] => []

/-- The fields of a line for a number of variables, the last of which takes the rest of the line. A
separator that ends the line counts only if there is another one in the rest. -/
def lineFields (separators : List Char) : Nat → List LineChar → List (List Char)
  | 0, _ => []
  | count + 1, line =>
    let field := line.takeWhile fun c => !divides separators c
    let behind := dropSeparator separators (line.drop field.length)
    if count = 0 then
      let whole := if behind.isEmpty then field
        else (dropFieldBlanks separators line.reverse).reverse
      [whole.map Prod.fst]
    else field.map Prod.fst :: lineFields separators count behind

/-- A line in which a backslash hides the character behind it or the end of the line. Yields the
text behind it too, and whether the line has an end. -/
def readLine (isRaw : Bool) : Nat → List Char → List LineChar × List Char × Bool
  | 0, text => ([], text, false)
  | _, [] => ([], [], false)
  | fuel + 1, c :: rest =>
    if c = '\n' then ([], rest, true)
    else if c = '\x00' then readLine isRaw fuel rest
    else if c = '\\' && !isRaw then
      match rest with
      | '\n' :: rest => readLine isRaw fuel rest
      | d :: rest =>
        let (line, rest, isEnded) := readLine isRaw fuel rest
        ((d, true) :: line, rest, isEnded)
      | [] => ([], [], false)
    else
      let (line, rest, isEnded) := readLine isRaw fuel rest
      ((c, false) :: line, rest, isEnded)

/-- The arguments of `read` behind its options, and whether backslashes hide nothing. The letter `p`
stands for a text that is not printed, in the same argument or in the next one. -/
def readArguments : List (List Char) → Bool × List (List Char)
  | ['-', '-'] :: rest => (false, rest)
  | ['-', 'r', 'p'] :: _ :: rest => (true, (readArguments rest).2)
  | ['-', 'p'] :: _ :: rest => readArguments rest
  | ('-' :: c :: letters) :: rest =>
    let (isRaw, names) := readArguments rest
    (isRaw || ((c :: letters).takeWhile (· ≠ 'p')).contains 'r', names)
  | rest => (false, rest)

/-- Reads a line of the input into variables. It fails at the end of the input. -/
def readVariables (s : State) (arguments : List (List Char)) : State :=
  match unknownOption? "pr" arguments with
  | some letter => s.illegalOption "read" letter
  | none =>
    let (isRaw, names) := readArguments arguments
    if names.isEmpty then s.fault "read" "arg count".toList 2
    else
      let (line, input, isEnded) := readLine isRaw (s.input.length + 1) s.input
      let values := lineFields s.separators names.length (dropFieldBlanks s.separators line)
      let s := { s with input, status := if isEnded then 0 else 1 }
      let assign (s : State) (entry : List Char × Nat) : State :=
        let (name, i) := entry
        if s.status = 2 then s
        else if !isName name then s.fault "read" (name ++ ": bad variable name".toList) 2
        else if s.isFixed name then s.fault "read" (name ++ ": is read only".toList) 2
        else s.set name (values[i]?.getD [])
      names.zipIdx.foldl assign s

/-! ## Options of the script -/

/-- The option whose letters stand at a place in arguments. -/
structure OptionStep where
  /-- The letter, or what tells what is wrong with it. -/
  letter : Char := '?'
  /-- The value of `OPTARG`. -/
  value : Option (List Char) := none
  /-- The number of the next argument. -/
  next : Nat
  /-- How many characters of the argument before it have been read, if more follow. -/
  lettersTaken : Nat := 0
  /-- What is wrong with the option. -/
  complaint : List Char := []
  /-- Whether there are no more options. -/
  isEnd : Bool := false

/-- Finds the next option in arguments. Its letter is in `known`, with a colon behind it if it has a
value; a colon at the beginning of `known` lets complaints be values. -/
def OptionStep.of (known : List Char) (arguments : List (List Char)) (next taken : Nat) :
    OptionStep :=
  let isQuiet := known.head? = some ':'
  let current : List Char := if next = 0 || taken = 0 then []
    else (arguments[next - 2]?.getD []).drop taken
  let start : Option (List Char × Nat × Nat) :=
    if !current.isEmpty then some (current, next, taken)
    else match arguments[next - 1]? with
      | some ('-' :: c :: letters) => some (c :: letters, next + 1, 1)
      | _ => none
  match start with
  | none => { next, isEnd := true }
  | some (['-'], next, 1) => { next, isEnd := true }
  | some ([], next, _) => { next, isEnd := true }
  | some (letter :: letters, next, taken) =>
    let known := if isQuiet then known.drop 1 else known
    let behind := (known.dropWhile (· ≠ letter)).drop 1
    let taken := if letters.isEmpty then 0 else taken + 1
    if letter = ':' || !known.contains letter then
      if isQuiet then { value := some [letter], next, lettersTaken := taken }
      else { complaint := "Illegal option -".toList ++ [letter], next, lettersTaken := taken }
    else if behind.head? ≠ some ':' then
      { letter, value := some [], next, lettersTaken := taken }
    else if !letters.isEmpty then { letter, value := some letters, next }
    else match arguments[next - 1]? with
      | some value => { letter, value := some value, next := next + 1 }
      | none =>
        if isQuiet then { letter := ':', value := some [letter], next }
        else { complaint := "No arg for -".toList ++ [letter] ++ " option".toList, next }

/-- Reads the next option of the script. It fails if there is none. -/
def readOption (s : State) (arguments : List (List Char)) : State :=
  match arguments with
  | known :: name :: others =>
    let given := if others.isEmpty then s.arguments else others
    let next := ((s.valueOf? "OPTIND".toList).bind natural?).getD 1
    let step := OptionStep.of known given (if given.length + 1 < next then 1 else max 1 next)
      s.lettersTaken
    let s := if step.complaint.isEmpty then s else s.write 2 (step.complaint ++ ['\n'])
    let s := match step.value, step.isEnd with
      | some value, _ => s.set "OPTARG".toList value
      | none, true => s
      | none, false => s.unset "OPTARG".toList
    let s := (s.set "OPTIND".toList (toString step.next).toList).set name [step.letter]
    { s with lettersTaken := step.lettersTaken, status := if step.isEnd then 1 else 0 }
  | _ => s.fault "getopts" "Usage: getopts optstring var [arg...]".toList 2

/-! ## Signals and the end of the script -/

/-- Lets a signal arrive. -/
def receive (s : State) (number : Nat) : State :=
  match s.traps.lookup (.signal number) with
  | some [] => s
  | some _ =>
    if number = 9 then { s with flow := .killed number }
    else { s with arrived := s.arrived ++ [number] }
  | none => { s with flow := .killed number }

/-- Sends a signal to processes. Only the shell's own can be reached, and the commands that were run
beside it, which have ended. -/
def sendSignal (s : State) (number : Nat) (processes : List (List Char)) : State :=
  processes.foldl (fun s process =>
    if !s.goesOn then s
    else match natural? process with
      | none => s.fault "kill" ("Illegal number: ".toList ++ process) 2
      | some id =>
        if id = processNumber then
          if number = 0 || (ExitStatus.signals.lookup number).isNone then s else s.receive number
        else if (s.jobs.lookup id).isSome then s
        else s.fault "kill" "No such process\n".toList 1) (s.withStatus 0)

/-- How `kill` is to be called. -/
def killUsage : String :=
  "Usage: kill [-s sigspec | -signum | -sigspec] [pid | job]... or\nkill -l [exitstatus]"

/-- Sends the signal that arguments name, which is the one that asks for an end if they name none;
or prints the names of signals. -/
def kill (s : State) (arguments : List (List Char)) : State :=
  let send (number : Nat) (processes : List (List Char)) : State :=
    if processes.isEmpty then s.fault "kill" killUsage.toList 2 else s.sendSignal number processes
  let unknown (text : List Char) : State :=
    s.fault "kill" ("invalid signal number or name: ".toList ++ text) 2
  match arguments with
  | ['-', 's'] :: signal :: processes =>
    match signalNumber? signal with
    | some number => send number processes
    | none => unknown signal
  | [['-', 's']] => s.fault "kill" "No arg for -s option".toList 2
  | ['-', 'l'] :: numbers =>
    match numbers with
    | [] =>
      let names := ExitStatus.signals.flatMap fun (_, name) => name.toList ++ ['\n']
      s.print "kill" ('0' :: '\n' :: names)
    | text :: _ =>
      match (natural? text).bind fun n =>
        ExitStatus.signals.lookup (if 128 < n then n - 128 else n) with
      | some name => s.print "kill" (name.toList ++ ['\n'])
      | none => s.fault "kill" ("invalid signal number or exit status: ".toList ++ text) 2
  | ['-', '-'] :: processes => send 15 processes
  | ('-' :: signal) :: processes =>
    match signalNumber? signal with
    | some number => send number processes
    | none => s.illegalOption "kill" (signal.headD '-')
  | processes => send 15 processes

/-- Leaves loops, or their rounds, as a number of levels tells, which is one if none is given.
Outside of loops nothing is left. -/
def jump (s : State) (command : String) (arguments : List (List Char)) (flow : Nat → Flow) :
    State :=
  let leave (levels : Nat) : State :=
    if s.loops = 0 then s.withStatus 0
    else { s.withStatus 0 with flow := flow (min levels s.loops) }
  match arguments with
  | [] => leave 1
  | text :: _ => match natural? text with
    | some 0 | none => s.illegalNumber command text
    | some levels => leave levels

/-- Ends with a status, which is that of the last command if none is given. -/
def endWith (s : State) (command : String) (arguments : List (List Char)) (flow : Flow) : State :=
  match arguments with
  | [] => { s with flow }
  | text :: _ => match natural? text with
    | some number => { s with status := number, flow }
    | none => s.illegalNumber command text

/-- The event that a text names. -/
def trapEvent? (text : List Char) : Option TrapEvent :=
  let isUsed (name : List Char) : Bool := "SIG".toList.isPrefixOf (name.map Char.toUpper)
  if text = ['0'] || text.map Char.toUpper = "EXIT".toList then some .ending
  else if isUsed text then none
  else (signalNumber? text).map .signal

/-- The name of an event. -/
def TrapEvent.name : TrapEvent → List Char
  | .ending => "EXIT".toList
  | .signal number => ((ExitStatus.signals.lookup number).getD "").toList

/-- The number of an event. -/
def TrapEvent.number : TrapEvent → Nat
  | .ending => 0
  | .signal number => number

/-- Sets, or drops, what is run at events. -/
def setTraps (s : State) (action : Option (List Char)) : List (List Char) → State
  | [] => s.withStatus 0
  | text :: others =>
    match trapEvent? text with
    | none => (s.write 2 ("trap: ".toList ++ text ++ ": bad trap\n".toList)).withStatus 1
    | some event =>
      let kept := s.traps.filter fun entry => entry.1 ≠ event
      { s with traps := kept ++ (action.map fun action => (event, action)).toList }.setTraps action
        others

/-- Sets, or with a hyphen drops, the commands that are run at events; or prints them. -/
def setTrap (s : State) (arguments : List (List Char)) : State :=
  match unknownOption? "" arguments with
  | some letter => (s.illegalOption "trap" letter).stop 2
  | none =>
    match behindOptions arguments with
    | [] =>
      let shown := s.traps.mergeSort fun a b => TrapEvent.number a.1 ≤ TrapEvent.number b.1
      s.print "trap" (shown.flatMap fun (event, action) =>
        "trap -- ".toList ++ requote action ++ ' ' :: TrapEvent.name event ++ ['\n'])
    | [event] => s.setTraps none [event]
    | action :: events =>
      if (natural? action).isSome && (trapEvent? action).isSome then
        s.setTraps none (action :: events)
      else s.setTraps (if action = ['-'] then none else some action) events

/-- Drops arguments of the script. -/
def shift (s : State) (arguments : List (List Char)) : State :=
  let count := match arguments with
    | [] => some 1
    | text :: _ => natural? text
  match count with
  | none => s.illegalNumber "shift" (arguments.headD [])
  | some count =>
    if s.arguments.length < count then s.crash "shift" "can't shift that many".toList
    else { s with arguments := s.arguments.drop count, status := 0 }

/-- Yields the status of the command that was run beside the script under a number, or none of
all. -/
def waitFor (s : State) (arguments : List (List Char)) : State :=
  match unknownOption? "" arguments with
  | some letter => s.illegalOption "wait" letter
  | none =>
    match (behindOptions arguments).getLast? with
    | none => s.withStatus 0
    | some text => match natural? text with
      | none => s.fault "wait" ("Illegal number: ".toList ++ text) 2
      | some id => s.withStatus ((s.jobs.lookup id).getD 127)

/-- Prints arguments in a format. -/
def printf (s : State) (arguments : List (List Char)) : State :=
  match unknownOption? "" arguments with
  | some letter => s.illegalOption "printf" letter
  | none =>
    match (if arguments.head? = some ['-', '-'] then arguments.drop 1 else arguments) with
    | [] => s.fault "printf" "usage: printf format [arg ...]".toList 2
    | format :: values =>
      let printout := shellPrintf format values
      let complain (s : State) (complaint : PrintComplaint) : State :=
        match complaint with
        | .unused _ => s
        | .missingLetter | .unknownDirective _ => s.fault "printf" complaint.shellMessage 2
        | _ => s.fault "printf" complaint.shellMessage 1
      let status := (printout.complaints.foldl complain (s.withStatus 0)).status
      let s := (printout.complaints.foldl complain s).print "printf" printout.text
      if s.status = 0 then s.withStatus status else s

/-- Runs a command of the shell; none if there is no such command. -/
def builtin? (s : State) (name : String) (arguments : List (List Char)) : Option State :=
  match name with
  | ":" | "true" | "ulimit" | "times" | "jobs" => some (s.withStatus 0)
  | "false" => some (s.withStatus 1)
  | "echo" => some (s.print "echo" (shellEcho arguments))
  | "printf" => some (s.printf arguments)
  | "pwd" => some (match unknownOption? "LP" arguments with
    | some letter => s.illegalOption "pwd" letter
    | none => s.print "pwd" (Text.bytesOf (s.directory.path ++ "\n")))
  | "cd" | "chdir" => some (s.changeDirectory arguments)
  | "exit" => some (s.endWith "exit" arguments .ended)
  | "return" => some (s.endWith "return" arguments .returned)
  | "break" => some (s.jump "break" arguments .broken)
  | "continue" => some (s.jump "continue" arguments .continued)
  | "export" => some (s.declare "export" export_ Variable.exported arguments)
  | "readonly" => some (s.declare "readonly" fix Variable.isFixed arguments)
  | "local" => some (s.assignLocal arguments)
  | "trap" => some (s.setTrap arguments)
  | "unset" => some (s.unsetAll arguments)
  | "set" => some (s.setOptions arguments)
  | "shift" => some (s.shift arguments)
  | "read" => some (s.readVariables arguments)
  | "getopts" => some (s.readOption arguments)
  | "umask" => some (s.maskPermissions arguments)
  | "wait" => some (s.waitFor arguments)
  | "kill" => some (s.kill arguments)
  | "test" => some (s.runTest "test" arguments)
  | "[" => some (
      if arguments.getLast? = some [']'] then s.runTest "[" arguments.dropLast
      else s.fault "[" "missing ]".toList 2)
  | _ => none

/-- The commands whose assignments stay in force, and whose faults end the script. -/
def specialBuiltins : List String :=
  [":", ".", "break", "continue", "eval", "exec", "exit", "export", "local", "readonly", "return",
    "set", "shift", "times", "trap", "unset"]

/-- The commands of the shell that run others, or tell about them. -/
def runningBuiltins : List String :=
  [".", "command", "eval", "exec", "hash", "type"]

/-- Whether a name is that of a command of the shell. -/
def isBuiltin (s : State) (name : String) : Bool :=
  runningBuiltins.contains name || (s.builtin? name []).isSome

end State

end TemplateInspector.Shell
