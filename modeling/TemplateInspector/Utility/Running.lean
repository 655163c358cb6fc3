import TemplateInspector.Shell.Test
import TemplateInspector.Utility.Places

/-!
# Programs that run others

A program is run in another environment, for every part of the input, or under other circumstances.
Here are also the programs that need nothing but their arguments.
-/

namespace TemplateInspector.Utility

/-- Ends with the exit status of a program that is run in the place of this one. -/
def becomeProgram (arguments : List (List Char)) (environment : List (List Char × List Char))
    (reason : List Char → FileError → List Char) : Act Unit := do
  match ← passTo arguments environment with
  | .ok status => finish status
  | .error error =>
    fail (if error = .notFound || error = .notDirectory then 127 else 126)
      (reason (arguments.headD []) error)

/-! ## Other environments -/

/-- A complaint that names a program between quotes and tells why it cannot be run. -/
def quotedReason (name : List Char) (error : FileError) : List Char :=
  quoted name ++ ": ".toList ++ reasonOf error

/-- The options of `env`. -/
def envOptions : OptionTable where
  plain := "i0v"
  valued := "uCS"
  long := [⟨"ignore-environment", 'i', false⟩, ⟨"unset", 'u', true⟩, ⟨"null", '0', false⟩,
    ⟨"chdir", 'C', true⟩, ⟨"split-string", 'S', true⟩]
  isOrdered := true
  status := 125

/-- Prints an environment. -/
def printEnvironment (environment : List (List Char × List Char)) (stop : Char) : Act Unit := do
  for (name, value) in environment do print (name ++ '=' :: value ++ [stop])

/-- Runs a program in another environment. -/
def env (arguments : List (List Char)) : Act Unit := do
  let isPlain (argument : List Char) : Bool := argument ≠ ['-']
  let arguments := match arguments.takeWhile isPlain, arguments.dropWhile isPlain with
    | before, _ :: rest =>
      if before.all fun argument => argument.head? = some '-' then
        before ++ ['-', 'i'] :: rest
      else arguments
    | _, [] => arguments
  let a ← envOptions.read arguments
  let divided := (a.values 'S').flatMap fun text =>
    (text.splitBy fun x y => (x == ' ') == (y == ' ')).filter fun run => run.head? ≠ some ' '
  let operands := divided ++ a.operands
  let isAssignment (argument : List Char) : Bool := argument.contains '='
  let p ← get
  let kept := if a.has 'i' then [] else p.environment
  let kept := kept.filter fun entry => !(a.values 'u').contains entry.1
  let environment := (operands.takeWhile isAssignment).foldl (fun environment assignment =>
    let name := assignment.takeWhile (· ≠ '=')
    let value := assignment.drop (name.length + 1)
    if environment.any fun entry => entry.1 = name then
      environment.map fun entry => if entry.1 = name then (name, value) else entry
    else environment ++ [(name, value)]) kept
  match operands.dropWhile isAssignment with
  | [] => printEnvironment environment (if a.has '0' then '\x00' else '\n')
  | command =>
    becomeProgram command environment fun name error =>
      quotedReason name error ++
        if error = .notFound && name.contains ' ' then
          '\n' :: p.title ++ ": use -[v]S to pass options in shebang lines".toList
        else []

/-- The options of `printenv`. -/
def printenvOptions : OptionTable where
  plain := "0"
  isOrdered := true
  status := 2

/-- Prints the environment, or the values of variables in it. -/
def printenv (arguments : List (List Char)) : Act Unit := do
  let a ← printenvOptions.read arguments
  let environment := (← get).environment
  let stop := if a.has '0' then '\x00' else '\n'
  if a.operands.isEmpty then printEnvironment environment stop
  for name in a.operands do
    match environment.lookup name with
    | some value => print (value ++ [stop])
    | none => setStatus 1

/-! ## Other circumstances -/

/-- Whether a text writes a time span. -/
def isTimeSpan (text : List Char) : Bool :=
  let digits := text.takeWhile fun c => c.isDigit || c = '.'
  !digits.isEmpty && digits ≠ ['.'] && digits.count '.' ≤ 1 &&
    [[], ['s'], ['m'], ['h'], ['d']].contains (text.drop digits.length)

/-- The microseconds of a time span. -/
def spanOf (text : List Char) : Nat :=
  let digits := text.takeWhile fun c => c.isDigit || c = '.'
  let whole := digits.takeWhile (· ≠ '.')
  let fraction := (digits.drop (whole.length + 1)).take 6
  let factor := match text.drop digits.length with
    | ['m'] => 60
    | ['h'] => 3600
    | ['d'] => 86400
    | _ => 1
  factor * (valueOf whole * Nat.pow 10 6 + valueOf fraction * Nat.pow 10 (6 - fraction.length))

/-- The complaint about a program that cannot be run. -/
def failedToRun (name : List Char) (error : FileError) : List Char :=
  "failed to run command ".toList ++ quoted name ++ ": ".toList ++ reasonOf error

/-- The options of `timeout`. -/
def timeoutOptions : OptionTable where
  plain := "fv"
  valued := "ks"
  long := [⟨"foreground", 'f', false⟩, ⟨"kill-after", 'k', true⟩, ⟨"signal", 's', true⟩,
    ⟨"preserve-status", 'p', false⟩, ⟨"verbose", 'v', false⟩]
  isOrdered := true
  status := 125

/-- Runs a program, which fails if it takes too long. -/
def timeout (arguments : List (List Char)) : Act Unit := do
  let a ← timeoutOptions.read arguments
  match a.operands with
  | span :: command@(_ :: _) =>
    if !isTimeSpan span then refuse 125 ("invalid time interval ".toList ++ quoted span)
    let before := (← get).elapsed
    match ← passTo command (← get).environment with
    | .ok status =>
      let isLate := 0 < spanOf span && before + spanOf span ≤ (← get).elapsed
      finish (if isLate then 124 else status)
    | .error error =>
      fail (if error = .notFound || error = .notDirectory then 127 else 126)
        (failedToRun (command.headD []) error)
  | _ =>
    note (hintLine (← get).title)
    finish 125

/-- The options of a program that runs another one under other circumstances. -/
def circumstanceOptions : OptionTable where
  plain := ""
  valued := "nioe"
  long := [⟨"adjustment", 'n', true⟩]
  isOrdered := true
  status := 125

/-- Whether an argument is a priority behind a hyphen. -/
def isPriority : List Char → Bool
  | '-' :: c :: _ => c.isDigit
  | _ => false

/-- Runs a program with another priority. -/
def nice (arguments : List (List Char)) : Act Unit := do
  let a ← circumstanceOptions.read (arguments.dropWhile isPriority)
  if a.operands.isEmpty then printLine ['0']
  else becomeProgram a.operands (← get).environment quotedReason

/-- Runs a program that goes on when its terminal is closed, or whose output is buffered in another
way. -/
def runDetached (arguments : List (List Char)) : Act Unit := do
  let a ← circumstanceOptions.read arguments
  if a.operands.isEmpty then refuse 125 "missing operand".toList
  becomeProgram a.operands (← get).environment failedToRun

/-! ## Parts of the input as arguments -/

/-- A word of the input, in which quotes and backslashes hide blanks; and what is wrong with it. -/
structure InputWords where
  /-- The lines with their words. -/
  lines : List (List (List Char)) := []
  /-- The quote that was not closed. -/
  openQuote : Option Char := none

/-- Reads words. `word` is the word that has begun, last character first. `fuel` bounds the number
of steps. -/
def readWords : Nat → Option (List Char) → List (List Char) → List Char → InputWords
  | 0, _, _, _ => {}
  | fuel + 1, word, line, text =>
    let ended := (word.map List.reverse).toList
    let more := line ++ ended
    match text with
    | [] => { lines := if more.isEmpty then [] else [more] }
    | c :: rest =>
      if c = '\n' then
        let others := readWords fuel none [] rest
        if more.isEmpty then others else { others with lines := more :: others.lines }
      else if c = ' ' || c = '\t' then readWords fuel none more rest
      else if c = '\'' || c = '"' then
        let inner := rest.takeWhile fun d => d ≠ c && d ≠ '\n'
        match rest.drop inner.length with
        | d :: behind =>
          if d = c then readWords fuel (some (inner.reverse ++ word.getD [])) line behind
          else { openQuote := some c, lines := if line.isEmpty then [] else [line] }
        | [] => { openQuote := some c, lines := if line.isEmpty then [] else [line] }
      else if c = '\\' then
        readWords fuel (some (rest.take 1 ++ word.getD [])) line (rest.drop 1)
      else readWords fuel (some (c :: word.getD [])) line rest

/-- The options of `xargs`. -/
def xargsOptions : OptionTable where
  plain := "0rtpxo"
  valued := "adEILnPs"
  long := [⟨"null", '0', false⟩, ⟨"no-run-if-empty", 'r', false⟩, ⟨"verbose", 't', false⟩,
    ⟨"delimiter", 'd', true⟩, ⟨"max-args", 'n', true⟩, ⟨"max-lines", 'L', true⟩,
    ⟨"max-procs", 'P', true⟩, ⟨"arg-file", 'a', true⟩]
  isOrdered := true

/-- Items in groups of a size. `fuel` bounds the number of groups. -/
def inGroups (size : Nat) : Nat → List α → List (List α)
  | 0, _ | _, [] => []
  | fuel + 1, items => items.take size :: inGroups size fuel (items.drop size)

/-- A text with another one in all places of a mark. `fuel` bounds the number of steps. -/
def substituteMark (mark replacement : List Char) : Nat → List Char → List Char
  | 0, text => text
  | _, [] => []
  | fuel + 1, c :: rest =>
    if mark.isPrefixOf (c :: rest) then
      replacement ++ substituteMark mark replacement fuel ((c :: rest).drop mark.length)
    else c :: substituteMark mark replacement fuel rest

/-- Runs a program for parts of the input. -/
def xargs (arguments : List (List Char)) : Act Unit := do
  let a ← xargsOptions.read arguments
  let command := if a.operands.isEmpty then ["echo".toList] else a.operands
  let text ← match a.value? 'a' with
    | none => takeInput
    | some path => do
      match ← readSource path with
      | .ok text => pure text
      | .error error => fail 1 ("Cannot open input file ".toList ++ quoted path ++ ": ".toList ++
          reasonOf error)
  let delimiter := if a.has '0' then some '\x00'
    else (a.value? 'd').map fun text =>
      match text with
      | ['\\', 'n'] => '\n'
      | ['\\', 't'] => '\t'
      | ['\\', '0'] => '\x00'
      | text => text.headD '\n'
  let words : InputWords := match delimiter with
    | some c =>
      let parts := Path.divide c text
      { lines := (if parts.getLast? = some [] then parts.dropLast
              else parts).map fun part => [part] }
    | none =>
      if a.has 'I' then
        let lines := (bareLines text).map fun line => line.dropWhile fun c => c = ' ' || c = '\t'
        { lines := (lines.filter fun line => !line.isEmpty).map fun line => [line] }
      else readWords (text.length + 1) none [] text
  let runOnce (command : List (List Char)) : Act Unit := do
    if a.has 't' then note ([' '].intercalate command ++ ['\n'])
    let input := (← get).input
    modify fun p => { p with input := [] }
    let result ← passTo command (← get).environment
    modify fun p => { p with input }
    match result with
    | .error error =>
      complain (plainReason (command.headD []) error)
      finish (if error = .notFound || error = .notDirectory then 127 else 126)
    | .ok 0 => return
    | .ok 255 =>
      complain (command.headD [] ++ ": exited with status 255; aborting".toList)
      finish 124
    | .ok _ => setStatus 123
  match a.value? 'I' with
  | some mark =>
    for line in words.lines do
      let item := line.headD []
      runOnce (command.map fun word => substituteMark mark item (word.length + 1) word)
  | none =>
    let items := words.lines.flatten
    let size (letter : Char) : Option Nat := (a.value? letter).bind natural?
    let groups := match size 'n', size 'L' with
      | some count, _ => inGroups (max 1 count) (items.length + 1) items
      | none, some count =>
        (inGroups (max 1 count) (words.lines.length + 1) words.lines).map List.flatten
      | none, none => if items.isEmpty then [] else [items]
    let groups := if groups.isEmpty && !a.has 'r' && words.openQuote.isNone then [[]] else groups
    for group in groups do runOnce (command ++ group)
  match words.openQuote with
  | none => return
  | some c => fail 1 ("unmatched ".toList ++ (if c = '"' then "double" else "single").toList ++
      (" quote; by default quotes are special to xargs unless you use the -0 option").toList)

/-! ## Programs that need nothing but their arguments -/

/-- Prints arguments in a format. -/
def printf (arguments : List (List Char)) : Act Unit := do
  let arguments := if arguments.head? = some ['-', '-'] then arguments.drop 1 else arguments
  match arguments with
  | [] => refuse 1 "missing operand".toList
  | format :: values =>
    let printout := Shell.systemPrintf format values
    print printout.text
    for complaint in printout.complaints do
      complain complaint.systemMessage
      match complaint with
      | .unused _ => pure ()
      | _ => setStatus 1

/-- Tests something. Under the name of a bracket the last argument has to be the closing one. -/
def testArguments (arguments : List (List Char)) : Act Unit := do
  let p ← get
  let isBracket := lastSegment p.title = ['[']
  if isBracket && arguments.getLast? ≠ some [']'] then fail 2 "missing ']'".toList
  let s : Shell.State := { files := p.files, directory := p.directory, name := p.title }
  match s.test (if isBracket then arguments.dropLast else arguments) with
  | .ok holds => setStatus (if holds then 0 else 1)
  | .error reason => fail 2 reason

/-- How many lines are printed by a program that does not end by itself. -/
def endlessLines : Nat := 20000

/-- Prints a line again and again. -/
def yes (arguments : List (List Char)) : Act Unit := do
  let line := if arguments.isEmpty then ['y'] else [' '].intercalate arguments
  print (List.replicate endlessLines (line ++ ['\n'])).flatten

/-- Waits. -/
def sleep (arguments : List (List Char)) : Act Unit := do
  let a ← ({ plain := "" } : OptionTable).read arguments
  if a.operands.isEmpty then refuse 1 "missing operand".toList
  match a.operands.filter fun text => !isTimeSpan text with
  | [] => modify fun p => { p with elapsed := (a.operands.map spanOf).foldl (· + ·) p.elapsed }
  | wrong =>
    for text in wrong do complain ("invalid time interval ".toList ++ quoted text)
    note (hintLine (← get).title)
    finish 1

/-- The options of programs that tell about the system and who runs them. -/
def systemOptions : OptionTable where
  plain := "asnrvmpiogGuz"

/-- Prints the name of the system. -/
def uname (arguments : List (List Char)) : Act Unit := do
  let a ← systemOptions.read arguments
  let shown := [('s', "Linux"), ('m', "x86_64"), ('o', "GNU/Linux")].filterMap
    fun (letter, text) => if a.has letter then some text.toList else none
  printLine ([' '].intercalate (if shown.isEmpty then ["Linux".toList] else shown))

/-- Prints who runs the program. -/
def printUser (arguments : List (List Char)) : Act Unit := do
  let a ← systemOptions.read arguments
  if ['u', 'g', 'G'].any a.has then printLine (if a.has 'n' then "root".toList else ['0'])
  else printLine "uid=0(root) gid=0(root) groups=0(root)".toList

/-- The options of `stat`. -/
def statOptions : OptionTable where
  plain := "Lft"
  valued := "c"
  long := [⟨"format", 'c', true⟩, ⟨"printf", 'c', true⟩]

/-- Prints what is known of files. -/
def stat (arguments : List (List Char)) : Act Unit := do
  let a ← statOptions.read arguments
  if a.operands.isEmpty then refuse 1 "missing operand".toList
  for path in a.operands do
    match ← nodeAt path with
    | .error error => complainWith 1 ("cannot statx ".toList ++ quotedName path ++ ": ".toList ++
        reasonOf error)
    | .ok node =>
      let (kind, mode, size) : String × String × Nat := match node with
        | .directory => ("directory", "755", 4096)
        | .file bytes isExecutable =>
          (if bytes.isEmpty then "regular empty file" else "regular file",
            if isExecutable then "755" else "644", bytes.size)
        | .sink => ("character special file", "666", 0)
        | .utility _ => ("regular file", "755", 0)
      let rec fill : List Char → List Char
        | '%' :: letter :: rest =>
          (match letter with
            | 'n' => path
            | 's' => digitsOf size
            | 'F' => kind.toList
            | 'a' => mode.toList
            | '%' => ['%']
            | other => ['%', other]) ++ fill rest
        | c :: rest => c :: fill rest
        | [] => []
      printLine (fill ((a.value? 'c').getD "%n".toList))

end TemplateInspector.Utility
