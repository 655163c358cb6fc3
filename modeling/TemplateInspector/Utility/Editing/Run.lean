import TemplateInspector.Utility.Editing.Reader
import TemplateInspector.Utility.Options

/-!
# Editing lines by scripts

A script is run for every line of the input: the line is edited, and what it has become is printed.
A second text is kept beside it. Of the last line it is known that it is the last, so the files
behind it are looked at before.
-/

namespace TemplateInspector.Utility

/-- A range of lines that a command is in. -/
inductive RangeState
  /-- The range goes on up to a line of a number, if that is known. -/
  | active (stop : Option Nat)
  /-- The range is over and does not begin anew. -/
  | closed
  deriving DecidableEq

/-- A script at work. -/
structure Editing where
  /-- What is edited. -/
  text : List Char := []
  /-- Whether a line end belongs behind it. -/
  hasEnd : Bool := true
  /-- What is kept. -/
  kept : List Char := []
  /-- The number of the line. -/
  number : Nat := 0
  /-- The name of the file that is read. -/
  file : List Char := ['-']
  /-- The lines that have not been read of that file. -/
  lines : List (List Char) := []
  /-- The files that have not been opened. -/
  files : List (List Char)
  /-- What is printed behind the line. -/
  queue : List (List Char) := []
  /-- Whether a match was replaced. -/
  isReplaced : Bool := false
  /-- The ranges by the positions of their commands. -/
  ranges : List (Nat × RangeState) := []
  /-- The pattern that was used last. -/
  lastPattern : Option LinePattern := none
  /-- What was printed, if it is written to a file. -/
  output : Option (List (List Char)) := none
  /-- Whether a line end is missing behind what was printed. -/
  lacksEnd : Bool := false
  /-- The lines that were not read of files that are read line by line. -/
  readers : List (List Char × List (List Char)) := []

/-- How scripts are run. -/
structure EditRules where
  /-- The script. -/
  script : EditScript
  /-- Whether every file has lines of its own numbers. -/
  isSeparate : Bool
  /-- Whether files are replaced by what is printed, and the ending of the names of their copies. -/
  inPlace : Option (List Char)
  /-- The character that ends lines. -/
  lineEnd : Char
  /-- The width of lines that are shown without doubt. -/
  width : Nat

/-- What runs a part of a script. -/
abbrev EditM := ReaderT EditRules (StateT Editing Act)

namespace EditM

/-- Prints a text as it is. -/
def put (text : List Char) : EditM Unit := do
  match (← getThe Editing).output with
  | none => Utility.print text
  | some pieces => modifyThe Editing fun s => { s with output := some (text :: pieces) }

/-- The character that ends lines. -/
def lineEnd : EditM Char :=
  return (← read).lineEnd

/-- Prints the line end that is missing. -/
def putMissingEnd : EditM Unit := do
  if (← getThe Editing).lacksEnd then
    put [← lineEnd]
    modifyThe Editing fun s => { s with lacksEnd := false }

/-- Prints a text behind what was printed. -/
def putText (text : List Char) : EditM Unit := do
  putMissingEnd
  put text

/-- Prints a line, whose end may be missing. -/
def putLine (text : List Char) (hasEnd : Bool) : EditM Unit := do
  putMissingEnd
  let stop ← lineEnd
  put (if hasEnd then text ++ [stop] else text)
  if !hasEnd then modifyThe Editing fun s => { s with lacksEnd := true }

/-- Writes what was printed for a file that is replaced. -/
def closeFile : EditM Unit := do
  let s ← getThe Editing
  match (← read).inPlace, s.output with
  | some ending, some pieces =>
    if !ending.isEmpty then
      match ← readSource s.file with
      | .ok old =>
        let copy := if ending.contains '*' then
            ending.flatMap fun c => if c = '*' then s.file else [c]
          else s.file ++ ending
        let _ ← Utility.writeFile copy old
      | .error _ => pure ()
    let _ ← Utility.writeFile s.file pieces.reverse.flatten
    modifyThe Editing fun s => { s with output := none, lacksEnd := false }
  | _, _ => return

/-- Leaves the lines of the input that have not been read to others, if it is a file. -/
def leaveInput : EditM Unit := do
  let s ← getThe Editing
  let leave : Act Unit := modify fun p =>
    if isInput s.file && p.inputIsFile then { p with input := s.lines.flatten } else p
  let _ ← leave

/-- Ends after a complaint that the script cannot go on. -/
def giveUp (reason : List Char) : EditM Unit := do
  let _ ← (fail 4 reason : Act Unit)

/-- Opens the next files until there is a line. `fuel` bounds their number. -/
def openFiles : Nat → EditM Unit
  | 0 => return
  | fuel + 1 => do
    let s ← getThe Editing
    match s.lines, s.files with
    | [], path :: files =>
      closeFile
      modifyThe Editing fun s => { s with files }
      match ← readSource path with
      | .ok text =>
        let rules ← read
        if rules.isSeparate && rules.inPlace.isNone then putMissingEnd
        modifyThe Editing fun s => { s with
          file := path
          lines := linesEndedBy rules.lineEnd text
          number := if rules.isSeparate then 0 else s.number
          ranges := if rules.isSeparate then [] else s.ranges
          output := if rules.inPlace.isSome then some [] else none }
      | .error .isDirectory =>
        if (← read).inPlace.isSome then
          let _ ← (complainWith 4 ("couldn't edit ".toList ++ path ++
            ": not a regular file".toList) : Act Unit)
        else giveUp ("read error on ".toList ++ path ++ ": Is a directory".toList)
      | .error error =>
        let _ ← (complainWith 2 ("can't read ".toList ++ path ++ ": ".toList ++ reasonOf error) :
          Act Unit)
      openFiles fuel
    | _, _ => return

/-- Opens the next files until there is a line. -/
def lookAhead : EditM Unit := do
  openFiles ((← getThe Editing).files.length + 1)

/-- Whether the line is the last one. -/
def isLast : EditM Bool := do
  if (← read).isSeparate then return (← getThe Editing).lines.isEmpty
  lookAhead
  return (← getThe Editing).lines.isEmpty

/-- Takes the next line out of the input. Yields whether there is one. -/
def takeLine : EditM (Option (List Char)) := do
  lookAhead
  match (← getThe Editing).lines with
  | [] => return none
  | line :: lines =>
    let hasEnd := line.getLast? = some (← lineEnd)
    modifyThe Editing fun s => { s with
      lines, hasEnd, number := s.number + 1, isReplaced := false }
    return some (if hasEnd then line.dropLast else line)

/-- Whether a pattern matches what is edited. -/
def matchesPattern (pattern : Option LinePattern) : EditM Bool := do
  let s ← getThe Editing
  match pattern <|> s.lastPattern with
  | none =>
    let _ ← (fail 1 "-e expression #1, char 0: no previous regular expression".toList : Act Unit)
    return false
  | some pattern =>
    modifyThe Editing fun s => { s with lastPattern := some pattern }
    return pattern.regex.occursIn s.text.toArray pattern.foldCase

/-- Whether an address tells the line. -/
def isAt (address : LineAddress) : EditM Bool := do
  match address with
  | .number n => return (← getThe Editing).number = n
  | .step first step =>
    let number := (← getThe Editing).number
    return first ≤ number && (number - first) % step = 0
  | .last => isLast
  | .pattern pattern => matchesPattern pattern

/-- Remembers where the range of a command is. -/
def setRange (index : Nat) (state : Option RangeState) : EditM Unit :=
  modifyThe Editing fun s => { s with
    ranges := (state.map fun state => (index, state)).toList ++
      s.ranges.filter fun entry => entry.1 ≠ index }

/-- Whether the line is in a range that has begun before. -/
def isInside (index : Nat) (stop : RangeEnd) (known : Option Nat) : EditM Bool := do
  let number := (← getThe Editing).number
  match known, stop with
  | some last, _ =>
    if last ≤ number then setRange index (some .closed)
    return number ≤ last
  | none, .address address =>
    if ← isAt address then setRange index (some .closed)
    return true
  | none, _ => return true

/-- Begins a range at the line. -/
def beginRange (index : Nat) (stop : RangeEnd) : EditM Bool := do
  let number := (← getThe Editing).number
  let goOnTo (last : Nat) : EditM Unit :=
    setRange index (some (if number < last then .active (some last) else .closed))
  match stop with
  | .address (.number last) => goOnTo last
  | .behind count => goOnTo (number + count)
  | .multiple n => goOnTo (if n = 0 then number else (number / n + 1) * n)
  | .address _ => setRange index (some (.active none))
  return true

/-- Whether a range has the line in it. A range that begins at the line zero may end in the first
line. -/
def isInRange (index : Nat) (first : LineAddress) (stop : RangeEnd) : EditM Bool := do
  let s ← getThe Editing
  match first, s.ranges.lookup index with
  | _, some (.active known) => isInside index stop known
  | .number 0, none =>
    setRange index (some (.active none))
    isInside index stop none
  | .number n, some .closed =>
    return stop matches .address (.number _) && s.number = n
  | .number n, none =>
    if s.number < n then return false
    else match stop with
      | .address (.number last) =>
        if last < s.number && s.number ≠ n then return false else beginRange index stop
      | _ => beginRange index stop
  | first, _ => if ← isAt first then beginRange index stop else return false

/-- Whether a command is carried out for the line. -/
def isChosen (index : Nat) (command : EditCommand) : EditM Bool := do
  let chosen ← match command.choice with
    | .all => pure true
    | .one address => isAt address
    | .range first stop => isInRange index first stop
  return chosen != command.isInverse

/-- A text with its letters changed. -/
def cased (change : CaseChange) (text : List Char) : List Char :=
  match change with
  | .none => text
  | .upper => text.map Char.toUpper
  | .lower => text.map Char.toLower

/-- What the parts of a replacement become for a match. -/
def replacement (m : Regex.Match) (line : Array Char) (parts : List ReplacementPart) : List Char :=
  let step (state : CaseChange × CaseChange × List (List Char)) (part : ReplacementPart) :
      CaseChange × CaseChange × List (List Char) :=
    let (change, nextChange, done) := state
    let add (text : List Char) : CaseChange × CaseChange × List (List Char) :=
      if text.isEmpty then state
      else
        let text := match nextChange with
          | .none => cased change text
          | nextChange => cased nextChange (text.take 1) ++ cased change (text.drop 1)
        (change, .none, text :: done)
    match part with
    | .text text => add text
    | .group number => add (m.text line number)
    | .casing change => (change, .none, done)
    | .nextCasing nextChange => (change, nextChange, done)
  (parts.foldl step (.none, .none, [])).2.2.reverse.flatten

/-- A line with some of its matches replaced. -/
def replaced (s : Substitution) (line : Array Char) (found : List Regex.Match) : List Char :=
  let chosen := found.drop (s.number - 1)
  let chosen := if s.isGlobal then chosen else chosen.take 1
  let step (state : Nat × List (List Char)) (m : Regex.Match) : Nat × List (List Char) :=
    (m.stop, replacement m line s.parts :: (line.extract state.1 m.start).toList :: state.2)
  let (behind, pieces) := chosen.foldl step (0, [])
  pieces.reverse.flatten ++ (line.extract behind line.size).toList

/-- Adds a line to a file. -/
def writeLine (path text : List Char) : EditM Unit := do
  if path = "/dev/stdout".toList then putLine text (← getThe Editing).hasEnd
  else
    let old := match ← readSource path with
      | .ok old => old
      | .error _ => []
    let isOutput := (outputAt? path).isSome
    let hasEnd := (← getThe Editing).hasEnd
    let stop ← lineEnd
    let line := if hasEnd then text ++ [stop] else text
    let _ ← Utility.writeFile path (if isOutput then line else old ++ line)

/-- Replaces matches in what is edited. -/
def substitute (s : Substitution) : EditM Unit := do
  let e ← getThe Editing
  match s.pattern <|> e.lastPattern with
  | none =>
    let _ ← (fail 1 "-e expression #1, char 0: no previous regular expression".toList : Act Unit)
  | some pattern =>
    modifyThe Editing fun e => { e with lastPattern := some pattern }
    let line := e.text.toArray
    let found := pattern.regex.findAll line pattern.foldCase
    if s.number ≤ found.length then
      let text := replaced s line found
      modifyThe Editing fun e => { e with text, isReplaced := true }
      if s.prints then putLine text e.hasEnd
      match s.path with
      | none => return
      | some path => writeLine path text

/-- How a character is shown without doubt. -/
def shownChar (c : Char) : List Char :=
  match [('\\', '\\'), ('\x07', 'a'), ('\x08', 'b'), ('\x0c', 'f'), ('\n', 'n'), ('\r', 'r'),
    ('\t', 't'), ('\x0b', 'v')].lookup c with
  | some letter => ['\\', letter]
  | none =>
    if ' ' ≤ c && c ≤ '~' then [c]
    else
      let digits := Nat.toDigits 8 c.toNat
      '\\' :: List.replicate (3 - digits.length) '0' ++ digits

/-- The lines that show a text without doubt. -/
def listed (width : Nat) (text : List Char) : List Char :=
  let step (state : Nat × List (List Char)) (c : Char) : Nat × List (List Char) :=
    let shown := shownChar c
    if 1 < width && width - 1 < state.1 + shown.length then
      (shown.length, shown :: ['\\', '\n'] :: state.2)
    else (state.1 + shown.length, shown :: state.2)
  (text.foldl step (0, [])).2.reverse.flatten ++ ['$', '\n']

/-- The first line of a text, and what is behind it if it has an end. -/
def firstLine (lineEnd : Char) (text : List Char) : List Char × Option (List Char) :=
  let line := text.takeWhile (· ≠ lineEnd)
  (line, (text.drop line.length).tail?)

/-- Prints what belongs behind the line. -/
def putQueue : EditM Unit := do
  for text in (← getThe Editing).queue do
    if !text.isEmpty then putText text
  modifyThe Editing fun s => { s with queue := [] }

/-- Ends the work on the line: it is printed unless only commands print. -/
def endLine : EditM Unit := do
  let s ← getThe Editing
  if !(← read).script.isQuiet then putLine s.text s.hasEnd
  putQueue

/-- Queues a text behind the line. -/
def queue (text : List Char) : EditM Unit :=
  modifyThe Editing fun s => { s with queue := s.queue ++ [text] }

/-- Takes the next line of a file that is read line by line. -/
def takeFrom (path : List Char) : EditM (Option (List Char)) := do
  let s ← getThe Editing
  let lines ← match s.readers.lookup path with
    | some lines => pure lines
    | none => do
      match ← readSource path with
      | .ok text => pure (linesEndedBy (← lineEnd) text)
      | .error _ => pure []
  modifyThe Editing fun s => { s with
    readers := (path, lines.drop 1) :: s.readers.filter fun entry => entry.1 ≠ path }
  return lines.head?

/-- What comes after a command. -/
inductive Step
  /-- The command at a position. -/
  | goTo (index : Nat)
  /-- The end of the work on the line, which is printed. -/
  | endOfLine
  /-- The next line. -/
  | nextLine
  /-- The script from its start, without a new line. -/
  | again
  /-- The end. -/
  | stop (status : Nat)

/-- Carries a command out. -/
def perform (index : Nat) (action : EditAction) : EditM Step := do
  let s ← getThe Editing
  let rules ← read
  let on : Step := .goTo (index + 1)
  let edit (change : Editing → Editing) : EditM Step := do
    modifyThe Editing change
    return on
  let toLabel (label : List Char) : Step :=
    if label.isEmpty then .endOfLine
    else .goTo ((rules.script.labels.lookup label).getD rules.script.commands.size)
  match action with
  | .block _ | .blockEnd | .nothing => return on
  | .branch condition label =>
    match condition with
    | .always => return toLabel label
    | .replaced =>
      modifyThe Editing fun s => { s with isReplaced := false }
      return if s.isReplaced then toLabel label else on
    | .notReplaced =>
      modifyThe Editing fun s => { s with isReplaced := false }
      return if s.isReplaced then on else toLabel label
  | .appendText text =>
    queue text
    return on
  | .insertText text =>
    if !text.isEmpty then putText text
    return on
  | .changeText text =>
    let isActive := match s.ranges.lookup index with
      | some (.active _) => true
      | _ => false
    if !isActive then putText text
    return .nextLine
  | .delete => return .nextLine
  | .deleteFirst =>
    match (firstLine rules.lineEnd s.text).2 with
    | none => return .nextLine
    | some text =>
      modifyThe Editing fun s => { s with text }
      return .again
  | .lineNumber =>
    putText (digitsOf s.number ++ ['\n'])
    return on
  | .fileName =>
    putText (s.file ++ ['\n'])
    return on
  | .recall => edit fun s => { s with text := s.kept }
  | .appendKept => edit fun s => { s with text := s.text ++ rules.lineEnd :: s.kept }
  | .keep => edit fun s => { s with kept := s.text }
  | .appendToKept => edit fun s => { s with kept := s.kept ++ rules.lineEnd :: s.text }
  | .exchange => edit fun s => { s with text := s.kept, kept := s.text }
  | .listing width =>
    putText (listed (width.getD rules.width) s.text)
    return on
  | .next =>
    if ← isLast then
      if rules.isSeparate && !s.files.isEmpty then pure ()
      else
        return .stop (← getThe Process).status
    if !rules.script.isQuiet then putLine s.text s.hasEnd
    putQueue
    match ← takeLine with
    | none => return .stop (← getThe Process).status
    | some text => edit fun s => { s with text }
  | .appendNext =>
    putQueue
    match ← takeLine with
    | none => return .stop (← getThe Process).status
    | some text => edit fun e => { e with text := s.text ++ rules.lineEnd :: text }
  | .print =>
    putLine s.text s.hasEnd
    return on
  | .printFirst =>
    putLine (firstLine rules.lineEnd s.text).1 true
    return on
  | .quit status isQuiet =>
    if !isQuiet then endLine
    closeFile
    leaveInput
    let _ ← (finish status : Act Unit)
    return on
  | .readFile path =>
    match ← readSource path with
    | .ok text => queue text
    | .error _ => pure ()
    return on
  | .readLine path =>
    match ← takeFrom path with
    | some line =>
        queue (if line.getLast? = some rules.lineEnd then line else line ++ [rules.lineEnd])
    | none => pure ()
    return on
  | .substitute substitution =>
    substitute substitution
    return on
  | .translate source target =>
    edit fun s => { s with text := s.text.map fun c => ((source.zip target).lookup c).getD c }
  | .writeFile path =>
    writeLine path s.text
    return on
  | .writeFirst path =>
    let old := match ← readSource path with
      | .ok old => old
      | .error _ => []
    let line := (firstLine rules.lineEnd s.text).1 ++ [rules.lineEnd]
    if path = "/dev/stdout".toList then putText line
    else
      let _ ← Utility.writeFile path (if (outputAt? path).isSome then line else old ++ line)
    return on
  | .clear => edit fun s => { s with text := [] }

/-- Runs the script from a position on up to the end of the work on the line. -/
def runFrom : Nat → Nat → EditM Step
  | 0, _ => return .stop 4
  | fuel + 1, index => do
    match (← read).script.commands[index]? with
    | none => return .endOfLine
    | some command =>
      let next ← if ← isChosen index command then perform index command.action
        else match command.action with
          | .block behind => pure (Step.goTo behind)
          | _ => pure (Step.goTo (index + 1))
      match next with
      | .goTo index => runFrom fuel index
      | other => return other

/-- The number of commands that are carried out for a line at most. -/
def maxSteps : Nat := 100000

/-- Runs the script for the lines of the input. `isFresh` tells whether a new line is read. -/
def runLines : Nat → Bool → EditM Unit
  | 0, _ => return
  | fuel + 1, isFresh => do
    let hasLine ← if !isFresh then pure true
      else do
        match ← takeLine with
        | none => pure false
        | some text =>
          modifyThe Editing fun s => { s with text }
          pure true
    if hasLine then
      match ← runFrom maxSteps 0 with
      | .goTo _ | .endOfLine =>
        endLine
        runLines fuel true
      | .nextLine =>
        putQueue
        runLines fuel true
      | .again =>
        putQueue
        runLines fuel false
      | .stop status =>
        if status ≠ 4 then endLine
        closeFile
        leaveInput
        let _ ← (finish status : Act Unit)
    else closeFile

end EditM

/-- The options of `sed`. -/
def sedOptions : OptionTable where
  plain := "nErsuz"
  valued := "efl"
  optional := "i"
  long := [⟨"quiet", 'n', false⟩, ⟨"silent", 'n', false⟩, ⟨"regexp-extended", 'E', false⟩,
    ⟨"expression", 'e', true⟩, ⟨"file", 'f', true⟩, ⟨"line-length", 'l', true⟩,
    ⟨"separate", 's', false⟩, ⟨"unbuffered", 'u', false⟩, ⟨"null-data", 'z', false⟩,
    ⟨"in-place", 'i', false⟩, ⟨"posix", '\x01', false⟩, ⟨"sandbox", '\x02', false⟩,
    ⟨"follow-symlinks", '\x03', false⟩]

/-- Where something is wrong in a piece of a script. -/
def piecePlace (file : Option (List Char)) (number : Nat) (reading : ScriptReading) : List Char :=
  match file with
  | some path => "file ".toList ++ path ++ " line ".toList ++ digitsOf (reading.lines + 1)
  | none => "-e expression #".toList ++ digitsOf number ++ ", char ".toList ++
      digitsOf reading.position

/-- Reads the pieces of a script, of which those from files have names. -/
def readScript (extended isQuiet : Bool) (pieces : List (Option (List Char) × List Char)) :
    Act EditScript := do
  let start : ScriptReading := {
    rest := [], isQuiet, dialect := { extended, strict := true } }
  let refused (file : Option (List Char)) (number : Nat) (reading : ScriptReading)
      (error : EditError) : Act ScriptReading := do
    complain (piecePlace file number reading ++ ": ".toList ++ error.message.toList)
    finish 1
  let (_, reading) ← pieces.foldlM (fun (number, reading) (file, text) => do
    let number := if file.isNone then number + 1 else number
    match (ScriptM.piece text).run.run reading with
    | (.ok _, reading) => return (number, reading)
    | (.error error, reading) => return (number, ← refused file number reading error)) (0, start)
  if !reading.blocks.isEmpty then
    let file := (pieces.getLast?.bind Prod.fst)
    let number := (pieces.filter fun piece => piece.1.isNone).length
    let _ ← refused file number { reading with position := 0, lines := 0 } .openBlock
  let commands := reading.commands.reverse
  for command in commands do
    match command.action with
    | .branch _ label =>
      if !label.isEmpty && (reading.labels.lookup label).isNone then
        fail 1 ("can't find label for jump to \x60".toList ++ label ++ ['\''])
    | _ => pure ()
  return { commands := commands.toArray, labels := reading.labels, isQuiet := reading.isQuiet }

/-- The files to which a script writes. -/
def EditScript.writtenPaths (script : EditScript) : List (List Char) :=
  script.commands.toList.filterMap fun command =>
    match command.action with
    | .writeFile path | .writeFirst path => some path
    | .substitute s => s.path
    | _ => none

/-- Edits the lines of files or of the input by a script. -/
def sed (arguments : List (List Char)) : Act Unit := do
  let a ← sedOptions.read arguments
  let given := a.options.filter fun option => option.1 = 'e' || option.1 = 'f'
  let named ← given.mapM fun option => do
    if option.1 = 'e' then return (none, option.2)
    else match ← readSource option.2 with
      | .ok text => return (some option.2, text)
      | .error error => fail 1 ("couldn't open file ".toList ++ plainReason option.2 error)
  let isGiven := !named.isEmpty
  if !isGiven && a.operands.isEmpty then
    note ("Usage: ".toList ++ (← get).title ++
      " [OPTION]... \x7bscript-only-if-no-other-script\x7d [input-file]...\n".toList)
    finish 1
  let pieces := if isGiven then named else [(none, a.operands.headD [])]
  let script ← readScript (a.has 'E' || a.has 'r') (a.has 'n') pieces
  for path in script.writtenPaths do
    if (outputAt? path).isNone then
      if let .error error ← writeFile path [] then
        fail 4 ("couldn't open file ".toList ++ plainReason path error)
  let operands := if isGiven then a.operands else a.operands.drop 1
  let rules : EditRules := {
    script
    isSeparate := a.has 's' || a.has 'i'
    inPlace := a.value? 'i'
    lineEnd := if a.has 'z' then '\x00' else '\n'
    width := ((a.value? 'l').bind natural?).getD 70 }
  let _ ← ((EditM.runLines (Nat.pow 10 7) true).run rules).run
    ({ files := if operands.isEmpty then [['-']] else operands } : Editing)

end TemplateInspector.Utility
