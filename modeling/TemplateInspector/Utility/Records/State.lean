import TemplateInspector.Utility.Basic
import TemplateInspector.Utility.Records.Reader
import TemplateInspector.Utility.Records.Value

/-!
# The state of a program for records

What a program knows while it runs: its variables and arrays, the record with its fields, and what
it reads and writes. Names in a function are looked up among its parameters first.
-/

namespace TemplateInspector.Utility

/-- What a parameter of a function is. -/
inductive RecordLocal
  | value (value : RecordValue)
  /-- An array, or something that has not been used and may become one. -/
  | array (number : Nat)

/-- What is written to a file or a command. -/
inductive RecordSink
  /-- A file that has been opened. -/
  | file
  /-- A command with its input so far, last piece first. -/
  | command (pieces : List (List Char))

/-- A program for records at work. -/
structure RecordState where
  /-- The program. -/
  program : RecordProgram
  /-- The variables. -/
  globals : List (List Char × RecordValue)
  /-- The arrays by their numbers. -/
  arrays : List (Nat × RecordArray) := []
  /-- The numbers of the arrays by their names. -/
  arrayNames : List (List Char × Nat) := []
  /-- The number of arrays that there have been. -/
  arrayCount : Nat := 0
  /-- The parameters of the function that runs. -/
  parameters : List (List Char × RecordLocal) := []
  /-- The record. -/
  record : List Char := []
  /-- The fields of the record. -/
  fields : List RecordValue := []
  /-- What has not been read of the file that is read. -/
  input : Option (List Char) := none
  /-- The number of the argument that is looked at next for a file. -/
  argument : Nat := 1
  /-- Whether a file was read. -/
  hasRead : Bool := false
  /-- What has not been read of other files and of what commands have printed. -/
  readers : List (List Char × List Char) := []
  /-- What is written to. -/
  sinks : List (List Char × RecordSink) := []
  /-- The ranges of records that have begun, by the positions of their rules. -/
  ranges : List Nat := []

/-- How a statement is left before its end. -/
inductive RecordLeave
  | breakLoop
  | continueLoop
  | nextRecord
  | exit
  | giveBack (value : RecordValue)

/-- What runs a part of a program. -/
abbrev RunM := ExceptT RecordLeave (StateT RecordState Act)

namespace RunM

/-- Does something that any program does. -/
def act (action : Act α) : RunM α :=
  liftM (m := Act) action

/-- The text of a variable as it was set. -/
def variableText (s : RecordState) (name : String) : List Char :=
  match s.globals.lookup name.toList with
  | some value => value.toText "%.6g".toList
  | none => []

/-- The format of numbers that become texts. -/
def conversion : RunM (List Char) := do
  return variableText (← getThe RecordState) "CONVFMT"

/-- The text of a value. -/
def textOf (value : RecordValue) : RunM (List Char) := do
  return value.toText (← conversion)

/-- Ends after a complaint about something that went wrong while the program ran. -/
def giveUp (reason : List Char) : RunM α := do
  let s ← getThe RecordState
  act (do
    complain ("run time error: ".toList ++ reason)
    note ("\tFILENAME=\"".toList ++ variableText s "FILENAME" ++ "\" FNR=".toList ++
      variableText s "FNR" ++ " NR=".toList ++ variableText s "NR" ++ ['\n'])
    finish 2)

/-! ## Fields -/

/-- Divides a text at the matches of a pattern that are not empty. -/
def splitAtMatches (r : Regex) (text : List Char) : List (List Char) :=
  let line := text.toArray
  let found := (r.findAll line false).filter fun m => m.start < m.stop
  let step (state : Nat × List (List Char)) (m : Regex.Match) : Nat × List (List Char) :=
    (m.stop, (line.extract state.1 m.start).toList :: state.2)
  let (behind, pieces) := found.foldl step (0, [])
  ((line.extract behind line.size).toList :: pieces).reverse

/-- The words of a text. -/
def wordsOf (text : List Char) : List (List Char) :=
  let isBlank (c : Char) : Bool := c = ' ' || c = '\t' || c = '\n'
  (text.splitBy fun a b => isBlank a == isBlank b).filter fun run => !run.any isBlank

/-- The fields of a text between separators that a text tells. -/
def fieldsOf (separator : List Char) (isParagraph : Bool) (text : List Char) :
    List (List Char) :=
  if text.isEmpty then []
  else match separator with
    | [' '] => wordsOf text
    | [] => text.map fun c => [c]
    | [c] =>
      let lines := if isParagraph then Path.divide '\n' text else [text]
      lines.flatMap (Path.divide c)
    | separator =>
      match recordPattern separator with
      | .ok r =>
        splitAtMatches (if isParagraph then .alt r (.one (.single '\n')) else r) text
      | .error _ => [text]

/-- Makes a text the record. -/
def setRecord (text : List Char) : RunM Unit :=
  modifyThe RecordState fun s =>
    let isParagraph := (variableText s "RS").isEmpty
    { s with
      record := text
      fields := (fieldsOf (variableText s "FS") isParagraph text).map RecordValue.input }

/-- Makes the record from its fields. -/
def joinFields : RunM Unit := do
  let format ← conversion
  modifyThe RecordState fun s =>
    { s with record :=
        (variableText s "OFS").intercalate (s.fields.map (RecordValue.toText format)) }

/-- The value of a field; the number zero is the record as a whole. -/
def fieldAt (index : Nat) : RunM RecordValue := do
  let s ← getThe RecordState
  if index = 0 then return .input s.record
  else return (s.fields[index - 1]?).getD .missing

/-- Sets a field. Fields that were missing before it are empty. -/
def setField (index : Nat) (value : RecordValue) : RunM Unit := do
  if index = 0 then setRecord (← textOf value)
  else
    modifyThe RecordState fun s =>
      let missing := List.replicate (index - s.fields.length) (RecordValue.input [])
      { s with fields := (s.fields ++ missing).set (index - 1) value }
    joinFields

/-- Sets the number of fields. -/
def setFieldCount (count : Nat) : RunM Unit := do
  modifyThe RecordState fun s =>
    { s with
      fields :=
        (s.fields ++ List.replicate (count - s.fields.length) (RecordValue.input [])).take count }
  joinFields

/-! ## Variables and arrays -/

/-- The value of a variable. -/
def valueOf (name : List Char) : RunM RecordValue := do
  let s ← getThe RecordState
  match s.parameters.lookup name with
  | some (.value value) => return value
  | some (.array _) => return .missing
  | none =>
    if name = "NF".toList then return .ofNat s.fields.length
    else return (s.globals.lookup name).getD .missing

/-- Sets a variable that is no parameter. -/
def setGlobal (name : List Char) (value : RecordValue) : RunM Unit := do
  if name = "NF".toList then
    setFieldCount ((truncated? value.toNumber).getD 0).toNat
  else
    modifyThe RecordState fun s =>
      { s with globals := (name, value) :: s.globals.filter fun entry => entry.1 ≠ name }

/-- Sets a variable. -/
def setValue (name : List Char) (value : RecordValue) : RunM Unit := do
  let s ← getThe RecordState
  if (s.parameters.lookup name).isSome then
    modifyThe RecordState fun s =>
      { s with parameters :=
          (name, .value value) :: s.parameters.filter fun entry => entry.1 ≠ name }
  else setGlobal name value

/-- Makes a new array. -/
def newArray : RunM Nat := do
  let number := (← getThe RecordState).arrayCount
  modifyThe RecordState fun s => { s with
    arrayCount := number + 1
    arrays := (number, []) :: s.arrays }
  return number

/-- The number of the array of a name, which is made if there is none. -/
def arrayOf (name : List Char) : RunM Nat := do
  let s ← getThe RecordState
  match s.parameters.lookup name with
  | some (.array number) => return number
  | some (.value _) => newArray
  | none =>
    match s.arrayNames.lookup name with
    | some number => return number
    | none =>
      let number ← newArray
      modifyThe RecordState fun s => { s with arrayNames := (name, number) :: s.arrayNames }
      return number

/-- The entries of an array. -/
def entriesOf (number : Nat) : RunM RecordArray := do
  return ((← getThe RecordState).arrays.lookup number).getD []

/-- Changes an array. -/
def changeArray (number : Nat) (change : RecordArray → RecordArray) : RunM Unit :=
  modifyThe RecordState fun s =>
    { s with arrays := s.arrays.map fun entry =>
        if entry.1 = number then (number, change entry.2) else entry }

/-- The value of an entry of an array, which is made if there is none. -/
def entryAt (number : Nat) (index : List Char) : RunM RecordValue := do
  let value := ((← entriesOf number).find? index).getD .missing
  changeArray number fun array => array.insert index value
  return value

/-! ## Reading -/

/-- Takes a record off a text. The separator is a character, a pattern, or nothing, which stands for
empty lines. -/
def takeRecord (separator text : List Char) : Option (List Char × List Char) :=
  match separator with
  | [] =>
    let text := text.dropWhile (· = '\n')
    if text.isEmpty then none
    else
      let rec length : List Char → Nat
        | '\n' :: '\n' :: _ => 0
        | [] => 0
        | ['\n'] => 0
        | _ :: rest => 1 + length rest
      let count := length text
      some (text.take count, (text.drop count).dropWhile (· = '\n'))
  | [c] =>
    if text.isEmpty then none
    else
      let record := text.takeWhile (· ≠ c)
      some (record, text.drop (record.length + 1))
  | separator =>
    if text.isEmpty then none
    else match recordPattern separator with
      | .error _ => some (text, [])
      | .ok r =>
        let line := text.toArray
        match (r.findAll line false).find? fun m => m.start < m.stop with
        | some m => some ((line.extract 0 m.start).toList, (line.extract m.stop line.size).toList)
        | none => some (if text.getLast? = some '\n' then text.dropLast else text, [])

/-- Sets a variable by an argument such as a name, an equals sign and a value. -/
def assignArgument (argument : List Char) : RunM Unit := do
  let name := argument.takeWhile (· ≠ '=')
  let value := argument.drop (name.length + 1)
  let text := match readQuoted (value.length + 2) [] (value ++ ['"']) with
    | some (text, _) => text
    | none => value
  setGlobal name (.input text)

/-- Whether an argument sets a variable. -/
def isAssignment (argument : List Char) : Bool :=
  let name := argument.takeWhile (· ≠ '=')
  name.length < argument.length && name.head?.any (fun c => c.isAlpha || c = '_') &&
    name.all fun c => c.isAlphanum || c = '_'

/-- Opens the next file of the arguments. Yields whether there is one. `fuel` bounds the number of
arguments. -/
def openNext : Nat → RunM Bool
  | 0 => return false
  | fuel + 1 => do
    let s ← getThe RecordState
    let count := (truncated? ((s.globals.lookup "ARGC".toList).getD .missing).toNumber).getD 1
    let arguments ← entriesOf (← arrayOf "ARGV".toList)
    if count ≤ s.argument then
      if s.hasRead then return false
      modifyThe RecordState fun s => { s with hasRead := true, input := some [] }
      let text ← act takeInput
      modifyThe RecordState fun s => { s with input := some text }
      return true
    else
      modifyThe RecordState fun s => { s with argument := s.argument + 1 }
      let path := ((arguments.find? (toString s.argument).toList).getD .missing).toText []
      if path.isEmpty then openNext fuel
      else if isAssignment path then
        assignArgument path
        openNext fuel
      else
        match ← act (readSource path) with
        | .ok text =>
          modifyThe RecordState fun s => { s with hasRead := true, input := some text }
          setGlobal "FILENAME".toList (.text path)
          setGlobal "FNR".toList (.number 0)
          return true
        | .error error =>
          act (fail 2 ("cannot open \"".toList ++ path ++ "\" (".toList ++ reasonOf error ++
            ")".toList))

/-- Takes the next record off the input. `fuel` bounds the number of files. -/
def takeInputRecord : Nat → RunM (Option (List Char))
  | 0 => return none
  | fuel + 1 => do
    let s ← getThe RecordState
    match takeRecord (variableText s "RS") (s.input.getD []) with
    | some (record, rest) =>
      modifyThe RecordState fun s => { s with input := some rest }
      return some record
    | none =>
      if ← openNext 1000 then takeInputRecord fuel else return none

/-- Adds one to a variable. -/
def count (name : String) : RunM Unit := do
  let value ← valueOf name.toList
  setGlobal name.toList (.number (value.toNumber + 1))

/-- The next record of the input. -/
def nextRecord? : RunM (Option (List Char)) := do
  match ← takeInputRecord 1000 with
  | none => return none
  | some record =>
    count "NR"
    count "FNR"
    return some record

/-! ## Writing -/

/-- Runs a command by the shell. -/
def runShell (command input : List Char) : RunM (List Char × Nat) := do
  match ← act (runProgram ["/bin/sh".toList, ['-', 'c'], command] input) with
  | .ok result => return result
  | .error _ => return ([], 127)

/-- Ends what is written to a file or a command. Yields the status of the command. -/
def closeSink (name : List Char) (sink : RecordSink) : RunM Nat := do
  modifyThe RecordState fun s =>
    { s with sinks := s.sinks.filter fun entry => entry.1 ≠ name }
  match sink with
  | .file => return 0
  | .command pieces =>
    let (output, status) ← runShell name pieces.reverse.flatten
    act (Utility.print output)
    return status

/-- Ends all that is written. -/
def closeSinks : RunM Unit := do
  for (name, sink) in (← getThe RecordState).sinks.reverse do
    let _ ← closeSink name sink

/-- Writes a text to a file. -/
def writeTo (path text : List Char) (isAppended : Bool) : RunM Unit := do
  if path = "-".toList || path = "/dev/stdout".toList then act (Utility.print text)
  else
    let isOpen := ((← getThe RecordState).sinks.lookup path).isSome
    let old ← if isOpen || isAppended then do
        match ← act (readSource path) with
        | .ok old => pure old
        | .error _ => pure []
      else pure []
    let old := if (outputAt? path).isSome then [] else old
    if !isOpen then
      modifyThe RecordState fun s => { s with sinks := (path, .file) :: s.sinks }
    match ← act (writeFile path (old ++ text)) with
    | .ok _ => return
    | .error error =>
      act (fail 2 ("cannot open \"".toList ++ path ++ "\" for output (".toList ++
        reasonOf error ++ ")".toList))

/-- Writes a text to a command. -/
def pipeTo (command text : List Char) : RunM Unit := do
  let pieces := match (← getThe RecordState).sinks.lookup command with
    | some (.command pieces) => pieces
    | _ => []
  modifyThe RecordState fun s =>
    { s with sinks :=
        (command, .command (text :: pieces)) :: s.sinks.filter fun entry => entry.1 ≠ command }

/-! ## Formats -/

/-- A number as a whole one, within the bounds of words of 64 bits. -/
def wholeOf (x : Float) : Int :=
  match truncated? x with
  | some n => max (-(Nat.pow 2 63 : Int)) (min n (Nat.pow 2 63 - 1))
  | none => if x > 0 then Nat.pow 2 63 - 1 else -(Nat.pow 2 63 : Int)

/-- Prints values in a format. `fuel` bounds the number of steps. -/
def formatted (whole : List Char) : Nat → List Char → List RecordValue → List (List Char) →
    RunM (List Char)
  | 0, _, _, done => return done.reverse.flatten
  | _, [], _, done => return done.reverse.flatten
  | fuel + 1, '%' :: '%' :: rest, values, done => formatted whole fuel rest values (['%'] :: done)
  | fuel + 1, '%' :: rest, values, done => do
    let missing : RunM (List RecordValue) :=
      giveUp ("not enough arguments passed to ".toList ++ whole)
    let isFlag (c : Char) : Bool := ['-', '+', ' ', '0', '#'].contains c
    let flags := rest.takeWhile isFlag
    let rest := rest.drop flags.length
    let number (text : List Char) (values : List RecordValue) :
        RunM (Option Int × List Char × List RecordValue) := do
      match text with
      | '*' :: text =>
        match values with
        | [] =>
          let values ← missing
          return (none, text, values)
        | value :: values => return (some (wholeOf value.toNumber), text, values)
      | text =>
        let digits := text.takeWhile Char.isDigit
        return (if digits.isEmpty then none else some (Utility.valueOf digits : Nat),
          text.drop digits.length, values)
    let (width, rest, values) ← number rest values
    let (precision, rest, values) ← match rest with
      | '.' :: rest => do
        let (precision, rest, values) ← number rest values
        pure (some (precision.getD 0), rest, values)
      | rest => pure (none, rest, values)
    let rest := rest.dropWhile fun c => c = 'l' || c = 'h' || c = 'L'
    let flags := if width.any (· < 0) then '-' :: flags else flags
    let style : NumberStyle := {
      flags
      width := (width.getD 0).natAbs
      precision := precision.bind fun p => if p < 0 then none else some p.toNat }
    match rest with
    | [] => giveUp ("improper conversion(number 1) in ".toList ++ whole)
    | letter :: rest =>
      if !"diouxXeEfFgGcs".toList.contains letter then
        giveUp ("improper conversion(number 1) in ".toList ++ whole)
      else
        let (value, values) ← match values with
          | [] => do
            let values ← missing
            pure (RecordValue.missing, values)
          | value :: values => pure (value, values)
        let x := value.toNumber
        let cut (text : List Char) : List Char :=
          match style.precision with
          | some count => text.take count
          | none => text
        let text ← match letter with
          | 'd' | 'i' => pure (style.renderInt 10 false true (wholeOf x))
          | 'u' => pure (style.renderInt 10 false false (wholeOf x))
          | 'o' => pure (style.renderInt 8 false false (wholeOf x))
          | 'x' => pure (style.renderInt 16 false false (wholeOf x))
          | 'X' => pure (style.renderInt 16 true false (wholeOf x))
          | 'c' => match value with
            | .number x => pure (style.pad false [] [Char.ofNat ((wholeOf x) % 256).toNat])
            | value => do
              let text ← textOf value
              pure (style.pad false [] (text.take 1))
          | 's' => do
            let text ← textOf value
            pure (style.pad false [] (cut text))
          | letter => pure (style.renderFloat letter x)
        formatted whole fuel rest values (text :: done)
  | fuel + 1, c :: rest, values, done => formatted whole fuel rest values ([c] :: done)

end RunM

end TemplateInspector.Utility
