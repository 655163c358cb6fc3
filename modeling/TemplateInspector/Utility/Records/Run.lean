import TemplateInspector.Utility.Options
import TemplateInspector.Utility.Records.State

/-!
# Running programs for records

The statements for the start are run first, then the rules for every record, and at last the
statements for the end. Every step uses up fuel; a program that runs out of it ends.
-/

namespace TemplateInspector.Utility

namespace RunM

/-- The text that a replacement becomes for a match. -/
def replacementText (found : List Char) : List Char → List Char
  | '\\' :: '\\' :: '&' :: rest => '\\' :: found ++ replacementText found rest
  | '\\' :: '&' :: rest => '&' :: replacementText found rest
  | '&' :: rest => found ++ replacementText found rest
  | c :: rest => c :: replacementText found rest
  | [] => []

/-- The sine and its like. -/
def calculated? (function : RecordFunction) (x : Float) : Option Float :=
  match function with
  | .sin => some x.sin
  | .cos => some x.cos
  | .exp => some x.exp
  | .log => some x.log
  | .sqrt => some x.sqrt
  | .int => some (match truncated? x with
    | some n => if n < 0 then -(n.natAbs.toFloat) else n.toNat.toFloat
    | none => x)
  | _ => none

/-- A part of a text from a position on, which starts at one. -/
def part (text : List Char) (start : Float) (length : Option Float) : List Char :=
  let whole (x : Float) : Int := (truncated? x).getD 0
  let first := whole start
  match length with
  | none => text.drop (max 0 (first - 1)).toNat
  | some length =>
    if length.isNaN then []
    else
      let last := if length > 1e9 then (text.length : Int) else first + whole length - 1
      let first := max 1 first
      (text.drop (first - 1).toNat).take (last + 1 - first).toNat

/-- The texts that a text is divided into. -/
def divided (text : List Char) (separator : Option Regex) (plain : List Char) :
    List (List Char) :=
  match separator with
  | some r => if text.isEmpty then [] else splitAtMatches r text
  | none => fieldsOf plain false text

/-- Replaces the first match, or all of them. Yields the number of replacements and the text. -/
def replaced (r : Regex) (isGlobal : Bool) (replacement text : List Char) : Nat × List Char :=
  let line := text.toArray
  let found := r.findAll line false
  let found := if isGlobal then found else found.take 1
  let step (state : Nat × List (List Char)) (m : Regex.Match) : Nat × List (List Char) :=
    (m.stop, replacementText (m.text line 0) replacement ::
      (line.extract state.1 m.start).toList :: state.2)
  let (behind, pieces) := found.foldl step (0, [])
  (found.length, pieces.reverse.flatten ++ (line.extract behind line.size).toList)

/-- The pattern that a text writes. -/
def patternOf (text : List Char) : RunM Regex := do
  match recordPattern text with
  | .ok r => return r
  | .error _ => giveUp ("regular expression compile failed\n".toList ++ text)

mutual

/-- The value of an expression. -/
def value : Nat → RecordExpr → RunM RecordValue
  | 0, _ => throw .exit
  | fuel + 1, e => do
    match e with
    | .number x => return .number x
    | .text text => return .text text
    | .regex r => return .ofBool (r.occursIn (← getThe RecordState).record.toArray false)
    | .named name => valueOf name
    | .field index =>
      let index ← value fuel index
      let index := (truncated? index.toNumber).getD 0
      if index < 0 then giveUp "negative field index".toList else fieldAt index.toNat
    | .element name indices =>
      let number ← arrayOf name
      entryAt number (← index fuel indices)
    | .group e => value fuel e
    | .assign operator target e =>
      match operator with
      | none =>
        let result ← value fuel e
        assign fuel target result
        return result
      | some operator =>
        let second ← value fuel e
        let first ← value fuel target
        let result := RecordValue.number (operator.apply first.toNumber second.toNumber)
        assign fuel target result
        return result
    | .increase target amount givesOld =>
      let old ← value fuel target
      let new := RecordValue.number (old.toNumber + amount)
      assign fuel target new
      return if givesOld then .number old.toNumber else new
    | .choice condition first second =>
      if (← value fuel condition).holds then value fuel first else value fuel second
    | .both first second =>
      if (← value fuel first).holds then return .ofBool (← value fuel second).holds
      else return .ofBool false
    | .either first second =>
      if (← value fuel first).holds then return .ofBool true
      else return .ofBool (← value fuel second).holds
    | .isIn indices name =>
      let index ← index fuel indices
      let entries ← entriesOf (← arrayOf name)
      return .ofBool (entries.find? index).isSome
    | .matching isInverse subject e =>
      let text ← textOf (← value fuel subject)
      let r ← pattern fuel e
      return .ofBool (r.occursIn text.toArray false != isInverse)
    | .comparison comparison first second =>
      let first ← value fuel first
      let second ← value fuel second
      return .ofBool (comparison.compare (← conversion) first second)
    | .joined first second =>
      let first ← textOf (← value fuel first)
      let second ← textOf (← value fuel second)
      return .text (first ++ second)
    | .calculation operator first second =>
      let first ← value fuel first
      let second ← value fuel second
      return .number (operator.apply first.toNumber second.toNumber)
    | .not e => return .ofBool !(← value fuel e).holds
    | .negative e => return .number (-(← value fuel e).toNumber)
    | .positive e => return .number (← value fuel e).toNumber
    | .builtin function arguments => builtin fuel function arguments
    | .call name arguments => call fuel name arguments
    | .readRecord source target => readRecord fuel source target

/-- The pattern of an expression. -/
def pattern : Nat → RecordExpr → RunM Regex
  | 0, _ => throw .exit
  | fuel + 1, e => do
    match e with
    | .regex r => return r
    | .group (.regex r) => return r
    | e => patternOf (← textOf (← value fuel e))

/-- The index that expressions write. -/
def index : Nat → List RecordExpr → RunM (List Char)
  | 0, _ => throw .exit
  | fuel + 1, es => do
    let values ← values fuel es
    let format ← conversion
    let separator := variableText (← getThe RecordState) "SUBSEP"
    return separator.intercalate (values.map (RecordValue.toText format))

/-- The values of expressions. -/
def values : Nat → List RecordExpr → RunM (List RecordValue)
  | 0, _ => throw .exit
  | _, [] => return []
  | fuel + 1, e :: es => do
    let first ← value fuel e
    return first :: (← values fuel es)

/-- Assigns a value to an expression. -/
def assign : Nat → RecordExpr → RecordValue → RunM Unit
  | 0, _, _ => throw .exit
  | fuel + 1, target, result => do
    match target with
    | .named name => setValue name result
    | .field index =>
      let index ← value fuel index
      setField ((truncated? index.toNumber).getD 0).toNat result
    | .element name indices =>
      let number ← arrayOf name
      let index ← index fuel indices
      changeArray number fun array => array.insert index result
    | .group e => assign fuel e result
    | _ => return

/-- The value of a function that every program has. -/
def builtin : Nat → RecordFunction → List RecordExpr → RunM RecordValue
  | 0, _, _ => throw .exit
  | fuel + 1, function, arguments => do
    let text (e : RecordExpr) : RunM (List Char) := do textOf (← value fuel e)
    match function, arguments with
    | .length, [] => return .ofNat (← getThe RecordState).record.length
    | .length, [.named name] =>
      let s ← getThe RecordState
      let number? := match s.parameters.lookup name with
        | some (.array number) => some number
        | some (.value _) => none
        | none => s.arrayNames.lookup name
      match number? with
      | some number => return .ofNat (← entriesOf number).length
      | none => return .ofNat (← text (.named name)).length
    | .length, e :: _ => return .ofNat (← text e).length
    | .substr, [e, start] =>
      let content ← text e
      return .text (part content (← value fuel start).toNumber none)
    | .substr, e :: start :: length :: _ =>
      let content ← text e
      let start ← value fuel start
      let length ← value fuel length
      return .text (part content start.toNumber (some length.toNumber))
    | .index, e :: sought :: _ =>
      let content ← text e
      let sought ← text sought
      let position := (List.range (content.length + 1)).find? fun i =>
        sought.isPrefixOf (content.drop i)
      return .ofNat (match position with
        | some i => i + 1
        | none => 0)
    | .split, e :: .named name :: rest =>
      let content ← text e
      let pieces ← match rest with
        | .regex r :: _ => pure (divided content (some r) [])
        | separator :: _ => do pure (divided content none (← text separator))
        | [] => do pure (divided content none (variableText (← getThe RecordState) "FS"))
      let number ← arrayOf name
      changeArray number fun _ => []
      for (piece, i) in pieces.zipIdx do
        changeArray number fun array => array.insert (toString (i + 1)).toList (.input piece)
      return .ofNat pieces.length
    | .sub, e :: replacement :: rest =>
        replace fuel false e replacement (rest.headD (.field (.number 0)))
    | .gsub, e :: replacement :: rest =>
        replace fuel true e replacement (rest.headD (.field (.number 0)))
    | .find, e :: found :: _ =>
      let content ← text e
      let r ← pattern fuel found
      match r.find? content.toArray false 0 with
      | some m =>
        setValue "RSTART".toList (.ofNat (m.start + 1))
        setValue "RLENGTH".toList (.ofNat (m.stop - m.start))
        return .ofNat (m.start + 1)
      | none =>
        setValue "RSTART".toList (.number 0)
        setValue "RLENGTH".toList (.number (-1))
        return .number 0
    | .sprintf, e :: rest =>
      let format ← text e
      let values ← values fuel rest
      let whole := "sprintf(\"".toList ++ format ++ "\")".toList
      return .text (← formatted whole (format.length + 1) format values [])
    | .atan2, y :: x :: _ =>
      let y ← value fuel y
      let x ← value fuel x
      return .number (Float.atan2 y.toNumber x.toNumber)
    | .rand, _ => return .number 0.5
    | .srand, _ => return .number 0
    | .tolower, e :: _ => return .text ((← text e).map Char.toLower)
    | .toupper, e :: _ => return .text ((← text e).map Char.toUpper)
    | .system, e :: _ =>
      let command ← text e
      let environment := (← act get).environment
      match ← act (passTo ["/bin/sh".toList, ['-', 'c'], command] environment) with
      | .ok status => return .ofNat status
      | .error _ => return .ofNat 127
    | .close, e :: _ =>
      let name ← text e
      let s ← getThe RecordState
      match s.sinks.lookup name with
      | some sink => return .ofNat (← closeSink name sink)
      | none =>
        modifyThe RecordState fun s =>
          { s with readers := s.readers.filter fun entry => entry.1 ≠ name }
        return .number (if (s.readers.lookup name).isSome then 0 else -1)
    | .fflush, _ => return .number 0
    | function, e :: _ =>
      let x ← value fuel e
      return .number ((calculated? function x.toNumber).getD 0)
    | _, [] => return .missing

/-- Replaces matches in the text of a target. Yields their number. -/
def replace : Nat → Bool → RecordExpr → RecordExpr → RecordExpr → RunM RecordValue
  | 0, _, _, _, _ => throw .exit
  | fuel + 1, isGlobal, e, replacement, target => do
    let r ← pattern fuel e
    let replacement ← textOf (← value fuel replacement)
    let content ← textOf (← value fuel target)
    let (count, result) := replaced r isGlobal replacement content
    if 0 < count then assign fuel target (.text result)
    return .ofNat count

/-- Binds arguments to parameters. A variable that was not used may become an array. -/
def bind : Nat → List (List Char) → List RecordExpr → RunM (List (List Char × RecordLocal))
  | 0, _, _ => throw .exit
  | _, [], _ => return []
  | fuel + 1, name :: names, arguments => do
    let bound ← match arguments with
      | [] => do pure (RecordLocal.array (← newArray))
      | .named argument :: _ => do
        let s ← getThe RecordState
        match s.parameters.lookup argument with
        | some bound => pure bound
        | none =>
          match s.globals.lookup argument with
          | some v => pure (RecordLocal.value v)
          | none =>
            if argument = "NF".toList then pure (RecordLocal.value (← valueOf argument))
            else pure (RecordLocal.array (← arrayOf argument))
      | e :: _ => do pure (RecordLocal.value (← value fuel e))
    return (name, bound) :: (← bind fuel names (arguments.drop 1))

/-- The value of a function of the program. -/
def call : Nat → List Char → List RecordExpr → RunM RecordValue
  | 0, _, _ => throw .exit
  | fuel + 1, name, arguments => do
    let s ← getThe RecordState
    match s.program.functions.find? fun function => function.name = name with
    | none => return .missing
    | some function =>
      let parameters ← bind fuel function.parameters arguments
      let old := (← getThe RecordState).parameters
      modifyThe RecordState fun s => { s with parameters }
      let result ← try
          run fuel function.body
          pure RecordValue.missing
        catch leave => match leave with
          | .giveBack result => pure result
          | leave => throw leave
      modifyThe RecordState fun s => { s with parameters := old }
      return result

/-- Reads a record into a target, or as the record. Yields whether there was one. -/
def readRecord : Nat → RecordSource → Option RecordExpr → RunM RecordValue
  | 0, _, _ => throw .exit
  | fuel + 1, source, target => do
    let store (record : List Char) : RunM RecordValue := do
      match target with
      | some target => assign fuel target (.input record)
      | none => setRecord record
      return .number 1
    let take (name rest : List Char) : RunM RecordValue := do
      match takeRecord (variableText (← getThe RecordState) "RS") rest with
      | none => return .number 0
      | some (record, rest) =>
        modifyThe RecordState fun s => { s with
          readers := (name, rest) :: s.readers.filter fun entry => entry.1 ≠ name }
        store record
    match source with
    | .input =>
      match ← nextRecord? with
      | none => return .number 0
      | some record => store record
    | .file e =>
      let path ← textOf (← value fuel e)
      match (← getThe RecordState).readers.lookup path with
      | some rest => take path rest
      | none =>
        match ← act (readSource path) with
        | .error _ => return .number (-1)
        | .ok text =>
          modifyThe RecordState fun s => { s with readers := (path, text) :: s.readers }
          take path text
    | .command e =>
      let command ← textOf (← value fuel e)
      let result ← match (← getThe RecordState).readers.lookup command with
        | some rest => take command rest
        | none => do
          let (text, _) ← runShell command []
          modifyThe RecordState fun s => { s with readers := (command, text) :: s.readers }
          take command text
      if result.holds then count "NR"
      return result

/-- Prints a text to where a statement prints. -/
def send : Nat → RecordOutput → List Char → RunM Unit
  | 0, _, _ => throw .exit
  | fuel + 1, output, text => do
    match output with
    | .standard => act (Utility.print text)
    | .file e => writeTo (← textOf (← value fuel e)) text false
    | .fileEnd e => writeTo (← textOf (← value fuel e)) text true
    | .command e => pipeTo (← textOf (← value fuel e)) text

/-- Runs a statement. -/
def run : Nat → RecordStatement → RunM Unit
  | 0, _ => throw .exit
  | fuel + 1, s => do
    match s with
    | .evaluate e =>
      let _ ← value fuel e
    | .print es output =>
      let values ← values fuel es
      let s ← getThe RecordState
      let format := variableText s "OFMT"
      let texts := if es.isEmpty then [s.record] else values.map (RecordValue.toText format)
      send fuel output ((variableText s "OFS").intercalate texts ++ variableText s "ORS")
    | .printFormat es output =>
      match ← values fuel es with
      | [] => return
      | format :: values =>
        let format ← textOf format
        let whole := "printf(\"".toList ++ format ++ "\")".toList
        send fuel output (← formatted whole (format.length + 1) format values [])
    | .conditional condition first second =>
      if (← value fuel condition).holds then run fuel first
      else match second with
        | some second => run fuel second
        | none => return
    | .whileLoop condition body => loop fuel (some condition) body none
    | .doLoop body condition =>
      if ← round fuel body then loop fuel (some condition) body none
    | .forLoop start condition step body =>
      match start with
      | some start => run fuel start
      | none => pure ()
      loop fuel condition body step
    | .forEach name array body =>
      let indices := (← entriesOf (← arrayOf array)).indices
      each fuel name indices body
    | .block statements => runAll fuel statements
    | .breakLoop => throw .breakLoop
    | .continueLoop => throw .continueLoop
    | .nextRecord => throw .nextRecord
    | .exit e =>
      match e with
      | some e =>
        let status ← value fuel e
        act (setStatus ((truncated? status.toNumber).getD 0 % 256).toNat)
      | none => pure ()
      throw .exit
    | .giveBack e =>
      match e with
      | some e => throw (.giveBack (← value fuel e))
      | none => throw (.giveBack .missing)
    | .deleteElement name indices =>
      let number ← arrayOf name
      let index ← index fuel indices
      changeArray number fun array => array.erase index
    | .deleteArray name => changeArray (← arrayOf name) fun _ => []

/-- Runs the body of a loop. Yields whether the loop goes on. -/
def round : Nat → RecordStatement → RunM Bool
  | 0, _ => throw .exit
  | fuel + 1, body => do
    try
      run fuel body
      pure true
    catch leave => match leave with
      | .breakLoop => pure false
      | .continueLoop => pure true
      | leave => throw leave

/-- Runs the rounds of a loop. -/
def loop : Nat → Option RecordExpr → RecordStatement → Option RecordStatement → RunM Unit
  | 0, _, _, _ => throw .exit
  | fuel + 1, condition, body, step => do
    let isHeld ← match condition with
      | some condition => do pure (← value fuel condition).holds
      | none => pure true
    if isHeld then
      if ← round fuel body then
        match step with
        | some step => run fuel step
        | none => pure ()
        loop fuel condition body step

/-- Runs the body of a loop for each of some indices. -/
def each : Nat → List Char → List (List Char) → RecordStatement → RunM Unit
  | 0, _, _, _ => throw .exit
  | _, _, [], _ => return
  | fuel + 1, name, index :: indices, body => do
    setValue name (.text index)
    if ← round fuel body then each fuel name indices body

/-- Runs statements in a row. -/
def runAll : Nat → List RecordStatement → RunM Unit
  | 0, _ => throw .exit
  | _, [] => return
  | fuel + 1, s :: rest => do
    run fuel s
    runAll fuel rest

end

/-- The fuel of a statement. -/
def statementFuel : Nat := 1000000

/-- Whether a rule is carried out for the record. -/
def applies (position : Nat) (p : RecordPattern) : RunM Bool := do
  match p with
  | .all => return true
  | .one e => return (← value statementFuel e).holds
  | .range first last =>
    let isInside := (← getThe RecordState).ranges.contains position
    let begins ← if isInside then pure true else do pure (← value statementFuel first).holds
    if !begins then return false
    else
      let ends := (← value statementFuel last).holds
      modifyThe RecordState fun s =>
        let others := s.ranges.filter (· ≠ position)
        { s with ranges := if ends then others else position :: others }
      return true

/-- Carries the rules out for the record. -/
def runRules (program : RecordProgram) : RunM Unit := do
  for (rule, position) in program.rules.zipIdx do
    if ← applies position rule.pattern then
      run statementFuel (rule.action.getD (.print [] .standard))

/-- Carries the rules out for all records. `fuel` bounds their number. -/
def runRecords (program : RecordProgram) : Nat → RunM Unit
  | 0 => return
  | fuel + 1 => do
    match ← nextRecord? with
    | none => return
    | some record =>
      setRecord record
      try
        runRules program
      catch leave => match leave with
        | .nextRecord => pure ()
        | leave => throw leave
      runRecords program fuel

/-- Runs something that may be left by the end of the program. Yields whether it was not. -/
def guarded (action : RunM Unit) : RunM Bool := do
  try
    action
    pure true
  catch leave => match leave with
    | .exit => pure false
    | _ => pure true

/-- Runs a program. -/
def runProgram (program : RecordProgram) : RunM Unit := do
  let goesOn ← guarded (runAll statementFuel program.start)
  if goesOn && !(program.rules.isEmpty && program.stop.isEmpty) then
    let _ ← guarded (runRecords program 10000000)
  let _ ← guarded (runAll statementFuel program.stop)
  closeSinks

/-- Sets the array of a name. -/
def setEntries (name : String) (entries : List (List Char × RecordValue)) : RunM Unit := do
  let number ← arrayOf name.toList
  changeArray number fun _ =>
    entries.foldl (fun array (index, value) => RecordArray.insert array index value) []

end RunM

/-- The lines that tell how the arguments of `awk` are to be given. -/
def awkUsage : List String :=
  ["Usage: mawk [Options] [Program] [file ...]",
    "",
    "Program:",
    "    The -f option value is the name of a file containing program text.",
    "    If no -f option is given, a \"--\" ends option processing; the following",
    "    parameters are the program text.",
    "",
    "Options:",
    "    -f program-file  Program  text is read from file instead of from the",
    "                     command-line.  Multiple -f options are accepted.",
    "    -F value         sets the field separator, FS, to value.",
    "    -v var=value     assigns value to program variable var.",
    "    --               unambiguous end of options.",
    "",
    "    Implementation-specific options are prefixed with \"-W\".  They can be",
    "    abbreviated:",
    "",
    "    -W version       show version information and exit.",
    "    -W compat        pre-POSIX 2001.",
    "    -W dump          show assembler-like listing of program and exit.",
    "    -W help          show this message and exit.",
    "    -W interactive   set unbuffered output, line-buffered input.",
    "    -W exec file     use file as program as well as last option.",
    "    -W posix         stricter POSIX checking.",
    "    -W random=number set initial random seed.",
    "    -W sprintf=number adjust size of sprintf buffer.",
    "    -W usage         show this message and exit."]

/-- Reads the arguments of `awk`. All its options have values. -/
def readRecordArguments : List (List Char) → Act Arguments
  | [] => return {}
  | ['-', '-'] :: rest => return { operands := rest }
  | ('-' :: letter :: value) :: rest => do
    if !("FvfW".toList.contains letter) then
      fail 2 ("not an option: -".toList ++ letter :: value)
    else if !value.isEmpty then return (← readRecordArguments rest).withOption letter value
    else match rest with
      | value :: rest => return (← readRecordArguments rest).withOption letter value
      | [] => fail 2 ("option -".toList ++ letter :: " lacks argument".toList)
  | operand :: rest => return { operands := operand :: rest }

/-- The variables of a program before it runs. -/
def recordVariables : List (List Char × RecordValue) :=
  [("FS", RecordValue.text [' ']), ("OFS", .text [' ']), ("ORS", .text ['\n']),
    ("RS", .text ['\n']), ("SUBSEP", .text ['\x1c']), ("CONVFMT", .text "%.6g".toList),
    ("OFMT", .text "%.6g".toList), ("NR", .number 0), ("FNR", .number 0),
    ("RSTART", .number 0), ("RLENGTH", .number (-1)), ("FILENAME", .text [])].map
    fun (name, value) => (name.toList, value)

/-- Runs a program for the records of files or of the input. -/
def awk (arguments : List (List Char)) : Act Unit := do
  modify fun p => { p with title := (p.title.reverse.takeWhile (· ≠ '/')).reverse }
  let a ← readRecordArguments arguments
  match a.values 'v' |>.find? fun assignment => !RunM.isAssignment assignment with
  | some assignment => fail 2 ("improper assignment: -v ".toList ++ assignment)
  | none => pure ()
  let files ← (a.values 'f').mapM fun path => do
    match ← readSource path with
    | .ok text => return text
    | .error error =>
        fail 2 ("cannot open ".toList ++ path ++ " (".toList ++ reasonOf error ++ [')'])
  if files.isEmpty && a.operands.isEmpty then
    note (awkUsage.flatMap fun line => line.toList ++ ['\n'])
    finish 2
  let text := if files.isEmpty then a.operands.headD [] else files.flatMap (· ++ ['\n'])
  let operands := if files.isEmpty then a.operands.drop 1 else a.operands
  match RecordProgram.read text with
  | .error error => fail 2 error.message
  | .ok program =>
    let p ← get
    let start : RunM Unit := do
      RunM.setEntries "ENVIRON" (p.environment.map fun (name, value) => (name, .input value))
      RunM.setEntries "ARGV" ((p.title :: operands).zipIdx.map fun (argument, i) =>
        ((toString i).toList, .input argument))
      RunM.setGlobal "ARGC".toList (.ofNat (operands.length + 1))
      match a.value? 'F' with
      | some separator => RunM.assignArgument ("FS=".toList ++ separator)
      | none => pure ()
      for assignment in a.values 'v' do RunM.assignArgument assignment
      RunM.runProgram program
    let _ ← StateT.run (ExceptT.run start) { program, globals := recordVariables }

end TemplateInspector.Utility
