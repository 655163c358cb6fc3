import TemplateInspector.Regex.Reader

/-!
# Programs for records

A program is run for every record of its input. Its rules have patterns, which tell for which
records they are carried out, and actions. Values are numbers or texts, and arrays have texts for
indices.
-/

namespace TemplateInspector.Utility

/-- A calculation with two numbers. -/
inductive RecordOperator
  | add
  | subtract
  | multiply
  | divide
  | remainder
  | power
  deriving DecidableEq, Repr

/-- A comparison. -/
inductive RecordComparison
  | less
  | lessEqual
  | equal
  | notEqual
  | greater
  | greaterEqual
  deriving DecidableEq, Repr

/-- A function that every program has. -/
inductive RecordFunction
  | length
  | substr
  | index
  | split
  | sub
  | gsub
  | find
  | sprintf
  | sin
  | cos
  | atan2
  | exp
  | log
  | sqrt
  | int
  | rand
  | srand
  | tolower
  | toupper
  | system
  | close
  | fflush
  deriving DecidableEq, Repr

mutual

/-- An expression. -/
inductive RecordExpr
  | number (value : Float)
  | text (text : List Char)
  /-- Whether the record matches a pattern. -/
  | regex (pattern : Regex)
  | named (name : List Char)
  | field (index : RecordExpr)
  | element (name : List Char) (indices : List RecordExpr)
  | group (e : RecordExpr)
  | assign (operator : Option RecordOperator) (target value : RecordExpr)
  /-- Adds to a variable; what it was before is the value if it is asked for. -/
  | increase (target : RecordExpr) (amount : Float) (givesOld : Bool)
  | choice (condition first second : RecordExpr)
  | both (first second : RecordExpr)
  | either (first second : RecordExpr)
  | isIn (indices : List RecordExpr) (name : List Char)
  | matching (isInverse : Bool) (subject pattern : RecordExpr)
  | comparison (comparison : RecordComparison) (first second : RecordExpr)
  | joined (first second : RecordExpr)
  | calculation (operator : RecordOperator) (first second : RecordExpr)
  | not (e : RecordExpr)
  | negative (e : RecordExpr)
  | positive (e : RecordExpr)
  | builtin (function : RecordFunction) (arguments : List RecordExpr)
  | call (name : List Char) (arguments : List RecordExpr)
  /-- Reads a record from the input, a file or a command into a variable or the current record. -/
  | readRecord (source : RecordSource) (target : Option RecordExpr)

/-- Where a record is read from. -/
inductive RecordSource
  | input
  | file (path : RecordExpr)
  | command (command : RecordExpr)

end

/-- Where a statement prints to. -/
inductive RecordOutput
  | standard
  | file (path : RecordExpr)
  | fileEnd (path : RecordExpr)
  | command (command : RecordExpr)

/-- A statement. -/
inductive RecordStatement
  | evaluate (e : RecordExpr)
  | print (values : List RecordExpr) (output : RecordOutput)
  | printFormat (values : List RecordExpr) (output : RecordOutput)
  | conditional (condition : RecordExpr) (first : RecordStatement) (second : Option RecordStatement)
  | whileLoop (condition : RecordExpr) (body : RecordStatement)
  | doLoop (body : RecordStatement) (condition : RecordExpr)
  | forLoop (start : Option RecordStatement) (condition : Option RecordExpr)
      (step : Option RecordStatement) (body : RecordStatement)
  | forEach (name array : List Char) (body : RecordStatement)
  | block (statements : List RecordStatement)
  | breakLoop
  | continueLoop
  | nextRecord
  | exit (status : Option RecordExpr)
  | giveBack (value : Option RecordExpr)
  | deleteElement (name : List Char) (indices : List RecordExpr)
  | deleteArray (name : List Char)

/-- Which records a rule is for. -/
inductive RecordPattern
  | all
  | one (e : RecordExpr)
  | range (first last : RecordExpr)

/-- A rule. -/
structure RecordRule where
  /-- The records that it is for. -/
  pattern : RecordPattern
  /-- What is done; the record is printed if that is missing. -/
  action : Option RecordStatement

/-- A function of a program. -/
structure RecordDefinition where
  /-- The name. -/
  name : List Char
  /-- The names of the parameters. -/
  parameters : List (List Char)
  /-- What is done. -/
  body : RecordStatement

/-- A program. -/
structure RecordProgram where
  /-- What is done before the first record. -/
  start : List RecordStatement := []
  /-- The rules. -/
  rules : List RecordRule := []
  /-- What is done after the last record. -/
  stop : List RecordStatement := []
  /-- The functions. -/
  functions : List RecordDefinition := []

end TemplateInspector.Utility
