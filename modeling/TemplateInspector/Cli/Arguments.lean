/-!
# Command lines

A command line is read level by level: the program, a command and perhaps a command of that. A level
knows options, which may stand anywhere on it, and either further commands or texts that stand for
themselves. The first fault ends the reading; so does an option that asks for help or for the
version.
-/

namespace TemplateInspector.Cli

/-- What an option takes. -/
inductive OptionKind
  /-- Nothing; it is given or not. -/
  | flag
  /-- One value. -/
  | value
  /-- One value each time it is given. -/
  | values
  /-- Nothing: it asks for help. -/
  | help
  /-- Nothing: it asks for the version. -/
  | version
  deriving DecidableEq, Repr

/-- Which values an option can have. -/
inductive ValueRule
  /-- Any text. -/
  | any
  /-- Any text but the empty one. -/
  | nonempty
  /-- One of some texts. -/
  | oneOf (names : List String)
  deriving DecidableEq, Repr

/-- Whether a value is allowed. -/
def ValueRule.allows : ValueRule → String → Bool
  | .any, _ => true
  | .nonempty, value => value ≠ ""
  | .oneOf names, value => names.contains value

/-- An option. -/
structure OptionSpec where
  /-- The name behind two hyphens. -/
  long : String
  /-- The letter behind one hyphen. -/
  short : Option Char
  /-- What it takes. -/
  kind : OptionKind
  /-- Which values it can have. -/
  rule : ValueRule := .any
  deriving DecidableEq, Repr

/-- What may stand on a level. -/
structure Level where
  /-- The options. -/
  options : List OptionSpec
  /-- The commands that lead to another level. -/
  commands : List String := []
  /-- How many texts stand for themselves. -/
  texts : Nat := 0
  deriving DecidableEq, Repr

/-- What is wrong with a command line. -/
inductive UsageError
  /-- An argument is not expected. -/
  | unexpected (argument : String)
  /-- The value of an option is missing. -/
  | missingValue (option : String)
  /-- An option that takes nothing was given a value. -/
  | needlessValue (option : String)
  /-- An option cannot have this value. -/
  | invalidValue (option value : String)
  /-- An option was given twice. -/
  | repeated (option : String)
  /-- A command is missing. -/
  | missingCommand
  /-- A text is missing. -/
  | missingText (name : String)
  deriving DecidableEq, Repr

/-- The text that reports what is wrong with a command line. -/
def UsageError.message : UsageError → String
  | .unexpected argument => "unexpected argument '" ++ argument ++ "'"
  | .missingValue option => "a value is required for '--" ++ option ++ "'"
  | .needlessValue option => "no value is allowed for '--" ++ option ++ "'"
  | .invalidValue option value => "invalid value '" ++ value ++ "' for '" ++ option ++ "'"
  | .repeated option => "'--" ++ option ++ "' cannot be used multiple times"
  | .missingCommand => "a command is required"
  | .missingText name => "'" ++ name ++ "' is required"

/-- Why the reading of a command line ends early. -/
inductive Stop
  | fault (error : UsageError)
  | help
  | version
  deriving DecidableEq, Repr

/-- What was read on a level. -/
structure Matches where
  /-- The flags that were given. -/
  flags : List String := []
  /-- The values that were given, with the names of their options. -/
  values : List (String × String) := []
  /-- The texts that stand for themselves. -/
  texts : List String := []
  /-- The command that leads to another level, with the arguments behind it. -/
  command : Option (String × List String) := none
  deriving DecidableEq, Repr

namespace Matches

/-- Whether a flag was given. -/
def has (found : Matches) (flag : String) : Bool :=
  found.flags.contains flag

/-- The value of an option, if it was given. -/
def value? (found : Matches) (option : String) : Option String :=
  found.values.lookup option

/-- All values of an option, in order. -/
def valuesOf (found : Matches) (option : String) : List String :=
  (found.values.filter fun entry => entry.1 = option).map Prod.snd

/-- Takes note of an option without a value. -/
def addFlag (found : Matches) (option : OptionSpec) : Except Stop Matches :=
  match option.kind with
  | .help => .error .help
  | .version => .error .version
  | _ =>
    if found.has option.long then .error (.fault (.repeated option.long))
    else .ok { found with flags := found.flags ++ [option.long] }

/-- Takes note of an option with a value. -/
def addValue (found : Matches) (option : OptionSpec) (value : String) : Except Stop Matches :=
  if option.kind = .value && (found.value? option.long).isSome then
    .error (.fault (.repeated option.long))
  else if !option.rule.allows value then .error (.fault (.invalidValue option.long value))
  else .ok { found with values := found.values ++ [(option.long, value)] }

end Matches

/-- Whether an option takes a value. -/
def OptionSpec.takesValue (option : OptionSpec) : Bool :=
  option.kind = .value || option.kind = .values

/-- Reads letters behind one hyphen. Yields the option that still needs a value, if the last one
does. -/
def readLetters (level : Level) (argument : String) :
    List Char → Matches → Except Stop (Matches × Option OptionSpec)
  | [], found => .ok (found, none)
  | c :: rest, found =>
    match level.options.find? fun option => option.short = some c with
    | none => .error (.fault (.unexpected argument))
    | some option =>
      if option.takesValue then
        match rest with
        | [] => .ok (found, some option)
        | '=' :: value => (found.addValue option (String.ofList value)).map (·, none)
        | value => (found.addValue option (String.ofList value)).map (·, none)
      else do readLetters level argument rest (← found.addFlag option)

/-- Reads a name behind two hyphens, perhaps with a value behind an equals sign. Yields the option
if it still needs a value. -/
def readName (level : Level) (argument : String) (text : List Char) (found : Matches) :
    Except Stop (Matches × Option OptionSpec) :=
  let name := String.ofList (text.takeWhile (· ≠ '='))
  let value := text.dropWhile (· ≠ '=')
  match level.options.find? fun option => option.long = name with
  | none => .error (.fault (.unexpected argument))
  | some option =>
    if option.takesValue then
      match value with
      | [] => .ok (found, some option)
      | _ :: value => (found.addValue option (String.ofList value)).map (·, none)
    else if value.isEmpty then (found.addFlag option).map (·, none)
    else .error (.fault (.needlessValue option.long))

/-- Whether an argument looks like an option. A single hyphen does not. -/
def looksLikeOption (argument : String) : Bool :=
  argument.toList.head? = some '-' && argument ≠ "-"

/-- Takes note of a text that stands for itself. -/
def readText (level : Level) (argument : String) (found : Matches) : Except Stop Matches :=
  if found.texts.length < level.texts then
    .ok { found with texts := found.texts ++ [argument] }
  else .error (.fault (.unexpected argument))

/-- Reads the arguments of a level. Behind two hyphens all of them are texts. `wanting` is an option
that needs the next argument as its value. -/
def readLevel (level : Level) (onlyTexts : Bool) (wanting : Option OptionSpec) :
    List String → Matches → Except Stop Matches
  | [], found =>
    match wanting with
    | some option => .error (.fault (.missingValue option.long))
    | none => .ok found
  | argument :: rest, found =>
    match wanting with
    | some option =>
      if looksLikeOption argument then .error (.fault (.missingValue option.long))
      else do readLevel level onlyTexts none rest (← found.addValue option argument)
    | none =>
      if onlyTexts then do readLevel level true none rest (← readText level argument found)
      else match argument.toList with
        | ['-', '-'] => readLevel level true none rest found
        | '-' :: '-' :: text => do
          let (found, wanting) ← readName level argument text found
          readLevel level false wanting rest found
        | '-' :: c :: text => do
          let (found, wanting) ← readLetters level argument (c :: text) found
          readLevel level false wanting rest found
        | _ =>
          if level.commands.isEmpty then do
            readLevel level false none rest (← readText level argument found)
          else if level.commands.contains argument then
            .ok { found with command := some (argument, rest) }
          else if argument = "help" then .error .help
          else .error (.fault (.unexpected argument))

/-- Reads the arguments of a level from its beginning. -/
def Level.read (level : Level) (arguments : List String) : Except Stop Matches :=
  readLevel level false none arguments {}

end TemplateInspector.Cli
