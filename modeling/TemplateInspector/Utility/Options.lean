import TemplateInspector.Utility.Basic

/-!
# Options of programs

Options are letters behind a hyphen or names behind two. An option may have a value, which follows
in the same argument or in the next one. Options may stand among the other arguments unless the
program wants them first; two hyphens end them. A name may be shortened as long as it is the only
one.
-/

namespace TemplateInspector.Utility

/-- An option with a name. -/
structure LongOption where
  /-- The name. -/
  name : String
  /-- The letter that stands for it. -/
  letter : Char
  /-- Whether it has a value. -/
  isValued : Bool := false

/-- The options that a program knows. -/
structure OptionTable where
  /-- The letters of options without a value. -/
  plain : String
  /-- The letters of options with a value. -/
  valued : String := ""
  /-- The letters of options that may have a value, which then follows in the same argument. -/
  optional : String := ""
  /-- The options with a name. -/
  long : List LongOption := []
  /-- Whether options have to come before all other arguments. -/
  isOrdered : Bool := false
  /-- The status of a program whose options are wrong. -/
  status : Nat := 1
  /-- How the arguments are to be given, where a complaint about them tells it. -/
  usage : Option String := none
  /-- Whether the line that tells where to find help begins with the name of the program. -/
  isTitled : Bool := false

/-- Options with their values, which are empty if they have none, and the other arguments. -/
structure Arguments where
  /-- The options in order. -/
  options : List (Char × List Char) := []
  /-- The other arguments. -/
  operands : List (List Char) := []

namespace Arguments

/-- Whether an option is given. -/
def has (a : Arguments) (letter : Char) : Bool :=
  a.options.any fun option => option.1 = letter

/-- The value of an option; the last one counts. -/
def value? (a : Arguments) (letter : Char) : Option (List Char) :=
  a.options.reverse.lookup letter

/-- The values of an option. -/
def values (a : Arguments) (letter : Char) : List (List Char) :=
  a.options.filterMap fun option => if option.1 = letter then some option.2 else none

/-- Of some options the one that was given last. -/
def last? (a : Arguments) (letters : List Char) : Option Char :=
  (a.options.reverse.find? fun option => letters.contains option.1).map Prod.fst

/-- Puts an option before others. -/
def withOption (a : Arguments) (letter : Char) (value : List Char) : Arguments :=
  { a with options := (letter, value) :: a.options }

/-- Puts an argument before others. -/
def withOperand (a : Arguments) (operand : List Char) : Arguments :=
  { a with operands := operand :: a.operands }

end Arguments

namespace OptionTable

/-- Ends after a complaint about the arguments. -/
def refuse (table : OptionTable) (reason : List Char) : Act α := do
  complain reason
  let title := (← get).title
  match table.usage with
  | none => note ((if table.isTitled then title ++ ": ".toList else []) ++ hintLine title)
  | some usage => note (usageLines title usage)
  finish table.status

/-- The options that a name may stand for. -/
def candidates (table : OptionTable) (name : List Char) : List LongOption :=
  match table.long.find? fun option => option.name.toList = name with
  | some option => [option]
  | none => table.long.filter fun option => name.isPrefixOf option.name.toList

/-- Whether all options are the same one under several names. -/
def areSame (options : List LongOption) : Bool :=
  match options with
  | [] => false
  | first :: others => others.all fun option => option.letter = first.letter

/-- Reads the letters of an argument. Yields the options, and the letter of the last one if it has a
value that is not in this argument. -/
def readLetters (table : OptionTable) :
    List Char → Act (List (Char × List Char) × Option Char)
  | [] => return ([], none)
  | letter :: rest => do
    if table.optional.toList.contains letter then return ([(letter, rest)], none)
    else if table.plain.toList.contains letter then
      let (options, open_) ← table.readLetters rest
      return ((letter, []) :: options, open_)
    else if table.valued.toList.contains letter then
      if rest.isEmpty then return ([], some letter) else return ([(letter, rest)], none)
    else table.refuse ("invalid option -- ".toList ++ quoted [letter])

/-- Reads an option by its name. Yields the letter that stands for it and its value, unless that is
not in this argument. -/
def readName (table : OptionTable) (argument : List Char) : Act (Char × Option (List Char)) := do
  let name := argument.takeWhile (· ≠ '=')
  let value := (argument.drop name.length).tail?
  let dashed (name : List Char) : List Char := quoted ("--".toList ++ name)
  match table.candidates name with
  | [] => table.refuse ("unrecognized option ".toList ++ dashed argument)
  | option :: others =>
    if !others.isEmpty && !areSame (option :: others) then
      table.refuse ("option ".toList ++ dashed argument ++
        " is ambiguous; possibilities:".toList ++
        (option :: others).flatMap fun option => ' ' :: dashed option.name.toList)
    else if option.isValued then return (option.letter, value)
    else if value.isSome && !table.optional.toList.contains option.letter then
      table.refuse ("option ".toList ++ dashed option.name.toList ++
        " doesn't allow an argument".toList)
    else return (option.letter, some (value.getD []))

/-- Complains about an option whose value is missing. -/
def refuseOpen (table : OptionTable) (letter : Char) : Act α :=
  table.refuse ("option requires an argument -- ".toList ++ quoted [letter])

/-- Reads arguments. -/
def read (table : OptionTable) : List (List Char) → Act Arguments
  | [] => return {}
  | ['-', '-'] :: rest => return { operands := rest }
  | ('-' :: '-' :: name) :: rest => do
    match ← table.readName name with
    | (letter, some value) => return (← table.read rest).withOption letter value
    | (letter, none) =>
      match rest with
      | value :: rest => return (← table.read rest).withOption letter value
      | [] => table.refuse ("option ".toList ++
          quoted ("--".toList ++ ((table.candidates name).head?.elim name (·.name.toList))) ++
          " requires an argument".toList)
  | ('-' :: c :: letters) :: rest => do
    match ← table.readLetters (c :: letters), rest with
    | (options, none), rest =>
      return options.foldr (fun (letter, value) a => a.withOption letter value)
        (← table.read rest)
    | (options, some letter), value :: rest =>
      return options.foldr (fun (letter, value) a => a.withOption letter value)
        ((← table.read rest).withOption letter value)
    | (_, some letter), [] => table.refuseOpen letter
  | operand :: rest => do
    if table.isOrdered then return { operands := operand :: rest }
    else return (← table.read rest).withOperand operand

end OptionTable

end TemplateInspector.Utility
