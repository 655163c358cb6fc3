/-!
# Shell commands

The commands that a shell script consists of. Words are kept as the parts they are written with;
what is quoted is known of every part, since only the rest is divided into fields. Texts are bytes,
each taken for the character that it numbers.
-/

namespace TemplateInspector.Shell

/-- What takes the place of a parameter. -/
inductive Substitute
  /-- A word, if the parameter is missing. -/
  | default
  /-- A word, if the parameter is missing, which gets it as its value. -/
  | assign
  /-- Nothing: it is an error if the parameter is missing. -/
  | demand
  /-- A word, unless the parameter is missing. -/
  | replace
  deriving DecidableEq, Repr

/-- What a redirection does with a file. -/
inductive FileUse
  | read
  | write
  /-- To write even if files that are there must not be written. -/
  | overwrite
  | append
  /-- To read a file that is made if it is missing. -/
  | open
  deriving DecidableEq, Repr

mutual

/-- A part of a word. -/
inductive WordPart where
  /-- Text as it stands. -/
  | text (quoted : Bool) (text : List Char)
  /-- The value of a parameter. -/
  | parameter (quoted : Bool) (name : List Char)
  /-- The length of the value of a parameter. -/
  | length (quoted : Bool) (name : List Char)
  /-- The value of a parameter or a word in its place. An empty value may count as missing. -/
  | substitute (quoted : Bool) (name : List Char) (use : Substitute) (emptyIsMissing : Bool)
      (word : List WordPart)
  /-- The value of a parameter without a part at one of its ends. -/
  | trim (quoted : Bool) (name : List Char) (atEnd longest : Bool) (pattern : List WordPart)
  /-- What commands print. -/
  | output (quoted : Bool) (commands : List Command)
  /-- The value of an arithmetic expression. -/
  | arithmetic (quoted : Bool) (expression : List WordPart)
  /-- A parameter whose use is not known, which is an error as soon as it is to be replaced. -/
  | unknownUse

/-- A change of where input comes from or output goes to. -/
inductive Redirection where
  /-- To or from a file. -/
  | file (descriptor : Nat) (use : FileUse) (target : List WordPart)
  /-- To where another descriptor leads; a hyphen closes the descriptor. -/
  | copy (descriptor : Nat) (target : List WordPart)
  /-- From the here-document of a number. -/
  | document (descriptor : Nat) (number : Nat)

/-- A command. -/
inductive Command where
  /-- A program with its arguments, or only assignments. -/
  | simple (line : Nat) (assignments : List (List Char × List WordPart))
      (words : List (List WordPart)) (redirections : List Redirection)
  /-- Commands, each of which reads what the one before it prints. -/
  | pipeline (negated : Bool) (commands : List Command)
  /-- A second command if the first succeeds. -/
  | both (first second : Command)
  /-- A second command if the first fails. -/
  | either (first second : Command)
  /-- A command that is run beside those that follow. -/
  | beside (command : Command)
  /-- Commands in a row. -/
  | group (commands : List Command)
  /-- Commands in a row that leave no trace but their output. -/
  | subshell (commands : List Command)
  /-- A choice between commands. -/
  | conditional (condition body otherwise : List Command)
  /-- Commands that are repeated while a condition holds, or fails. -/
  | repetition (whileTrue : Bool) (condition body : List Command)
  /-- Commands for each of some words, or for each argument of the script. -/
  | each (name : List Char) (words : Option (List (List WordPart))) (body : List Command)
  /-- Commands for the first pattern that a word has. -/
  | selection (word : List WordPart) (branches : List (List (List WordPart) × List Command))
  /-- A name for a command. -/
  | definition (name : List Char) (body : Command)
  /-- A command with redirections. -/
  | redirected (command : Command) (redirections : List Redirection)

end

/-- A word. -/
abbrev Word := List WordPart

/-- A syntax error of a script and its line. -/
structure SyntaxError where
  /-- The line. -/
  line : Nat
  /-- What is wrong. -/
  reason : String
  deriving DecidableEq, Repr

end TemplateInspector.Shell
