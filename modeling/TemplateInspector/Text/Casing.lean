import TemplateInspector.Text.Letter
import TemplateInspector.Text.LetterCase

/-!
# Identifiers in a given casing

A name is divided into words at every character that is neither letter nor digit, where a lowercase
letter meets an uppercase one, and before the last of several uppercase letters that a lowercase one
follows. The words are then written in one of three casings.
-/

namespace TemplateInspector.Text

/-- The case of the part of a word that has been read. -/
inductive WordCase
  | boundary
  | lowercase
  | uppercase
  deriving DecidableEq, Repr

/-- The case of a word after one more character. A character without case keeps it. -/
def WordCase.next (mode : WordCase) (c : Char) : WordCase :=
  if isLowercase c then .lowercase else if isUppercase c then .uppercase else mode

/-- The words of one alphanumeric piece. `run` is the reversed start of the current word. -/
def pieceWords (mode : WordCase) (run : List Char) : List Char → List (List Char)
  | [] => if run.isEmpty then [] else [run.reverse]
  | [c] => [(c :: run).reverse]
  | c :: d :: rest =>
    let next := mode.next c
    if next = .lowercase && isUppercase d then
      (c :: run).reverse :: pieceWords .boundary [] (d :: rest)
    else if mode = .uppercase && isUppercase c && isLowercase d then
      (if run.isEmpty then [] else [run.reverse]) ++ pieceWords .boundary [c] (d :: rest)
    else
      pieceWords next (c :: run) (d :: rest)

/-- The maximal alphanumeric pieces of some characters. `run` is the reversed current piece. -/
def alphanumericPieces (run : List Char) : List Char → List (List Char)
  | [] => if run.isEmpty then [] else [run.reverse]
  | c :: rest =>
    if isAlphanumeric c then alphanumericPieces (c :: run) rest
    else if run.isEmpty then alphanumericPieces [] rest
    else run.reverse :: alphanumericPieces [] rest

/-- The words of a name. -/
def nameWords (name : String) : List (List Char) :=
  (alphanumericPieces [] name.toList).flatMap (pieceWords .boundary [])

/-- A word in lowercase. A capital sigma that ends the word takes its final form. -/
def lowerWord : List Char → List Char
  | [] => []
  | [c] => if c = 'Σ' then ['ς'] else lower c
  | c :: d :: rest => lower c ++ lowerWord (d :: rest)

/-- A word with its first letter in uppercase and the others in lowercase. -/
def capitalWord : List Char → List Char
  | [] => []
  | c :: rest => raise c ++ lowerWord rest

/-- The words of a name in lowercase, joined with low lines: `method_name`. -/
def snakeCase (name : String) : String :=
  String.ofList (List.intercalate ['_'] ((nameWords name).map lowerWord))

/-- The words of a name with capitals, joined without separator: `TypeName`. -/
def upperCamelCase (name : String) : String :=
  String.ofList ((nameWords name).flatMap capitalWord)

/-- As `upperCamelCase`, with the first word in lowercase: `methodName`. -/
def lowerCamelCase (name : String) : String :=
  String.ofList <| match nameWords name with
    | [] => []
    | first :: others => lowerWord first ++ others.flatMap capitalWord

end TemplateInspector.Text
