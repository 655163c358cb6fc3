import TemplateInspector.Files.Tree
import TemplateInspector.Text.Bytes
import TemplateInspector.Text.Word

/-!
# Programs of the system

What a program of the system works on, and the steps that all of them take: to read files or the
input, to print, to complain, and to end. Texts are bytes, each taken for the character that it
numbers. What is printed and what is complained about keep their order.
-/

namespace TemplateInspector.Utility

/-- What a program works on and leaves. -/
structure Job where
  /-- The environment. -/
  environment : List (List Char × List Char) := []
  /-- The files. -/
  files : FileTree
  /-- The working directory. -/
  directory : Place
  /-- The input that has not been read. -/
  input : List Char := []
  /-- Whether the input is a file, so that what was not used of it is left to others. -/
  inputIsFile : Bool := false
  /-- What was printed on which descriptor, last first. -/
  printed : List (Nat × List Char) := []
  /-- The exit status so far. -/
  status : Nat := 0
  /-- The microseconds that have gone by. -/
  elapsed : Nat := 0

/-- A program at work. -/
structure Process extends Job where
  /-- The name under which it was started. -/
  title : List Char
  /-- Runs another program with its arguments, of which the first is its name. -/
  start : List (List Char) → Job → Except FileError Job

/-- What a program does. It may end at any time. -/
abbrev Act := ExceptT Unit (StateM Process)

/-- Prints a text. -/
def print (text : List Char) : Act Unit :=
  modify fun p => { p with printed := (1, text) :: p.printed }

/-- Prints a line. -/
def printLine (text : List Char) : Act Unit :=
  print (text ++ ['\n'])

/-- Runs another program on some input, in an environment. What it prints is kept apart from what
was printed before. Yields what it prints and its exit status; its complaints are passed on. -/
def runProgram (arguments : List (List Char)) (input : List Char) :
    Act (Except FileError (List Char × Nat)) := do
  let p ← get
  match p.start arguments
      { p.toJob with input, inputIsFile := false, printed := [], status := 0 } with
  | .error error => return .error error
  | .ok job =>
    let (output, complaints) := job.printed.partition fun piece => piece.1 == 1
    set { p with
      files := job.files, printed := complaints ++ p.printed, elapsed := job.elapsed }
    return .ok (output.reverse.flatMap Prod.snd, job.status)

/-- Runs another program in the place of this one for a while, in an environment. Yields its exit
status. -/
def passTo (arguments : List (List Char)) (environment : List (List Char × List Char)) :
    Act (Except FileError Nat) := do
  let p ← get
  match p.start arguments { p.toJob with environment, status := 0 } with
  | .error error => return .error error
  | .ok job =>
    set { p with toJob := { job with status := p.status, environment := p.environment } }
    return .ok job.status

/-- Sets the exit status. -/
def setStatus (status : Nat) : Act Unit :=
  modify fun p => { p with status }

/-- Writes a text beside the output. -/
def note (text : List Char) : Act Unit :=
  modify fun p => { p with printed := (2, text) :: p.printed }

/-- Complains in a line that begins with the name of the program. -/
def complain (reason : List Char) : Act Unit := do
  note ((← get).title ++ ": ".toList ++ reason ++ ['\n'])

/-- Complains, and goes on towards a status. -/
def complainWith (status : Nat) (reason : List Char) : Act Unit := do
  complain reason
  setStatus status

/-- Ends with a status. -/
def finish (status : Nat) : Act α := do
  setStatus status
  throw ()

/-- Complains and ends. -/
def fail (status : Nat) (reason : List Char) : Act α := do
  complain reason
  finish status

/-- A text between quotes, as complaints have it. -/
def quoted (text : List Char) : List Char :=
  '\'' :: (text.flatMap fun c =>
    if c = '\'' || c = '\\' then ['\\', c] else (Text.wordEscape? c).getD [c]) ++ ['\'']

/-- The name of a file between quotes, as complaints have it. -/
def quotedName (path : List Char) : List Char :=
  Text.quoteWord true path

/-- The line that tells where to find help. -/
def hintLine (title : List Char) : List Char :=
  "Try '".toList ++ title ++ " --help' for more information.\n".toList

/-- The lines that tell how the arguments of a program are to be given. -/
def usageLines (title : List Char) (usage : String) : List Char :=
  let name := (title.reverse.takeWhile (· ≠ '/')).reverse
  "Usage: ".toList ++ name ++ ' ' :: usage.toList ++ '\n' :: hintLine name

/-- Ends after a complaint about the arguments. -/
def refuse (status : Nat) (reason : List Char) : Act α := do
  complain reason
  note (hintLine (← get).title)
  finish status

/-- What went wrong with a file, as bytes. -/
def reasonOf (error : FileError) : List Char :=
  Text.bytesOf error.reason

/-- Whether a path stands for the input. -/
def isInput (path : List Char) : Bool :=
  path = ['-'] || path = "/dev/stdin".toList || path = "/dev/fd/0".toList

/-- Takes all input. -/
def takeInput : Act (List Char) := do
  let text := (← get).input
  modify fun p => { p with input := [] }
  return text

/-- The text of a file, or what is left of the input. -/
def readSource (path : List Char) : Act (Except FileError (List Char)) := do
  if isInput path then return .ok (← takeInput)
  else
    let p ← get
    return (p.files.read p.directory (Text.shown path)).map Text.ofBytes

/-- The texts of files with their paths; the input if no file is named. A file that cannot be read
is a complaint in the given words. -/
def readSources (paths : List (List Char)) (status : Nat)
    (reason : List Char → FileError → List Char) : Act (List (List Char × List Char)) := do
  let sources ← (if paths.isEmpty then [['-']] else paths).mapM fun path => do
    match ← readSource path with
    | .ok text => return some (path, text)
    | .error error =>
      complainWith status (reason path error)
      return none
  return sources.filterMap id

/-- A complaint that names a file as it stands and what went wrong with it. -/
def plainReason (path : List Char) (error : FileError) : List Char :=
  path ++ ": ".toList ++ reasonOf error

/-- A complaint that names a file, between quotes if need be, and what went wrong with it. -/
def nameReason (path : List Char) (error : FileError) : List Char :=
  Text.quoteWord false path ++ ": ".toList ++ reasonOf error

/-- A complaint about a file that cannot be opened. -/
def openReason (path : List Char) (error : FileError) : List Char :=
  "cannot open ".toList ++ quotedName path ++ " for reading: ".toList ++ reasonOf error

/-- The descriptor that a path stands for, if it is one of those for output. -/
def outputAt? (path : List Char) : Option Nat :=
  match String.ofList path with
  | "/dev/stdout" | "/dev/fd/1" => some 1
  | "/dev/stderr" | "/dev/fd/2" => some 2
  | _ => none

/-- Writes a file. -/
def writeFile (path text : List Char) : Act (Except FileError Unit) := do
  if let some descriptor := outputAt? path then
    modify fun p => { p with printed := (descriptor, text) :: p.printed }
    return .ok ()
  let p ← get
  match p.files.write p.directory (Text.shown path) (Text.toBytes text) with
  | .ok files =>
    set { p with files }
    return .ok ()
  | .error error => return .error error

/-- Divides a text after its first line end. -/
def splitLine (text : List Char) : List Char × List Char :=
  let line := text.takeWhile (· ≠ '\n')
  let rest := text.drop line.length
  (line ++ rest.take 1, rest.drop 1)

/-- The lines of a text with their ends; only the last may lack one. `fuel` bounds their number. -/
def linesWithEnds : Nat → List Char → List (List Char)
  | 0, _ | _, [] => []
  | fuel + 1, text => (splitLine text).1 :: linesWithEnds fuel (splitLine text).2

/-- The lines of a text with their ends; only the last may lack one. -/
def fullLines (text : List Char) : List (List Char) :=
  linesWithEnds text.length text

/-- The lines of a text with their ends, which are a given character. -/
def linesEndedBy (lineEnd : Char) : List Char → List (List Char)
  | [] => []
  | c :: rest =>
    if c = lineEnd then [c] :: linesEndedBy lineEnd rest
    else match linesEndedBy lineEnd rest with
      | [] => [[c]]
      | line :: lines => (c :: line) :: lines

/-- A line without its end. -/
def dropEnd (line : List Char) : List Char :=
  if line.getLast? = some '\n' then line.dropLast else line

/-- The lines of a text without their ends. -/
def bareLines (text : List Char) : List (List Char) :=
  (fullLines text).map dropEnd

/-- A line with its end, which is added if it lacks one. -/
def withEnd (line : List Char) : List Char :=
  dropEnd line ++ ['\n']

/-- The number that digits write. -/
def valueOf (digits : List Char) : Nat :=
  digits.foldl (fun n c => 10 * n + (c.toNat - '0'.toNat)) 0

/-- The number that a text of digits writes. -/
def natural? (text : List Char) : Option Nat :=
  if text.isEmpty || !text.all Char.isDigit then none else some (valueOf text)

/-- The digits of a number. -/
def digitsOf (n : Nat) : List Char :=
  Nat.toDigits 10 n

/-- The digits of a number with a sign. -/
def decimalOf (n : Int) : List Char :=
  if n < 0 then '-' :: digitsOf n.natAbs else digitsOf n.natAbs

/-- A text with blanks before it up to a width. -/
def padLeft (width : Nat) (text : List Char) : List Char :=
  List.replicate (width - text.length) ' ' ++ text

/-- A text with blanks behind it up to a width. -/
def padRight (width : Nat) (text : List Char) : List Char :=
  text ++ List.replicate (width - text.length) ' '

end TemplateInspector.Utility
