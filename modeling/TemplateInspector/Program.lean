import TemplateInspector.Files.Tree
import TemplateInspector.Text.Bytes

/-!
# Programs

What is run when a file is started as a program: a program of the system, or the interpreter that
the first line of a script names.
-/

namespace TemplateInspector

/-- A program of the system with its arguments, of which the first is its name. -/
structure Program where
  /-- The program of the system. -/
  utility : String
  /-- The arguments. -/
  arguments : List (List Char)
  deriving DecidableEq, Repr

namespace Program

/-- The directories in which programs are searched. -/
def searchPath : String :=
  "/usr/local/sbin:/usr/local/bin:/usr/sbin:/usr/bin:/sbin:/bin"

/-- How many bytes of a script are looked at for its interpreter. -/
def interpreterBytes : Nat := 256

/-- Whether a character divides the first line of a script. -/
def isLineBlank (c : Char) : Bool :=
  c = ' ' || c = '\t'

/-- The interpreter that a text names, and what stands behind it as one argument. Both end at a null
character. -/
def interpreterIn (text : List Char) : List Char × Option (List Char) :=
  let name := text.takeWhile fun c => !isLineBlank c && c ≠ '\x00'
  let behind := text.drop name.length
  let argument := behind.dropWhile isLineBlank
  if behind.head? = some '\x00' || argument.isEmpty then (name, none)
  else (name, some (argument.takeWhile (· ≠ '\x00')))

/-- The interpreter that the first line of a script names, and an argument for it. Only the
beginning of a script is looked at, which null characters fill up; where no line ends in it, it is
enough that the name does. -/
def interpreterOf? (text : List Char) : Option (List Char × Option (List Char)) :=
  match text with
  | '#' :: '!' :: _ =>
    let trimmed (line : List Char) : List Char :=
      ((line.reverse.dropWhile isLineBlank).reverse).dropWhile isLineBlank
    let start := text.take interpreterBytes
    let line := start.takeWhile fun c => c ≠ '\n' && c ≠ '\x00'
    if start[line.length]? = some '\n' then
      let line := trimmed (line.drop 2)
      if line.isEmpty then none else some (interpreterIn line)
    else
      let start := start ++ List.replicate (interpreterBytes - start.length) '\x00'
      let named := (start.drop 2).dropWhile isLineBlank
      if named.any fun c => isLineBlank c || c = '\x00' then
        some (interpreterIn (trimmed (start.dropLast.drop 2)))
      else none
  | _ => none

/-- The greatest number of scripts that interpret each other. -/
def maxInterpreters : Nat := 5

/-- The program that starting a file under a name comes to. The first argument tells how many
scripts may interpret each other. -/
def ofFile (files : FileTree) (directory : Place) :
    Nat → String → List (List Char) → Except FileError Program
  | 0, path, _ => do
    match ← files.find directory path with
    | .utility _ | .file _ true => .error .tooManyLinks
    | .directory | .sink | .file _ false => .error .permissionDenied
  | scripts + 1, path, arguments => do
    match ← files.find directory path with
    | .utility utility => .ok ⟨utility, arguments⟩
    | .file bytes true =>
      match interpreterOf? (Text.ofBytes bytes) with
      | none => .error .unknownFormat
      | some (interpreter, argument) =>
        ofFile files directory scripts (Text.shown interpreter)
          (interpreter :: argument.toList ++ Text.bytesOf path :: arguments.drop 1)
    | .directory | .sink | .file _ false => .error .permissionDenied

/-- Starts a file under a name. -/
def start (files : FileTree) (directory : Place) (path : String) (arguments : List (List Char)) :
    Except FileError Program :=
  ofFile files directory (maxInterpreters + 1) path arguments

/-- The paths that a name without a slash stands for on a search path. -/
def candidates (searchPath : List Char) (name : String) : List String :=
  (Path.divide ':' searchPath).map fun directory => Path.join (Text.shown directory) name

/-- The first file of a name on a search path that can be run. A directory or a file of that name
that cannot is passed over, but it tells why nothing was found. -/
def search (files : FileTree) (directory : Place) (searchPath : List Char) (name : String) :
    Except FileError String :=
  let paths := candidates searchPath name
  let isProgram (path : String) : Bool :=
    match files.find directory path with
    | .ok (.utility _) | .ok (.file _ true) => true
    | _ => false
  match paths.find? isProgram with
  | some path => .ok path
  | none =>
    if paths.any fun path => (files.find directory path).isOk then .error .permissionDenied
    else .error .notFound

end Program

end TemplateInspector
