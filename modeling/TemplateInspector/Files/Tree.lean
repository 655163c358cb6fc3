import TemplateInspector.Files.Path

/-!
# File trees

A tree of files as programs see it. Places are named by the segments that lead to them from the
root. A path is followed step by step from a starting place; every place it passes through has to be
a directory, so that a path may fail although its text could be shortened to one that does not.
-/

namespace TemplateInspector

/-- Why an operation on files, or the start of a program, failed. -/
inductive FileError
  /-- A place is not there. -/
  | notFound
  /-- A program must not be run. -/
  | permissionDenied
  /-- A path leads through something that is no directory. -/
  | notDirectory
  /-- A directory was to be read or written. -/
  | isDirectory
  /-- A name or a path is too long. -/
  | nameTooLong
  /-- Programs are the interpreters of each other for too long. -/
  | tooManyLinks
  /-- A file is no program of any known format. -/
  | unknownFormat
  /-- A file is not text. -/
  | notText
  /-- A path holds a null character. -/
  | nullInPath
  /-- What a program is started with holds a null character. -/
  | nullInArgument
  deriving DecidableEq, Repr

namespace FileError

/-- The parts of a text that reports an error with a number of its own. -/
def numbered (text : String) (number : Nat) : List String :=
  [text, " (os error ", toString number, ")"]

/-- The text that reports a file error, in parts. -/
def parts : FileError → List String
  | notFound => numbered "No such file or directory" 2
  | permissionDenied => numbered "Permission denied" 13
  | notDirectory => numbered "Not a directory" 20
  | isDirectory => numbered "Is a directory" 21
  | nameTooLong => numbered "File name too long" 36
  | tooManyLinks => numbered "Too many levels of symbolic links" 40
  | unknownFormat => numbered "Exec format error" 8
  | notText => ["stream did not contain valid UTF-8"]
  | nullInPath => ["file name contained an unexpected NUL byte"]
  | nullInArgument => ["nul byte found in provided data"]

/-- What went wrong, without the number of the error. -/
def reason (error : FileError) : String :=
  error.parts.headD ""

/-- The text that reports a file error. -/
def message (error : FileError) : String :=
  String.join error.parts

end FileError

/-- The names that lead to a place from the root. -/
abbrev Place := List String

/-- The path that leads to a place from the root. -/
def Place.path (place : Place) : String :=
  "/" ++ "/".intercalate place

/-- What can be at a place. -/
inductive FileNode
  /-- A directory. -/
  | directory
  /-- A file with its bytes, which may be a program. -/
  | file (bytes : ByteArray) (executable : Bool)
  /-- A program of the system. -/
  | utility (name : String)
  /-- A device that holds nothing and takes everything. -/
  | sink

/-- What is at which place. The root is always a directory. -/
structure FileTree where
  /-- The places below the root that are taken. -/
  entries : List (Place × FileNode) := []

namespace FileTree

/-- What is at a place. -/
def node? (tree : FileTree) (place : Place) : Option FileNode :=
  if place.isEmpty then some .directory else tree.entries.lookup place

/-- Whether there is a directory at a place. -/
def isDirectoryAt (tree : FileTree) (place : Place) : Bool :=
  match tree.node? place with
  | some .directory => true
  | _ => false

/-- The greatest number of bytes of a name. -/
def maxNameSize : Nat := 255

/-- The greatest number of bytes of a path. -/
def maxPathSize : Nat := 4095

/-- The place to which segments lead. Only at the last of the places that are passed need nothing
be. -/
def walk (tree : FileTree) : Place → List String → Except FileError Place
  | place, [] => .ok place
  | place, segment :: segments =>
    match tree.node? place with
    | none => .error .notFound
    | some .directory =>
      if Path.isIdle segment then tree.walk place segments
      else if segment = ".." then tree.walk place.dropLast segments
      else if maxNameSize < segment.utf8ByteSize then .error .nameTooLong
      else tree.walk (place ++ [segment]) segments
    | some _ => .error .notDirectory

/-- The place to which a path leads from a starting place. -/
def resolve (tree : FileTree) (start : Place) (path : String) : Except FileError Place :=
  if path.toList.contains '\x00' then .error .nullInPath
  else if path = "" then .error .notFound
  else if maxPathSize < path.utf8ByteSize then .error .nameTooLong
  else tree.walk (if Path.isAbsolute path then [] else start) (Path.segments path)

/-- What a path leads to. -/
def find (tree : FileTree) (start : Place) (path : String) : Except FileError FileNode := do
  match tree.node? (← tree.resolve start path) with
  | some node => .ok node
  | none => .error .notFound

/-- Whether a path leads to a directory. -/
def isDirectory (tree : FileTree) (start : Place) (path : String) : Bool :=
  match tree.find start path with
  | .ok .directory => true
  | _ => false

/-- Whether a path leads to a file. -/
def isFile (tree : FileTree) (start : Place) (path : String) : Bool :=
  match tree.find start path with
  | .ok (.file ..) | .ok (.utility _) => true
  | _ => false

/-- The bytes of the file to which a path leads. -/
def read (tree : FileTree) (start : Place) (path : String) : Except FileError ByteArray := do
  match ← tree.find start path with
  | .file bytes _ => .ok bytes
  | .directory => .error .isDirectory
  | .utility _ | .sink => .ok .empty

/-- The text of the file to which a path leads. -/
def readText (tree : FileTree) (start : Place) (path : String) : Except FileError String := do
  match String.fromUTF8? (← tree.read start path) with
  | some text => .ok text
  | none => .error .notText

/-- The names in the directory at a place, in the order of their code points. -/
def namesAt (tree : FileTree) (place : Place) : List String :=
  (tree.entries.filterMap fun (other, _) =>
    if other.isEmpty || other.dropLast ≠ place then none else other.getLast?).mergeSort

/-- Puts something at a place. -/
def put (tree : FileTree) (place : Place) (node : FileNode) : FileTree :=
  { tree with entries := tree.entries.filter (fun entry => entry.1 ≠ place) ++ [(place, node)] }

/-- Makes a directory at a place, with all the directories that lead there. -/
def putDirectories (tree : FileTree) (place : Place) : FileTree :=
  (List.range (place.length + 1)).foldl (fun tree count =>
    let above := place.take count
    if (tree.node? above).isSome then tree else tree.put above .directory) tree

/-- Puts something at a place in a directory that is made if it is missing. -/
def putBelow (tree : FileTree) (place : Place) (node : FileNode) : FileTree :=
  (tree.putDirectories place.dropLast).put place node

/-- Removes what is at a place. -/
def remove (tree : FileTree) (place : Place) : FileTree :=
  { tree with entries := tree.entries.filter fun entry => entry.1 ≠ place }

/-- Removes what is at a place, with all that is below it. -/
def prune (tree : FileTree) (place : Place) : FileTree :=
  { tree with entries := tree.entries.filter fun entry => !place.isPrefixOf entry.1 }

/-- What is at a place and below it, each with the segments that lead there from the place. -/
def branch (tree : FileTree) (place : Place) : List (List String × FileNode) :=
  tree.entries.filterMap fun (other, node) =>
    if place.isPrefixOf other then some (other.drop place.length, node) else none

/-- Puts what was taken from one place to another place. -/
def graft (tree : FileTree) (place : Place) (branch : List (List String × FileNode)) : FileTree :=
  branch.foldl (fun tree (segments, node) => tree.put (place ++ segments) node) tree

/-- Replaces the bytes of the file to which a path leads, or makes a file there. A slash at the end
of the path asks for a directory, which cannot be written. -/
def write (tree : FileTree) (start : Place) (path : String) (bytes : ByteArray) :
    Except FileError FileTree := do
  let named := Path.dropEndSlashes path
  let place ← tree.resolve start (if named = "" then path else named)
  if named ≠ path then .error .isDirectory
  else match tree.node? place with
    | some .directory => .error .isDirectory
    | some (.file _ executable) => .ok (tree.put place (.file bytes executable))
    | some .sink => .ok tree
    | some (.utility _) => .error .permissionDenied
    | none => .ok (tree.put place (.file bytes false))

/-- The places that a path leads through from a starting place, if every segment leads on. -/
def route : Place → List String → List Place
  | place, [] => [place]
  | place, segment :: segments =>
    if Path.isIdle segment then route place segments
    else if segment = ".." then place :: route place.dropLast segments
    else place :: route (place ++ [segment]) segments

/-- The files that a tree has and another one has not, or not with the same bytes. -/
def changes (before after : FileTree) : List (Place × ByteArray) :=
  after.entries.filterMap fun (place, node) =>
    match node, before.node? place with
    | .file bytes _, some (.file old _) =>
      if bytes.data = old.data then none else some (place, bytes)
    | .file bytes _, _ => some (place, bytes)
    | _, _ => none

end FileTree

end TemplateInspector
