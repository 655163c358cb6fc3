import TemplateInspector.Launch
import TemplateInspector.Template.Verdict

/-!
# The machine

What the inspector and the engines of plugins work on: a tree of files, a working directory, a home
directory and the programs of the system. What these do is not settled here, nor is which templates
with tags are accepted; both come with the machine.

A program is started in a directory. A name with a slash is followed from that directory, not from
where the starter is; any other is searched among the programs of the system.
-/

namespace TemplateInspector

/-- The surroundings of the inspector. -/
structure Machine where
  /-- The files. -/
  files : FileTree := {}
  /-- The place of the working directory. -/
  directory : Place := []
  /-- The home directory, if one is known. -/
  home : Option String := none
  /-- The directories in which programs are searched. -/
  searchPath : String := Program.searchPath
  /-- How templates with tags are checked. If nothing is known of it, all are accepted. -/
  check : List Char → Template.Verdict := fun _ => .accepted
  /-- What the run of a program of the system leaves, and the files after it. If nothing is known of
  it, programs do nothing. -/
  execute : Execution → FileTree → Termination × FileTree :=
    fun _ files => (⟨.code 0, .empty, .empty⟩, files)

namespace Machine

/-- Whether a path leads to a directory. -/
def isDirectory (machine : Machine) (path : String) : Bool :=
  machine.files.isDirectory machine.directory path

/-- Whether a path leads to a file. -/
def isFile (machine : Machine) (path : String) : Bool :=
  machine.files.isFile machine.directory path

/-- The text of the file to which a path leads. -/
def readText (machine : Machine) (path : String) : Except FileError String :=
  machine.files.readText machine.directory path

/-- The names in the directory to which a path leads. -/
def names (machine : Machine) (path : String) : List String :=
  match machine.files.resolve machine.directory path with
  | .ok place => machine.files.namesAt place
  | .error _ => []

/-- Replaces the text of the file to which a path leads, or makes a file there. -/
def writeText (machine : Machine) (path text : String) : Except FileError Machine :=
  (machine.files.write machine.directory path text.toUTF8).map fun files => { machine with files }

/-- A path with `~/` at its beginning read as the home directory. -/
def expandHome (machine : Machine) (path : String) : String :=
  match path.toList, machine.home with
  | '~' :: '/' :: rest, some home => Path.join home (String.ofList rest)
  | _, _ => path

/-- The path under which the program of a launch is looked for, from the directory in which it is to
run. -/
def programPath (machine : Machine) (launch : Launch) (directory : Place) :
    Except FileError String :=
  if launch.program.toList.contains '/' then .ok launch.program
  else if launch.program = "" then .error .notFound
  else if FileTree.maxNameSize < launch.program.utf8ByteSize then .error .nameTooLong
  else Program.search machine.files directory machine.searchPath.toList launch.program

/-- The environment in which the program of a launch runs. -/
def environment (machine : Machine) (launch : Launch) : List (String × String) :=
  [("PATH", machine.searchPath)] ++ (machine.home.map fun home => ("HOME", home)).toList ++
    launch.environment

/-- Runs a program to its end. -/
def run (machine : Machine) (launch : Launch) : Except FileError (Termination × Machine) := do
  if launch.texts.any fun text => text.toList.contains '\x00' then .error .nullInArgument
  let directory ← machine.files.resolve machine.directory launch.directory
  match machine.files.node? directory with
  | some .directory => pure ()
  | some _ => .error .notDirectory
  | none => .error .notFound
  let path ← machine.programPath launch directory
  let program ← Program.start machine.files directory path
    ((launch.program :: launch.arguments).map Text.bytesOf)
  let (termination, files) := machine.execute
    ⟨program, directory, machine.environment launch, launch.input⟩ machine.files
  return (termination, { machine with files })

end Machine

end TemplateInspector
