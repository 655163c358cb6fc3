import TemplateInspector.Utility.Blocks
import TemplateInspector.Utility.Calendar
import TemplateInspector.Utility.Characters
import TemplateInspector.Utility.Comparing
import TemplateInspector.Utility.Copying
import TemplateInspector.Utility.Digest
import TemplateInspector.Utility.Dump
import TemplateInspector.Utility.Editing.Run
import TemplateInspector.Utility.Finding
import TemplateInspector.Utility.Joining
import TemplateInspector.Utility.Numbers
import TemplateInspector.Utility.Records.Run
import TemplateInspector.Utility.Running
import TemplateInspector.Utility.Searching
import TemplateInspector.Utility.Sorting

/-!
# The programs of the system by name

What scripts find on the search path, and what it does. The shells are found there too, but run
elsewhere.
-/

namespace TemplateInspector.Utility

/-- The programs by name. -/
def programs : List (String × (List (List Char) → Act Unit)) :=
  [("cat", cat), ("tee", tee), ("tac", tac), ("rev", rev), ("head", head), ("tail", tail),
    ("nl", nl), ("dd", dd), ("join", join), ("wc", wc), ("tr", tr), ("fold", fold),
    ("expand", expand), ("cut", cut), ("paste", paste), ("sort", sort), ("uniq", uniq),
    ("comm", comm), ("touch", touch), ("mkdir", mkdir), ("rmdir", rmdir), ("rm", rm), ("cp", cp),
    ("mv", mv), ("ln", ln), ("chmod", chmod), ("ls", ls), ("find", find), ("basename", basename),
    ("dirname", dirname), ("realpath", realpath), ("readlink", readlink), ("pwd", pwd),
    ("mktemp", mktemp), ("which", which), ("grep", grep),
    ("egrep", fun arguments => grep ("-E".toList :: arguments)),
    ("fgrep", fun arguments => grep ("-F".toList :: arguments)), ("sed", sed), ("awk", awk),
    ("mawk", awk), ("seq", seq), ("expr", expr), ("factor", factor), ("od", od), ("base64", base64),
    ("md5sum", printDigests digest128), ("sha1sum", printDigests digest160),
    ("sha224sum", printDigests digest224), ("sha256sum", printDigests digest256),
    ("sha384sum", printDigests digest384), ("sha512sum", printDigests digest512), ("cksum", cksum),
    ("sum", sum), ("cmp", cmp), ("diff", diff), ("env", env), ("printenv", printenv),
    ("xargs", xargs), ("timeout", timeout), ("nice", nice), ("nohup", runDetached),
    ("stdbuf", runDetached), ("echo", fun arguments => print (Shell.systemEcho arguments)),
    ("printf", printf), ("true", fun _ => return), ("false", fun _ => setStatus 1), ("yes", yes),
    ("sleep", sleep), ("uname", uname), ("arch", fun _ => printLine "x86_64".toList),
    ("id", printUser), ("whoami", fun _ => printLine "root".toList), ("stat", stat),
    ("test", testArguments), ("[", testArguments), ("sync", fun _ => return), ("date", date),
    ("unlink", unlink), ("truncate", truncate), ("groups", fun _ => printLine "root".toList),
    ("tty", fun _ => do
      printLine "not a tty".toList
      setStatus 1)]

/-- The names of the shells. -/
def shells : List String :=
  ["sh", "dash", "bash"]

/-- The programs that print only at their end, when all complaints have been written. -/
def latePrinters : List String :=
  ["sed", "awk", "mawk", "rev"]

/-- Runs a program of the system with its arguments, of which the first is the name under which it
is called. `start` runs other programs. -/
def run (name : String) (arguments : List (List Char)) (job : Job)
    (start : List (List Char) → Job → Except FileError Job) : Job :=
  match programs.lookup name with
  | none => job
  | some program =>
    let process : Process := { job with title := arguments.headD [], start }
    let job := ((program (arguments.drop 1)).run process).2.toJob
    if latePrinters.contains name then
      let (output, complaints) := job.printed.partition fun piece => piece.1 == 1
      { job with printed := output ++ complaints }
    else job

end TemplateInspector.Utility

namespace TemplateInspector.FileTree

/-- Adds the programs and devices of the system to a tree. -/
def withSystem (tree : FileTree) : FileTree :=
  let names := Utility.shells ++ Utility.programs.map Prod.fst
  let tree := names.foldl (fun tree name =>
    (tree.putBelow ["bin", name] (.utility name)).putBelow ["usr", "bin", name]
      (.utility name)) tree
  (tree.putBelow ["dev", "null"] .sink).putDirectories ["tmp"]

end TemplateInspector.FileTree
