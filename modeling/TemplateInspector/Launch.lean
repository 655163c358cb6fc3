import TemplateInspector.Program

/-!
# Starting programs

A program is started with arguments, an environment and input, in a directory, and leaves a status,
output and complaints.
-/

namespace TemplateInspector

/-- How a program ended. -/
inductive ExitStatus
  /-- With a code. -/
  | code (number : Nat)
  /-- By a signal. -/
  | signal (number : Nat)
  deriving DecidableEq, Repr

namespace ExitStatus

/-- The signals that end a program: their numbers and their names. -/
def signals : List (Nat × String) :=
  [(1, "HUP"), (2, "INT"), (3, "QUIT"), (4, "ILL"), (5, "TRAP"), (6, "ABRT"), (7, "BUS"),
    (8, "FPE"), (9, "KILL"), (10, "USR1"), (11, "SEGV"), (12, "USR2"), (13, "PIPE"), (14, "ALRM"),
    (15, "TERM"), (16, "STKFLT"), (24, "XCPU"), (25, "XFSZ"), (26, "VTALRM"), (27, "PROF"),
    (29, "IO"), (30, "PWR"), (31, "SYS")]

/-- The name of a signal. -/
def signalName (number : Nat) : Option String :=
  (signals.lookup number).map ("SIG" ++ ·)

/-- Whether a program ended well. -/
def isSuccess (status : ExitStatus) : Bool :=
  status = .code 0

/-- The text that tells how a program ended. -/
def message : ExitStatus → String
  | .code number => "exit status: " ++ toString number
  | .signal number =>
    "signal: " ++ toString number ++
      match signalName number with
      | some name => " (" ++ name ++ ")"
      | none => ""

end ExitStatus

/-- What is to be started. -/
structure Launch where
  /-- The program. -/
  program : String
  /-- Its arguments. -/
  arguments : List String
  /-- The directory in which it runs. -/
  directory : String
  /-- What is added to its environment. -/
  environment : List (String × String)
  /-- Its input. -/
  input : String
  deriving DecidableEq, Repr

/-- Everything that is handed over as text and must not hold a null character. -/
def Launch.texts (launch : Launch) : List String :=
  launch.program :: launch.directory :: launch.arguments ++
    launch.environment.flatMap fun (name, value) => [name, value]

/-- What is run of a launch, once the program is found. -/
structure Execution where
  /-- The program of the system. -/
  program : Program
  /-- The place of the directory in which it runs. -/
  directory : Place
  /-- Its environment. -/
  environment : List (String × String)
  /-- Its input. -/
  input : String
  deriving DecidableEq, Repr

/-- What a program leaves. -/
structure Termination where
  /-- How it ended. -/
  status : ExitStatus
  /-- Its output. -/
  output : ByteArray
  /-- Its complaints. -/
  errors : ByteArray

end TemplateInspector
