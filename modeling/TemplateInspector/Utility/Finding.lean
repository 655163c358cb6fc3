import TemplateInspector.Regex.Reader
import TemplateInspector.Shell.Pattern
import TemplateInspector.Utility.Places

/-!
# Finding files

Paths are named, and whatever lies below them is looked at, each directory before what is in it or
after it. For each path an expression is evaluated: its terms ask something of the path or do
something with it, and each is true or false.
-/

namespace TemplateInspector.Utility

/-- A path that is looked at. -/
structure FoundPath where
  /-- The path. -/
  path : List Char
  /-- The path that was named, below which it lies. -/
  start : List Char
  /-- How many steps below it. -/
  depth : Nat
  /-- The place to which the path leads. -/
  place : Place
  /-- What is there. -/
  node : FileNode

/-- A number that another one has to exceed, to stay below or to equal. -/
structure NumberTest where
  /-- How the other number compares with this one. -/
  order : Ordering
  /-- The number. -/
  number : Nat

/-- Whether a number passes. -/
def NumberTest.holds (test : NumberTest) (n : Nat) : Bool :=
  compare n test.number == test.order

/-- An expression that is evaluated for paths. -/
inductive FindTerm
  /-- Always the same. -/
  | constant (value : Bool)
  /-- Whether the last segment has a pattern. -/
  | name (pattern : List Char) (foldCase : Bool)
  /-- Whether the path as a whole has a pattern. -/
  | path (pattern : List Char) (foldCase : Bool)
  /-- Whether a regular expression matches the path as a whole. -/
  | regex (pattern : Regex) (foldCase : Bool)
  /-- Whether what is there is of one of some kinds. -/
  | kind (letters : List Char)
  /-- Whether it is an empty file or directory. -/
  | empty
  /-- Whether it can be run or searched. -/
  | executable
  /-- Whether its size, counted in units, passes. -/
  | size (test : NumberTest) (unit : Nat)
  /-- Whether its age passes. All files are new. -/
  | age (test : NumberTest)
  /-- Prints the path and a character. -/
  | print (stop : Char)
  /-- Prints what a format tells. -/
  | printFormat (format : List Char)
  /-- Removes it. -/
  | delete
  /-- Does not go below it. -/
  | prune
  /-- Ends the search. -/
  | quit
  /-- Runs a program for it; true if that succeeds. -/
  | execute (command : List (List Char))
  /-- Runs a program at the end, for all paths at once. -/
  | gather (command : List (List Char))
  /-- The opposite. -/
  | negated (term : FindTerm)
  /-- Both; the second only if the first is true. -/
  | both (first second : FindTerm)
  /-- One of them; the second only if the first is false. -/
  | either (first second : FindTerm)
  /-- The first, and then the second, which counts. -/
  | sequence (first second : FindTerm)

/-- Whether a term does something with the path other than to go on or not. -/
def FindTerm.isActive : FindTerm → Bool
  | .print _ | .printFormat _ | .delete | .quit | .execute _ | .gather _ => true
  | .negated term => term.isActive
  | .both first second | .either first second | .sequence first second =>
    first.isActive || second.isActive
  | _ => false

/-! ## Reading -/

/-- What has been read of the arguments. -/
structure FindReading where
  /-- The arguments that are left. -/
  rest : List (List Char)
  /-- The least depth of the paths for which the expression is evaluated. -/
  least : Nat := 0
  /-- The greatest depth of these paths. -/
  most : Nat := 64
  /-- Whether a directory comes after what is in it. -/
  isDeepFirst : Bool := false

/-- A step of reading. -/
abbrev FindReader := StateT FindReading Act

namespace FindReader

/-- Ends after a complaint. -/
def refuse (reason : String) (text : List Char) (rest : String) : FindReader α := do
  let refused : Act α := fail 1 (reason.toList ++ text ++ rest.toList)
  refused

/-- Takes the argument of a term. -/
def argument (name : List Char) : FindReader (List Char) := do
  match (← getThe FindReading).rest with
  | text :: rest =>
    modifyThe FindReading fun s => { s with rest }
    return text
  | [] => refuse "missing argument to \x60" name "'"

/-- Takes a number with a sign that tells how another one compares with it. -/
def numberTest (text : List Char) : Option NumberTest :=
  match text with
  | '+' :: digits => (natural? digits).map (⟨.gt, ·⟩)
  | '-' :: digits => (natural? digits).map (⟨.lt, ·⟩)
  | digits => (natural? digits).map (⟨.eq, ·⟩)

/-- Takes the argument of a term that is a number without a sign. -/
def depth (name : List Char) : FindReader Nat := do
  let text ← argument name
  match natural? text with
  | some n => return n
  | none =>
    refuse "Expected a positive decimal integer argument to "
      (name ++ ", but got ".toList ++ quoted text) ""

/-- Takes the argument of a term that is a number with a sign. -/
def signed (name : List Char) : FindReader NumberTest := do
  let text ← argument name
  match numberTest text with
  | some test => return test
  | none => refuse "invalid argument \x60" (text ++ "' to \x60".toList ++ name) "'"

/-- Takes the argument of a term that is a size with a unit. -/
def size (name : List Char) : FindReader FindTerm := do
  let text ← argument name
  let unit? : Option Nat := match text.getLast? with
    | some 'c' => some 1
    | some 'w' => some 2
    | some 'k' => some 1024
    | some 'M' => some (1024 * 1024)
    | some 'G' => some (1024 * 1024 * 1024)
    | some 'b' => some 512
    | some c => if c.isDigit then none else some 0
    | none => none
  match unit?, numberTest (if unit?.isSome then text.dropLast else text) with
  | some 0, _ => refuse "invalid -size type \x60" (text.drop (text.length - 1)) "'"
  | unit?, some test => return .size test (unit?.getD 512)
  | _, none => refuse "Invalid argument \x60" text "' to -size"

/-- Takes a command up to its end, which is a semicolon, or a plus sign behind two braces. -/
def command (name : List Char) : FindReader FindTerm := do
  let rest := (← getThe FindReading).rest
  let isEnd (i : Nat) : Bool :=
    rest[i]? = some [';'] ||
      (rest[i]? = some ['+'] && 0 < i && rest[i - 1]? = some ['\x7b', '\x7d'])
  match (List.range rest.length).find? isEnd with
  | none | some 0 => refuse "missing argument to \x60" name "'"
  | some i =>
    modifyThe FindReading fun s => { s with rest := rest.drop (i + 1) }
    if rest[i]? = some [';'] then return .execute (rest.take i)
    else return .gather (rest.take (i - 1))

/-- Reads a term whose name was taken. -/
def primary (name : List Char) : FindReader FindTerm := do
  let option (change : FindReading → FindReading) : FindReader FindTerm := do
    modifyThe FindReading change
    return .constant true
  let regex (foldCase : Bool) : FindReader FindTerm := do
    match Regex.read { extended := false } (← argument name) with
    | .ok (pattern, _) => return .regex pattern foldCase
    | .error error => refuse error.message [] ""
  match String.ofList name with
  | "-true" => return .constant true
  | "-false" => return .constant false
  | "-name" => return .name (← argument name) false
  | "-iname" => return .name (← argument name) true
  | "-path" | "-wholename" => return .path (← argument name) false
  | "-ipath" | "-iwholename" => return .path (← argument name) true
  | "-regex" => regex false
  | "-iregex" => regex true
  | "-type" | "-xtype" =>
    let letters ← argument name
    if letters.isEmpty then
      refuse "Arguments to " name " should contain at least one letter"
    if let some letter := letters.find? fun c => !"fdlbcps,".toList.contains c then
      refuse "Unknown argument to " (name ++ ": ".toList ++ [letter]) ""
    return .kind letters
  | "-empty" => return .empty
  | "-executable" => return .executable
  | "-readable" | "-writable" => return .constant true
  | "-user" | "-group" | "-uid" | "-gid" =>
    let owner ← argument name
    return .constant (owner = "root".toList || owner = ['0'])
  | "-size" => size name
  | "-mtime" | "-atime" | "-ctime" | "-mmin" | "-amin" | "-cmin" => return .age (← signed name)
  | "-newer" | "-anewer" | "-cnewer" =>
    let path ← argument name
    match ← (nodeAt path : Act _) with
    | .ok _ => return .constant false
    | .error error => refuse "" (quotedName path ++ ": ".toList ++ reasonOf error) ""
  | "-maxdepth" =>
    let most ← depth name
    option fun s => { s with most }
  | "-mindepth" =>
    let least ← depth name
    option fun s => { s with least }
  | "-depth" | "-d" => option fun s => { s with isDeepFirst := true }
  | "-mount" | "-xdev" | "-noleaf" | "-follow" | "-daystart" | "-warn" | "-nowarn" => option id
  | "-print" => return .print '\n'
  | "-print0" => return .print '\x00'
  | "-printf" => return .printFormat (← argument name)
  | "-delete" =>
    let _ ← option fun s => { s with isDeepFirst := true }
    return .delete
  | "-prune" => return .prune
  | "-quit" => return .quit
  | "-exec" | "-execdir" => command name
  | _ =>
    if name.head? = some '-' then refuse "unknown predicate \x60" name "'"
    else refuse "paths must precede expression: \x60" name "'"

/-- The ranks of operators between terms, from the loosest on. -/
def operators : List (List String) :=
  [[","], ["-o", "-or"], ["-a", "-and"]]

/-- Whether an argument is an operator between terms. -/
def isOperator (argument : List Char) : Bool :=
  operators.flatten.contains (String.ofList argument)

mutual

/-- Reads terms with operators of a rank and of tighter ones between them. `fuel` bounds the number
of steps. -/
def terms : Nat → List (List String) → FindReader FindTerm
  | 0, _ => return .constant true
  | fuel + 1, [] => single fuel
  | fuel + 1, words :: tighter => do
    more fuel words tighter (← terms fuel tighter)

/-- Reads what follows terms that were read. `fuel` bounds the number of steps. -/
def more : Nat → List String → List (List String) → FindTerm → FindReader FindTerm
  | 0, _, _, first => return first
  | fuel + 1, words, tighter, first => do
    match (← getThe FindReading).rest with
    | [] => return first
    | argument :: rest =>
      let isWritten := words.contains (String.ofList argument)
      let isImplied := words.contains "-a" && argument ≠ [')'] && !isOperator argument
      if !isWritten && !isImplied then return first
      if isWritten then
        modifyThe FindReading fun s => { s with rest }
        if rest.isEmpty then refuse "expected an expression after '" argument "'"
      let second ← terms fuel tighter
      more fuel words tighter
        (if words.contains "," then .sequence first second
          else if words.contains "-o" then .either first second
          else .both first second)

/-- Reads a term. `fuel` bounds the number of steps. -/
def single : Nat → FindReader FindTerm
  | 0 => return .constant true
  | fuel + 1 => do
    match (← getThe FindReading).rest with
    | [] => return .constant true
    | name :: rest =>
      if isOperator name then
        refuse "invalid expression; you have used a binary operator '" name
          "' with nothing before it."
      modifyThe FindReading fun s => { s with rest }
      if name = ['!'] || name = "-not".toList then
        if rest.isEmpty then refuse "expected an expression after '" name "'"
        return .negated (← single fuel)
      else if name = ['('] then
        if rest.head? = some [')'] then
          refuse "invalid expression; empty parentheses are not allowed." [] ""
        let inner ← terms fuel operators
        match (← getThe FindReading).rest with
        | [')'] :: rest =>
          modifyThe FindReading fun s => { s with rest }
          return inner
        | _ =>
          refuse
            "invalid expression; I was expecting to find a ')' somewhere but did not see one." [] ""
      else if name = [')'] then refuse "you have too many ')'" [] ""
      else primary name

end

/-- Reads the expression. What it finds is printed unless it does something of its own. -/
def expression : FindReader FindTerm := do
  let arguments := (← getThe FindReading).rest
  if arguments.isEmpty then return .print '\n'
  let term ← terms (8 * arguments.length + 8) operators
  if !(← getThe FindReading).rest.isEmpty then refuse "you have too many ')'" [] ""
  return if term.isActive then term else .both term (.print '\n')

end FindReader

/-! ## Evaluating -/

/-- What is known during a search. -/
structure FindState where
  /-- Whether nothing below the path is looked at. -/
  isPruned : Bool := false
  /-- The paths for the programs that run at the end. -/
  gathered : List (List (List Char) × List (List Char)) := []

/-- A step of a search. -/
abbrev FindM := StateT FindState Act

/-- A pattern whose brackets are negated by exclamation marks only, of one in which carets do it
too. -/
def withoutCarets : List Char → List Char
  | '[' :: '^' :: rest => '[' :: '!' :: withoutCarets rest
  | c :: rest => c :: withoutCarets rest
  | [] => []

/-- Whether a text has a pattern. -/
def hasFindPattern (pattern : List Char) (foldCase : Bool) (text : List Char) : Bool :=
  let cased (text : List Char) : List Char := if foldCase then text.map Char.toLower else text
  let marked := (withoutCarets (cased pattern)).map fun c => (c, false)
  Shell.hasPattern (Shell.patternItems (marked.length + 1) marked) (cased text)

namespace FoundPath

/-- The letter of the kind of what is there. -/
def kind (found : FoundPath) : Char :=
  match found.node with
  | .directory => 'd'
  | .file .. | .utility _ => 'f'
  | .sink => 'c'

/-- The number of bytes of what is there. -/
def size (found : FoundPath) : Nat :=
  (⟨found.path, found.place, found.node⟩ : ListEntry).size

/-- Whether it can be run or searched. -/
def isExecutable (found : FoundPath) : Bool :=
  match found.node with
  | .directory | .file _ true | .utility _ => true
  | _ => false

/-- What stands before the last segment of the path. -/
def parent (found : FoundPath) : List Char :=
  let before := (splitPath found.path).1
  if before.isEmpty then ['.'] else if dropSlashes before = [] then [] else dropSlashes before

/-- What a letter of a format stands for. -/
def property? (found : FoundPath) (letter : Char) : Option (List Char) :=
  match letter with
  | 'p' => some found.path
  | 'f' => some (lastSegment found.path)
  | 'h' => some found.parent
  | 'H' => some found.start
  | 'P' => some ((found.path.drop found.start.length).dropWhile (· = '/'))
  | 'd' => some (digitsOf found.depth)
  | 'y' | 'Y' => some [found.kind]
  | 's' => some (digitsOf found.size)
  | 'k' => some (digitsOf ((found.size + 4095) / 4096 * 4))
  | 'b' => some (digitsOf ((found.size + 4095) / 4096 * 8))
  | 'm' => some (if found.isExecutable then "755".toList else "644".toList)
  | 'u' | 'g' => some "root".toList
  | 'U' | 'G' => some ['0']
  | 'l' => some []
  | '%' => some ['%']
  | _ => none

/-- What a format prints. -/
def formatted (found : FoundPath) : List Char → List Char
  | '%' :: c :: rest => (found.property? c).getD ['%', c] ++ found.formatted rest
  | '\\' :: c :: rest =>
    let text : List Char := match c with
      | 'n' => ['\n']
      | 't' => ['\t']
      | '0' => ['\x00']
      | '\\' => ['\\']
      | c => ['\\', c]
    text ++ found.formatted rest
  | c :: rest => c :: found.formatted rest
  | [] => []

end FoundPath

/-- A command with a path in the place of two braces. -/
def commandFor (path : List Char) (command : List (List Char)) : List (List Char) :=
  command.map (fill path)
where
  /-- A text with a path in the place of two braces. -/
  fill (path : List Char) : List Char → List Char
    | '\x7b' :: '\x7d' :: rest => path ++ fill path rest
    | c :: rest => c :: fill path rest
    | [] => []

/-- Runs a command. Yields whether it succeeds. -/
def succeeds (command : List (List Char)) : Act Bool := do
  match ← passTo command (← get).environment with
  | .ok status => return status = 0
  | .error error =>
    complain (quotedName (command.headD []) ++ ": ".toList ++ reasonOf error)
    return false

/-- Removes what is at a path. Yields whether that could be done. -/
def deleteFound (found : FoundPath) : Act Bool := do
  if found.path = ['.'] then return true
  else if !((← get).files.namesAt found.place).isEmpty then
    complainWith 1 ("cannot delete ".toList ++ quotedName found.path ++
      ": Directory not empty".toList)
    return false
  else
    changeFiles (·.remove found.place)
    return true

/-- Runs the programs for which paths were gathered. -/
def runGathered : FindM Unit := do
  let gathered := (← getThe FindState).gathered
  let run : Act Unit := do
    for (command, paths) in gathered do
      if !(← succeeds (command ++ paths.reverse)) then setStatus 1
  run

/-- Evaluates a term for a path. -/
def FindTerm.eval (found : FoundPath) : FindTerm → FindM Bool
  | .constant value => return value
  | .name pattern foldCase => return hasFindPattern pattern foldCase (lastSegment found.path)
  | .path pattern foldCase => return hasFindPattern pattern foldCase found.path
  | .regex pattern foldCase =>
    return (pattern.ways found.path.toArray foldCase ⟨0, []⟩).any fun way =>
      way.position = found.path.length
  | .kind letters => return letters.contains found.kind
  | .empty => do
    let isBare := ((← getThe Process).files.namesAt found.place).isEmpty
    return match found.node with
      | .directory => isBare
      | .file bytes _ => bytes.size = 0
      | _ => false
  | .executable => return found.isExecutable
  | .size test unit => return test.holds ((found.size + unit - 1) / unit)
  | .age test => return test.holds 0
  | .print stop => do
    let printed : Act Unit := Utility.print (found.path ++ [stop])
    printed
    return true
  | .printFormat format => do
    let printed : Act Unit := Utility.print (found.formatted format)
    printed
    return true
  | .delete => (deleteFound found : Act Bool)
  | .prune => do
    modifyThe FindState fun s => { s with isPruned := true }
    return true
  | .quit => do
    runGathered
    let status := (← getThe Process).status
    (finish status : Act Bool)
  | .execute command => (succeeds (commandFor found.path command) : Act Bool)
  | .gather command => do
    modifyThe FindState fun s =>
      if s.gathered.any fun entry => entry.1 = command then
        { s with gathered := s.gathered.map fun entry =>
            if entry.1 = command then (command, found.path :: entry.2) else entry }
      else { s with gathered := s.gathered ++ [(command, [found.path])] }
    return true
  | .negated term => return !(← term.eval found)
  | .both first second => do
    if ← first.eval found then second.eval found else return false
  | .either first second => do
    if ← first.eval found then return true else second.eval found
  | .sequence first second => do
    let _ ← first.eval found
    second.eval found

/-- Evaluates a term for a path and for those below it. `fuel` bounds the depth. -/
def FindTerm.evalBelow (term : FindTerm) (reading : FindReading) : Nat → FoundPath → FindM Unit
  | 0, _ => return
  | fuel + 1, found => do
    modifyThe FindState fun s => { s with isPruned := false }
    let look : FindM Unit := do
      if reading.least ≤ found.depth then
        let _ ← term.eval found
    if !reading.isDeepFirst then look
    let isPruned := (← getThe FindState).isPruned
    let files := (← getThe Process).files
    if files.isDirectoryAt found.place && found.depth < reading.most && !isPruned then
      for name in files.namesAt found.place do
        let place := found.place ++ [name]
        if let some node := files.node? place then
          term.evalBelow reading fuel { found with
            path := joinPath found.path (Text.bytesOf name), depth := found.depth + 1, place, node }
    if reading.isDeepFirst then look

/-- Finds files and directories. -/
def find (arguments : List (List Char)) : Act Unit := do
  let isMode (argument : List Char) : Bool :=
    ["-H", "-L", "-P"].contains (String.ofList argument)
  let arguments := arguments.dropWhile isMode
  let isPath (argument : List Char) : Bool :=
    argument.head? ≠ some '-' && argument ≠ ['!'] && argument ≠ ['('] && argument ≠ [')'] &&
      argument ≠ [',']
  let paths := arguments.takeWhile isPath
  let (term, reading) ← FindReader.expression.run { rest := arguments.drop paths.length }
  let search : FindM Unit := do
    for path in if paths.isEmpty then [['.']] else paths do
      match ← (nodeAt path : Act _), ← (placeAt path : Act _) with
      | .error error, _ | _, .error error =>
        let refused : Act Unit := complainWith 1 (quotedName path ++ ": ".toList ++ reasonOf error)
        refused
      | .ok node, .ok place =>
        term.evalBelow reading 64 { path, start := path, depth := 0, place, node }
    runGathered
  let _ ← search.run {}

end TemplateInspector.Utility
