import TemplateInspector.Regex.Reader
import TemplateInspector.Utility.Places

/-!
# Programs that search lines

Lines are selected by patterns, of which a line has to match one. What is printed are the selected
lines, the parts of them that match, their number, or the names of the files that have any.
-/

namespace TemplateInspector.Utility

/-- What is searched for in lines. -/
structure LineSearch where
  /-- The patterns. -/
  patterns : List Regex
  /-- Whether the case of letters does not matter. -/
  foldCase : Bool
  /-- Whether a match has to be made of whole words. -/
  wholeWords : Bool
  /-- Whether a match has to be the whole line. -/
  wholeLine : Bool
  /-- Whether the lines without a match are selected. -/
  isInverse : Bool

namespace LineSearch

/-- The way in which a pattern matches at a position of a line, if it does. -/
def wayAt? (search : LineSearch) (text : Array Char) (position : Nat) (pattern : Regex) :
    Option Progress :=
  (pattern.ways text search.foldCase ⟨position, []⟩).find? fun way =>
    let isWord (c? : Option Char) : Bool := c?.any (CharSet.word.contains false)
    if search.wholeLine then position = 0 && way.position = text.size
    else !search.wholeWords ||
      !isWord (if position = 0 then none else text[position - 1]?) && !isWord text[way.position]?

/-- The end of the longest match at a position of a line. -/
def stopAt? (search : LineSearch) (line : Array Char) (position : Nat) : Option Nat :=
  ((search.patterns.filterMap (search.wayAt? line position)).map Progress.position).max?

/-- The first match from a position on, with its start and its end. `fuel` bounds the number of
positions that are tried. -/
def findFrom (search : LineSearch) (line : Array Char) : Nat → Nat → Option (Nat × Nat)
  | 0, _ => none
  | fuel + 1, position =>
    match search.stopAt? line position with
    | some stop => some (position, stop)
    | none => findFrom search line fuel (position + 1)

/-- Whether a line is selected. -/
def selects (search : LineSearch) (line : List Char) : Bool :=
  (search.findFrom line.toArray (line.length + 1) 0).isSome != search.isInverse

/-- The matches in a line that are not empty, with their positions. `fuel` bounds their number. -/
def matchesFrom (search : LineSearch) (line : Array Char) : Nat → Nat → List (Nat × List Char)
  | 0, _ => []
  | fuel + 1, position =>
    match search.findFrom line (line.size + 1 - position) position with
    | none => []
    | some (start, stop) =>
      if start = stop then matchesFrom search line fuel (stop + 1)
      else (start, (line.extract start stop).toList) :: matchesFrom search line fuel stop

end LineSearch

/-- How the arguments of `grep` are to be given. -/
def grepUsage : String := "[OPTION]... PATTERNS [FILE]..."

/-- The options of `grep`. -/
def grepOptions : OptionTable where
  plain := "EFGPcHhiLlnoqRrsVvwxyzabIUZTu0123456789"
  valued := "efmABCDd"
  optional := "\x01"
  long := [⟨"extended-regexp", 'E', false⟩, ⟨"fixed-strings", 'F', false⟩,
    ⟨"basic-regexp", 'G', false⟩, ⟨"regexp", 'e', true⟩, ⟨"file", 'f', true⟩,
    ⟨"ignore-case", 'i', false⟩, ⟨"invert-match", 'v', false⟩, ⟨"word-regexp", 'w', false⟩,
    ⟨"line-regexp", 'x', false⟩, ⟨"count", 'c', false⟩, ⟨"files-with-matches", 'l', false⟩,
    ⟨"files-without-match", 'L', false⟩, ⟨"max-count", 'm', true⟩, ⟨"only-matching", 'o', false⟩,
    ⟨"quiet", 'q', false⟩, ⟨"silent", 'q', false⟩, ⟨"no-messages", 's', false⟩,
    ⟨"byte-offset", 'b', false⟩, ⟨"with-filename", 'H', false⟩, ⟨"no-filename", 'h', false⟩,
    ⟨"line-number", 'n', false⟩, ⟨"after-context", 'A', true⟩, ⟨"before-context", 'B', true⟩,
    ⟨"context", 'C', true⟩, ⟨"text", 'a', false⟩, ⟨"null", 'Z', false⟩, ⟨"recursive", 'r', false⟩,
    ⟨"color", '\x01', false⟩, ⟨"colour", '\x01', false⟩, ⟨"line-buffered", '\x02', false⟩,
    ⟨"null-data", 'z', false⟩]
  status := 2
  usage := some grepUsage

/-- The regular expression of a text that stands for itself. -/
def literalRegex (text : List Char) : Regex :=
  text.foldl (fun r c => Regex.behind r (.one (.single c))) .empty

/-- What the options and a text of patterns, one on each line, search for. -/
def lineSearch (a : Arguments) (text : List Char) : Act LineSearch := do
  let kind := (a.last? ['E', 'F', 'G', 'P']).getD 'G'
  let dialect : RegexDialect := { extended := kind = 'E' || kind = 'P', hasDigits := kind = 'P' }
  let patterns ← (Path.divide '\n' text).mapM fun pattern => do
    if kind = 'F' then return literalRegex pattern
    else
      if pattern.take 2 = ['[', ':'] && pattern.reverse.take 2 = [']', ':'] &&
          4 < pattern.length then
        fail 2 "character class syntax is [[:space:]], not [:space:]".toList
      match Regex.readText dialect pattern with
      | .ok (r, final) =>
        for operator in final.loose.reverse do
          let shown := if operator = '\x7b' then "\x7b...\x7d".toList else [operator]
          complain ("warning: ".toList ++ shown ++ " at start of expression".toList)
        return r
      | .error error => fail 2 error.message.toList
  return {
    patterns
    foldCase := a.has 'i' || a.has 'y'
    wholeWords := a.has 'w'
    wholeLine := a.has 'x'
    isInverse := a.has 'v' }

/-- How the lines of a file are shown. -/
structure LineReport where
  /-- The name of the file, if it is shown. -/
  name : Option (List Char)
  /-- Whether lines have their numbers. -/
  showsNumber : Bool
  /-- Whether lines have the numbers of the bytes before them. -/
  showsOffset : Bool
  /-- Whether only what matches is shown. -/
  showsParts : Bool
  /-- The number of lines that are shown before a selected one. -/
  before : Nat
  /-- The number of lines that are shown after a selected one. -/
  after : Nat
  /-- The character that ends lines. -/
  lineEnd : Char

/-- A line with what stands before it. -/
def LineReport.line (report : LineReport) (mark : Char) (number offset : Nat) (line : List Char) :
    List Char :=
  (report.name.elim [] (· ++ [mark])) ++
    (if report.showsNumber then digitsOf number ++ [mark] else []) ++
    (if report.showsOffset then digitsOf offset ++ [mark] else []) ++ line ++
    [report.lineEnd]

/-- A line of a file. -/
structure NumberedLine where
  /-- The number of the line. -/
  number : Nat
  /-- The number of bytes before it. -/
  offset : Nat
  /-- The line without its end. -/
  text : List Char

/-- The lines of a text with their numbers. -/
def numberedLines (lineEnd : Char) (text : List Char) : List NumberedLine :=
  let bare (line : List Char) : List Char :=
    if line.getLast? = some lineEnd then line.dropLast else line
  let step (state : Nat × List NumberedLine) (entry : List Char × Nat) : Nat × List NumberedLine :=
    (state.1 + entry.1.length, ⟨entry.2 + 1, state.1, bare entry.1⟩ :: state.2)
  ((linesEndedBy lineEnd text).zipIdx.foldl step (0, [])).2.reverse

/-- What is printed of a file whose selected lines are known by their numbers. -/
def LineReport.lines (report : LineReport) (search : LineSearch) (lines : List NumberedLine)
    (selected : List Nat) : List Char :=
  let isNear (number : Nat) : Bool :=
    selected.any fun s => s ≤ number + report.before && number ≤ s + report.after
  let shown := lines.filter fun line => isNear line.number
  let hasContext := 0 < report.before + report.after
  let step (state : Option Nat × List (List Char)) (line : NumberedLine) :
      Option Nat × List (List Char) :=
    let gap : List Char :=
      if hasContext && state.1.any (· + 1 < line.number) then "--\n".toList else []
    let isSelected := selected.contains line.number
    let text :=
      if report.showsParts then
        if isSelected && !search.isInverse then
          (search.matchesFrom line.text.toArray (line.text.length + 1) 0).flatMap
            fun (start, part) => report.line ':' line.number (line.offset + start) part
        else []
      else report.line (if isSelected then ':' else '-') line.number line.offset line.text
    (some line.number, (gap ++ text) :: state.2)
  (shown.foldl step (none, [])).2.reverse.flatten

/-- The number of lines around those that are selected that options which are digits write. -/
def contextNumber? (a : Arguments) : Option Nat :=
  let digits := (a.options.map Prod.fst).filter Char.isDigit
  if digits.isEmpty then none else some (valueOf digits)

/-- The number of lines that an option gives. -/
def readContext (a : Arguments) (letter : Char) : Act (Option Nat) := do
  match a.value? letter with
  | none => return none
  | some text => match natural? text with
    | some n => return some n
    | none =>
      if letter = 'm' then fail 2 "invalid max count".toList
      else fail 2 (text ++ ": invalid context length argument".toList)

/-- The files below a directory, with their paths. `fuel` bounds the depth. -/
def filesBelow : Nat → List Char → Place → Act (List (List Char))
  | 0, _, _ => return []
  | fuel + 1, path, place => do
    let files := (← get).files
    if files.isDirectoryAt place then
      let found ← (files.namesAt place).mapM fun name =>
        filesBelow fuel (joinPath path (Text.bytesOf name)) (place ++ [name])
      return found.flatten
    else return [path]

/-- The paths that are searched: those that are named, or all files below them. -/
def searchedPaths (a : Arguments) (operands : List (List Char)) : Act (List (List Char)) := do
  if !(a.has 'r' || a.has 'R') then return if operands.isEmpty then [['-']] else operands
  else if operands.isEmpty then
    let found ← filesBelow 64 [] (← get).directory
    return found.map fun path => path.dropWhile (· = '/')
  else
    let found ← operands.mapM fun path => do
      match ← placeAt path with
      | .ok place => if ← leadsToDirectory path then filesBelow 64 path place else return [path]
      | .error _ => return [path]
    return found.flatten

/-- Searches a file and prints what is asked for. Yields whether a line was selected. -/
def searchFile (a : Arguments) (search : LineSearch) (report : LineReport) (most : Option Nat)
    (path text : List Char) : Act Bool := do
  let lines := numberedLines report.lineEnd text
  let selected := (lines.filter fun line => search.selects line.text).map NumberedLine.number
  let selected := match most with
    | some most => selected.take most
    | none => selected
  let shownName := if path = ['-'] then "(standard input)".toList else path
  let isFound := !selected.isEmpty
  if isInput path && most = some selected.length then
    modify fun p => if p.inputIsFile then
        let left := (linesEndedBy report.lineEnd text).drop (selected.getLast?.getD 0)
        { p with input := left.flatten }
      else p
  if a.has 'q' then
    if isFound then finish 0
  else if a.has 'L' then
    if !isFound then printLine shownName
  else if a.has 'l' then
    if isFound then printLine shownName
  else if a.has 'c' then
    printLine ((report.name.elim [] (· ++ [':'])) ++ digitsOf selected.length)
  else
    let lines := match most, selected.getLast? with
      | some most, some last =>
        if selected.length = most then
          let later := lines.filter fun line => last < line.number && search.selects line.text
          lines.filter fun line => later.head?.all fun next => line.number < next.number
        else lines
      | _, _ => lines
    if text.contains '\x00' && !a.has 'a' && !a.has 'z' then
      if isFound then
        printLine ((← get).title ++ ": ".toList ++ shownName ++ ": binary file matches".toList)
    else print (report.lines search lines selected)
  return isFound

/-- Searches files or the input for lines. -/
def grep (arguments : List (List Char)) : Act Unit := do
  let a ← grepOptions.read arguments
  let named ← (a.values 'f').mapM fun path => do
    match ← readSource path with
    | .ok text => return text
    | .error error => fail 2 (plainReason path error)
  let given := a.values 'e'
  let texts := given.map (· ++ ['\n']) ++ named.map fun text =>
    if text.isEmpty || text.getLast? = some '\n' then text else text ++ ['\n']
  let isGiven := a.has 'e' || a.has 'f'
  if !isGiven && a.operands.isEmpty then
    note (usageLines (← get).title grepUsage)
    finish 2
  let operands := if isGiven then a.operands else a.operands.drop 1
  let all := if isGiven then texts.flatten.dropLast else a.operands.headD []
  let search ← lineSearch a all
  let hasNone := isGiven && texts.flatten.isEmpty
  let search := if hasNone then { search with patterns := [] } else search
  let around ← readContext a 'C'
  let around := around.getD ((contextNumber? a).getD 0)
  let most ← readContext a 'm'
  let before ← readContext a 'B'
  let after ← readContext a 'A'
  let selectsNone := if hasNone then !a.has 'v'
    else a.has 'v' && all.isEmpty && !(a.has 'x' || a.has 'w')
  if (most = some 0 || selectsNone) && !a.has 'L' then finish 1
  let paths ← searchedPaths a operands
  let isRecursive := a.has 'r' || a.has 'R'
  let showsName := match a.last? ['H', 'h'] with
    | some letter => letter == 'H'
    | none => 1 < operands.length || isRecursive && paths ≠ operands
  let isFound ← paths.foldlM (fun isFound path => do
    let name := if path = ['-'] then "(standard input)".toList else path
    let report : LineReport := {
      name := if showsName then some name else none
      showsNumber := a.has 'n'
      showsOffset := a.has 'b'
      showsParts := a.has 'o'
      before := before.getD around
      after := after.getD around
      lineEnd := if a.has 'z' then '\x00' else '\n' }
    match ← readSource path with
    | .ok text => return (← searchFile a search report most path text) || isFound
    | .error error =>
      if !a.has 's' then complain (plainReason path error)
      setStatus 2
      return isFound) false
  if (← get).status = 0 && !isFound then setStatus 1

end TemplateInspector.Utility
