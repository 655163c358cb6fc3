import TemplateInspector.Utility.Options

/-!
# Programs that copy text

What they print are the lines or bytes of files or of the input, some of them, all of them,
numbered, or in another order.
-/

namespace TemplateInspector.Utility

/-! ## Copies with marks -/

/-- The marks that a copy gets. -/
structure CopyMarks where
  /-- Whether lines are numbered. -/
  numbers : Bool
  /-- Whether empty lines get no number. -/
  skipsEmpty : Bool
  /-- Whether only the first of empty lines in a row is copied. -/
  squeezes : Bool
  /-- Whether line ends are shown. -/
  showsEnds : Bool
  /-- Whether tabs are shown. -/
  showsTabs : Bool
  /-- Whether characters that cannot be printed are shown. -/
  showsOthers : Bool

/-- How a character that cannot be printed is shown. -/
def visible (c : Char) : List Char :=
  let ascii (code : Nat) : List Char :=
    if code < 0x20 then ['^', Char.ofNat (code + 0x40)]
    else if code = 0x7f then ['^', '?']
    else [Char.ofNat code]
  if c.toNat < 0x80 then ascii c.toNat else ['M', '-'] ++ ascii (c.toNat - 0x80)

/-- How far a marked copy has come. -/
structure CopyState where
  /-- The number of the last line that got one. -/
  number : Nat := 0
  /-- Whether a line begins here. -/
  atStart : Bool := true
  /-- Whether the last line was empty. -/
  wasEmpty : Bool := false

/-- Copies a line with marks. -/
def CopyMarks.line (marks : CopyMarks) (state : CopyState) (line : List Char) :
    List Char × CopyState :=
  let text := dropEnd line
  let isWhole := text.length < line.length
  let isEmpty := state.atStart && text.isEmpty && isWhole
  if isEmpty && marks.squeezes && state.wasEmpty then ([], state)
  else
    let isNumbered := marks.numbers && state.atStart && !(isEmpty && marks.skipsEmpty)
    let number := if isNumbered then state.number + 1 else state.number
    let shown := text.flatMap fun c =>
      if c = '\t' then if marks.showsTabs then ['^', 'I'] else [c]
      else if marks.showsOthers then visible c else [c]
    ((if isNumbered then padLeft 6 (digitsOf number) ++ ['\t'] else []) ++ shown ++
      (if isWhole then (if marks.showsEnds then ['$'] else []) ++ ['\n'] else []),
      ⟨number, isWhole, isEmpty⟩)

/-- The options of `cat`. -/
def catOptions : OptionTable where
  plain := "nbsvetAETu"
  long := [⟨"number", 'n', false⟩, ⟨"number-nonblank", 'b', false⟩, ⟨"squeeze-blank", 's', false⟩,
    ⟨"show-nonprinting", 'v', false⟩, ⟨"show-ends", 'E', false⟩, ⟨"show-tabs", 'T', false⟩,
    ⟨"show-all", 'A', false⟩]

/-- Prints files one after the other. -/
def cat (arguments : List (List Char)) : Act Unit := do
  let a ← catOptions.read arguments
  let any (letters : List Char) : Bool := letters.any a.has
  let marks : CopyMarks :=
    ⟨any ['n', 'b'], any ['b'], any ['s'], any ['e', 'A', 'E'], any ['t', 'A', 'T'],
      any ['v', 'e', 't', 'A']⟩
  let isPlain := !any ['n', 'b', 's', 'v', 'e', 't', 'A', 'E', 'T']
  let _ ← (if a.operands.isEmpty then [['-']] else a.operands).foldlM (fun state path => do
    match ← readSource path with
    | .error error =>
      complainWith 1 (nameReason path error)
      return state
    | .ok text =>
      if isPlain then
        print text
        return state
      else
        (fullLines text).foldlM (fun state line => do
          let (copy, state) := marks.line state line
          print copy
          return state) state) ({} : CopyState)

/-- The options of `tee`. -/
def teeOptions : OptionTable where
  plain := "aip"
  long := [⟨"append", 'a', false⟩, ⟨"ignore-interrupts", 'i', false⟩]

/-- Prints the input and writes it to files. -/
def tee (arguments : List (List Char)) : Act Unit := do
  let a ← teeOptions.read arguments
  let text ← takeInput
  let (streams, paths) := a.operands.partition fun path => (outputAt? path).isSome
  for path in paths do
    let p ← get
    let old := match p.files.read p.directory (Text.shown path) with
      | .ok bytes => Text.ofBytes bytes
      | .error _ => []
    if let .error error ← writeFile path (if a.has 'a' then old ++ text else text) then
      complainWith 1 (nameReason path error)
  print text
  for path in streams do
    let _ ← writeFile path text

/-! ## Other orders -/

/-- Prints the lines of files, the last first. -/
def tac (arguments : List (List Char)) : Act Unit := do
  let a ← ({ plain := "br", valued := "s" } : OptionTable).read arguments
  let sources ← readSources a.operands 1 fun path error =>
    if error = .isDirectory then path ++ ": read error: Invalid argument".toList
    else "failed to open ".toList ++ quotedName path ++ " for reading: ".toList ++ reasonOf error
  for (_, text) in sources do
    print (fullLines text).reverse.flatten

/-- Prints lines with their characters in the other order. -/
def rev (arguments : List (List Char)) : Act Unit := do
  let a ← ({ plain := "" } : OptionTable).read arguments
  let sources ← readSources a.operands 1 fun path error =>
    "cannot open ".toList ++ path ++ ": ".toList ++ reasonOf error
  for (_, text) in sources do
    for line in fullLines text do
      let characters := (Text.shown (dropEnd line)).toList
      print (Text.bytesOf (String.ofList characters.reverse) ++
        line.drop (dropEnd line).length)

/-! ## Parts of texts -/

/-- What a number of lines or bytes is counted from. -/
inductive Extent
  /-- The first ones. -/
  | first (count : Nat)
  /-- All but the last ones. -/
  | butLast (count : Nat)
  /-- The last ones. -/
  | last (count : Nat)
  /-- Those from a number on, which starts at one. -/
  | from_ (number : Nat)

/-- The items of a list in an extent. -/
def Extent.select (extent : Extent) (items : List α) : List α :=
  match extent with
  | first count => items.take count
  | butLast count => items.take (items.length - count)
  | last count => items.drop (items.length - count)
  | from_ number => items.drop (number - 1)

/-- The number that a text writes with a letter for its unit. -/
def measured? (text : List Char) : Option Nat :=
  let digits := text.takeWhile Char.isDigit
  let factor? : Option Nat := match String.ofList (text.drop digits.length) with
    | "" => some 1
    | "b" => some 512
    | "kB" => some 1000
    | "k" | "K" | "KiB" => some 1024
    | "MB" => some 1000000
    | "m" | "M" | "MiB" => some (1024 * 1024)
    | "GB" => some 1000000000
    | "G" | "GiB" => some (1024 * 1024 * 1024)
    | _ => none
  if digits.isEmpty then none else factor?.map (valueOf digits * ·)

/-- How many bytes are read at once. -/
def blockSize : Nat := 8192

/-- Takes what a program has used of the input. Of an input that is no file a program reads whole
blocks. -/
def useInput (count : Nat) : Act Unit :=
  modify fun p =>
    let count := if p.inputIsFile then count
      else (count + blockSize - 1) / blockSize * blockSize
    { p with input := p.input.drop count }

/-- The options of `head` and `tail`. -/
def partOptions : OptionTable where
  plain := "qvzfF"
  valued := "ncs"
  long := [⟨"lines", 'n', true⟩, ⟨"bytes", 'c', true⟩, ⟨"quiet", 'q', false⟩,
    ⟨"silent", 'q', false⟩, ⟨"verbose", 'v', false⟩, ⟨"zero-terminated", 'z', false⟩,
    ⟨"follow", 'f', false⟩]

/-- The heading of a part of a file among others. -/
def partHeading (isFirst : Bool) (path : List Char) : List Char :=
  (if isFirst then [] else ['\n']) ++ "==> ".toList ++
    (if path = ['-'] then "standard input".toList else path) ++ " <==\n".toList

/-- Prints a part of each of some files, with headings if there are several. Of the input no more is
used than has to be if `isLazy`. -/
def printParts (a : Arguments) (extent : Extent) (countsBytes isLazy : Bool) : Act Unit := do
  let paths := if a.operands.isEmpty then [['-']] else a.operands
  let isHeaded := match a.last? ['q', 'v'] with
    | some letter => letter == 'v'
    | none => 1 < paths.length
  let select (text : List Char) : List Char :=
    if countsBytes then extent.select text else (extent.select (fullLines text)).flatten
  let _ ← paths.foldlM (fun isFirst path => do
    let heading := if isHeaded then partHeading isFirst path else []
    if isInput path && isLazy then
      let part := select (← get).input
      print (heading ++ part)
      if countsBytes then modify fun p => { p with input := p.input.drop part.length }
      else useInput part.length
      return false
    else
      match ← readSource path with
      | .ok text =>
        print (heading ++ select text)
        return false
      | .error .isDirectory =>
        print heading
        complainWith 1 ("error reading ".toList ++ quotedName path ++ ": Is a directory".toList)
        return false
      | .error error =>
        complainWith 1 (openReason path error)
        return isFirst) true

/-- Complains about a number of lines or bytes. -/
def refuseCount (countsBytes : Bool) (text : List Char) : Act α :=
  fail 1 ("invalid number of ".toList ++ (if countsBytes then "bytes" else "lines").toList ++
    ": ".toList ++ quoted text)

/-- Prints the beginning of files. -/
def head (arguments : List (List Char)) : Act Unit := do
  let arguments ← match arguments with
    | ('-' :: c :: count) :: rest =>
      if !c.isDigit then pure arguments
      else
        let digits := (c :: count).takeWhile Char.isDigit
        match (c :: count).drop digits.length with
        | [] => pure (['-', 'n'] :: digits :: rest)
        | ['c'] => pure (['-', 'c'] :: digits :: rest)
        | ['k'] => pure (['-', 'c'] :: (digits ++ ['k']) :: rest)
        | ['q'] => pure (['-', 'q'] :: ['-', 'n'] :: digits :: rest)
        | ['v'] => pure (['-', 'v'] :: ['-', 'n'] :: digits :: rest)
        | other => refuse 1 ("invalid trailing option -- ".toList ++ other.take 1)
    | _ => pure arguments
  let a ← partOptions.read arguments
  let countsBytes := a.last? ['n', 'c'] = some 'c'
  let value := (a.value? (if countsBytes then 'c' else 'n')).getD ['1', '0']
  let (isButLast, number) := match value with
    | '-' :: number => (true, number)
    | '+' :: number | number => (false, number)
  match measured? number with
  | none => refuseCount countsBytes value
  | some count =>
    if isButLast then printParts a (.butLast count) countsBytes false
    else printParts a (.first count) countsBytes true

/-- Prints the end of files. -/
def tail (arguments : List (List Char)) : Act Unit := do
  let isShort (text : List Char) : Bool := !text.isEmpty && text.all Char.isDigit
  let arguments ← match arguments with
    | ('-' :: count) :: rest =>
      if !isShort count then pure arguments
      else if rest.length ≤ 1 then pure (['-', 'n'] :: count :: rest)
      else fail 1 ("option used in invalid context -- ".toList ++ count.take 1)
    | ('+' :: count) :: rest =>
      if isShort count && rest.length ≤ 1 then pure (['-', 'n'] :: ('+' :: count) :: rest)
      else pure arguments
    | _ => pure arguments
  let a ← partOptions.read arguments
  let countsBytes := a.last? ['n', 'c'] = some 'c'
  let value := (a.value? (if countsBytes then 'c' else 'n')).getD ['1', '0']
  let (isFrom, number) := match value with
    | '+' :: number => (true, number)
    | '-' :: number | number => (false, number)
  match measured? number with
  | none => refuseCount countsBytes number
  | some count =>
    printParts a (if isFrom then .from_ count else .last count) countsBytes false

/-! ## Numbers and counts -/

/-- The options of `nl`. -/
def nlOptions : OptionTable where
  plain := "p"
  valued := "bdfhilnsvw"

/-- Prints the lines of files with numbers. -/
def nl (arguments : List (List Char)) : Act Unit := do
  let a ← nlOptions.read arguments
  let number (letter : Char) (default : Nat) : Nat :=
    ((a.value? letter).bind natural?).getD default
  let width := number 'w' 6
  let separator := (a.value? 's').getD ['\t']
  let style := (a.value? 'b').getD ['t']
  let format := (a.value? 'n').getD ['r', 'n']
  if !([['a'], ['t'], ['n']].contains style) then
    refuse 1 ("invalid body numbering style: ".toList ++ quoted style)
  let sources ← readSources a.operands 1 nameReason
  let _ ← (sources.flatMap fun source => bareLines source.2).foldlM (fun next line => do
    if style = ['a'] || (style = ['t'] && !line.isEmpty) then
      let digits := digitsOf next
      let shown :=
        if format = ['l', 'n'] then padRight width digits
        else if format = ['r', 'z'] then List.replicate (width - digits.length) '0' ++ digits
        else padLeft width digits
      printLine (shown ++ separator ++ line)
      return next + number 'i' 1
    else
      printLine (List.replicate (width + separator.length) ' ' ++ line)
      return next) (number 'v' 1)

/-- The number of words of a text: runs without blanks in which some character can be printed. -/
def wordCount (isCounted : Bool) : List Char → Nat
  | [] => 0
  | c :: rest =>
    if c = ' ' || ('\t' ≤ c && c ≤ '\r') then wordCount false rest
    else if !isCounted && ' ' < c && c < '\x7f' then 1 + wordCount true rest
    else wordCount isCounted rest

/-- The width of the widest line of a text. -/
def widestLine (text : List Char) : Nat :=
  ((bareLines text).map fun line =>
    (line.foldl (fun width c =>
      if c = '\t' then width / 8 * 8 + 8
      else if ' ' ≤ c && c < '\x7f' then width + 1
      else width) 0)).foldl max 0

/-- What is counted in a text: lines, words, characters, bytes and the width of the widest line. -/
def countsOf (text : List Char) : List Nat :=
  [text.count '\n', wordCount false text, text.length, text.length, widestLine text]

/-- The options of `wc`. -/
def wcOptions : OptionTable where
  plain := "lwcmL"
  long := [⟨"lines", 'l', false⟩, ⟨"words", 'w', false⟩, ⟨"bytes", 'c', false⟩,
    ⟨"chars", 'm', false⟩, ⟨"max-line-length", 'L', false⟩]

/-- Counts lines, words and bytes. The counts of texts whose length is not known before take wide
columns. -/
def wc (arguments : List (List Char)) : Act Unit := do
  let a ← wcOptions.read arguments
  let letters := ['l', 'w', 'm', 'c', 'L'].filter a.has
  let letters := if letters.isEmpty then ['l', 'w', 'c'] else letters
  let p ← get
  let size (path : List Char) : Option Nat :=
    if isInput path then if p.inputIsFile then some p.input.length else none
    else (p.files.read p.directory (Text.shown path)).toOption.map ByteArray.size
  let paths := if a.operands.isEmpty then [['-']] else a.operands
  let isKnown := paths.all fun path =>
    (size path).isSome || (!isInput path && !p.files.isDirectory p.directory (Text.shown path))
  let width :=
    if letters.length = 1 && paths.length = 1 then 1
    else if isKnown then (digitsOf ((paths.filterMap size).foldl (· + ·) 0)).length
    else 7
  let line (counts : List Nat) (name : List Char) : List Char :=
    let shown := (['l', 'w', 'm', 'c', 'L'].zip counts).filterMap fun (letter, count) =>
      if letters.contains letter then some (padLeft width (digitsOf count)) else none
    [' '].intercalate (shown ++ if name.isEmpty then [] else [name])
  let totals ← paths.foldlM (fun (totals : List Nat) path => do
    let name := if a.operands.isEmpty then [] else path
    let counts ← match ← readSource path with
      | .ok text => do
        printLine (line (countsOf text) name)
        pure (countsOf text)
      | .error error => do
        complainWith 1 (nameReason path error)
        if error = .isDirectory then printLine (line [0, 0, 0, 0, 0] name)
        pure [0, 0, 0, 0, 0]
    return (totals.zip counts).zipIdx.map fun ((total, count), i) =>
      if i = 4 then max total count else total + count) [0, 0, 0, 0, 0]
  if 1 < paths.length then printLine (line totals "total".toList)

end TemplateInspector.Utility
