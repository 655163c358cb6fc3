import TemplateInspector.Utility.Options

/-!
# Programs for columns

Parts of lines are selected by the numbers of their bytes or fields, and the lines of several files
are put beside each other.
-/

namespace TemplateInspector.Utility

/-! ## Selected parts -/

/-- Numbers from a first to a last one, if there is a last one. -/
structure NumberRange where
  first : Nat
  last : Option Nat
  deriving DecidableEq, Repr

/-- Whether a number lies in a range. -/
def NumberRange.contains (range : NumberRange) (n : Nat) : Bool :=
  range.first ≤ n && range.last.all (n ≤ ·)

/-- Divides a text at characters of a class. There is one part more than there are such
characters. -/
def divideAt (isDivider : Char → Bool) : List Char → List (List Char)
  | [] => [[]]
  | c :: rest =>
    if isDivider c then [] :: divideAt isDivider rest
    else match divideAt isDivider rest with
      | part :: parts => (c :: part) :: parts
      | [] => [[c]]

/-- Reads a list of ranges of numbers. -/
def readRanges (text : List Char) (ofFields : Bool) : Act (List NumberRange) := do
  let number (digits : List Char) : Act Nat :=
    match natural? digits with
    | none => refuse 1 (("invalid " ++ (if ofFields then "field value " else
        "byte or character position ")).toList ++ quoted digits)
    | some 0 => refuse 1 ((if ofFields then "fields" else "byte/character positions") ++
        " are numbered from 1").toList
    | some n => pure n
  (divideAt (fun c => c = ',' || c = ' ' || c = '\t') text).mapM fun part => do
    let low := part.takeWhile (· ≠ '-')
    match part.drop low.length with
    | [] =>
      let n ← if low.isEmpty then number ['0'] else number low
      return ⟨n, some n⟩
    | _ :: high =>
      if low.isEmpty && high.isEmpty then
        refuse 1 "invalid range with no endpoint: -".toList
      let first ← if low.isEmpty then pure 1 else number low
      let last ← if high.isEmpty then pure none else some <$> number high
      if last.any (· < first) then refuse 1 "invalid decreasing range".toList
      return ⟨first, last⟩

/-- The options of `cut`. -/
def cutOptions : OptionTable where
  plain := "nsz"
  valued := "bcdf"
  long := [⟨"bytes", 'b', true⟩, ⟨"characters", 'c', true⟩, ⟨"delimiter", 'd', true⟩,
    ⟨"fields", 'f', true⟩, ⟨"only-delimited", 's', false⟩, ⟨"complement", 'C', false⟩,
    ⟨"output-delimiter", 'O', true⟩, ⟨"zero-terminated", 'z', false⟩]

/-- The numbered bytes of a line that are selected, with a text between those that are not next to
each other. -/
def cutBytes (isSelected : Nat → Bool) (between : List Char) (line : List Char) : List Char :=
  let selected := (line.zipIdx 1).filter fun entry => isSelected entry.2
  match selected with
  | [] => []
  | first :: others =>
    first.1 :: (selected.zip others).flatMap fun (before, entry) =>
      if before.2 + 1 = entry.2 then [entry.1] else between ++ [entry.1]

/-- Prints selected parts of lines. -/
def cut (arguments : List (List Char)) : Act Unit := do
  let a ← cutOptions.read arguments
  let lists := a.options.filter fun option => ['b', 'c', 'f'].contains option.1
  let (kind, list) ← match lists with
    | [] => refuse 1 "you must specify a list of bytes, characters, or fields".toList
    | [option] => pure option
    | _ => refuse 1 "only one list may be specified".toList
  let ofFields := kind = 'f'
  if (a.value? 'd').any (1 < ·.length) then
    refuse 1 "the delimiter must be a single character".toList
  if !ofFields && a.has 'd' then
    refuse 1 "an input delimiter may be specified only when operating on fields".toList
  if !ofFields && a.has 's' then
    refuse 1 ("suppressing non-delimited lines makes sense\n" ++
      "\tonly when operating on fields").toList
  let ranges ← readRanges list ofFields
  let isSelected (n : Nat) : Bool := (ranges.any (·.contains n)) != a.has 'C'
  let delimiter := ((a.value? 'd').getD ['\t']).headD '\x00'
  let sources ← readSources a.operands 1 nameReason
  for (_, text) in sources do
    for line in bareLines text do
      if ofFields then
        let fields := divideAt (· = delimiter) line
        if fields.length = 1 then
          if !a.has 's' then printLine line
        else
          let selected := (fields.zipIdx 1).filter fun entry => isSelected entry.2
          printLine (((a.value? 'O').getD [delimiter]).intercalate (selected.map Prod.fst))
      else printLine (cutBytes isSelected ((a.value? 'O').getD []) line)

/-! ## Lines beside each other -/

/-- The texts that a list of delimiters stands for. -/
def delimiterTexts : List Char → List (List Char)
  | '\\' :: 'n' :: rest => ['\n'] :: delimiterTexts rest
  | '\\' :: 't' :: rest => ['\t'] :: delimiterTexts rest
  | '\\' :: '0' :: rest => [] :: delimiterTexts rest
  | '\\' :: c :: rest => [c] :: delimiterTexts rest
  | c :: rest => [c] :: delimiterTexts rest
  | [] => []

/-- Texts with delimiters between them, which are used in turns. -/
def joinInTurns (delimiters : List (List Char)) (texts : List (List Char)) : List Char :=
  (texts.zipIdx.flatMap fun (text, i) =>
    if i = 0 then text else (delimiters.getD ((i - 1) % delimiters.length) []) ++ text)

/-- Every item whose number, divided by a count, leaves a given rest. -/
def everyNth (count index : Nat) (items : List α) : List α :=
  items.zipIdx.filterMap fun (item, i) => if i % count = index then some item else none

/-- The options of `paste`. -/
def pasteOptions : OptionTable where
  plain := "sz"
  valued := "d"
  long := [⟨"delimiters", 'd', true⟩, ⟨"serial", 's', false⟩]

/-- Prints the lines of files beside each other, or those of each file in one line. -/
def paste (arguments : List (List Char)) : Act Unit := do
  let a ← pasteOptions.read arguments
  let delimiters := delimiterTexts ((a.value? 'd').getD ['\t'])
  let delimiters := if delimiters.isEmpty then [[]] else delimiters
  let paths := if a.operands.isEmpty then [['-']] else a.operands
  if a.has 's' then
    for (_, text) in ← readSources paths 1 nameReason do
      printLine (joinInTurns delimiters (bareLines text))
  else
    let inputs := (paths.filter isInput).length
    let lines := bareLines (← if 0 < inputs then takeInput else pure [])
    let (columns, _) ← paths.foldlM (fun (columns, seen) path => do
      if isInput path then return (columns ++ [everyNth inputs seen lines], seen + 1)
      else match ← readSource path with
        | .ok text => return (columns ++ [bareLines text], seen)
        | .error error => fail 1 (nameReason path error)) ([], 0)
    let count := (columns.map List.length).foldl max 0
    for i in List.range count do
      printLine (joinInTurns delimiters (columns.map fun column => column.getD i []))

end TemplateInspector.Utility
