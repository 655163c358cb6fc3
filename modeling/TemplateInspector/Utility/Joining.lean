import TemplateInspector.Utility.Columns
import TemplateInspector.Utility.Sorting

/-!
# Joining files

The lines of two sorted files are joined where they have the same key, which is a field of each.
Each line of the first file is joined with each of the second that has its key. Lines without such a
partner may be printed as well. That a file is not sorted is found out only once there was a line
without a partner.
-/

namespace TemplateInspector.Utility

/-- A field of what is printed. -/
inductive JoinedField
  /-- The key. -/
  | key
  /-- A field of a line of the first file or of the second. -/
  | field (isFirst : Bool) (index : Nat)

/-- How files are joined. -/
structure JoinRule where
  /-- The character that separates fields; none for runs of blanks. -/
  separator : Option Char
  /-- The field of the first file that is the key, counted from zero. -/
  firstKey : Nat
  /-- The field of the second file that is the key, counted from zero. -/
  secondKey : Nat
  /-- Whether the case of letters does not matter in keys. -/
  foldCase : Bool
  /-- What stands for a field that is empty or missing. -/
  filler : List Char
  /-- The fields that are printed; the key and then the others if none are told. -/
  fields : List JoinedField

namespace JoinRule

/-- The fields of a line. -/
def divide (rule : JoinRule) (line : List Char) : List (List Char) :=
  match rule.separator with
  | some separator => divideAt (· = separator) line
  | none => (divideAt isKeyBlank line).filter (· ≠ [])

/-- The key of a line. -/
def key (rule : JoinRule) (isFirst : Bool) (line : List Char) : List Char :=
  (rule.divide line).getD (if isFirst then rule.firstKey else rule.secondKey) []

/-- How the keys of two lines compare. -/
def compareKeys (rule : JoinRule) (one other : List Char) : Ordering :=
  if rule.foldCase then compareText (one.map Char.toUpper) (other.map Char.toUpper)
  else compareText one other

/-- The line for a pair of lines, of which one may be missing. -/
def joined (rule : JoinRule) (first second : Option (List Char)) : List Char :=
  let filled (text : List Char) : List Char := if text.isEmpty then rule.filler else text
  let fields (line : Option (List Char)) : List (List Char) := line.elim [] rule.divide
  let key := match first, second with
    | some line, _ => rule.key true line
    | none, some line => rule.key false line
    | none, none => []
  let others (index : Nat) (fields : List (List Char)) : List (List Char) :=
    (fields.eraseIdx index).map filled
  let texts := if rule.fields.isEmpty then
      filled key :: others rule.firstKey (fields first) ++ others rule.secondKey (fields second)
    else rule.fields.map fun
      | .key => filled key
      | .field isFirst index => filled ((fields (if isFirst then first else second)).getD index [])
  [rule.separator.getD ' '].intercalate texts

end JoinRule

/-- A file that is being joined. -/
structure JoinSource where
  /-- Its path. -/
  path : List Char
  /-- The lines that have not been read. -/
  rest : List (List Char)
  /-- The number of lines that were read. -/
  number : Nat := 0
  /-- The last line that was read. -/
  last : Option (List Char) := none
  /-- Whether it is known not to be sorted. -/
  isUnsorted : Bool := false

/-- What is known while files are joined. -/
structure Joining where
  /-- The first file. -/
  first : JoinSource
  /-- The second file. -/
  second : JoinSource
  /-- Whether there was a line without a partner. -/
  isUneven : Bool := false

/-- A step of joining. -/
abbrev JoinM := ReaderT JoinRule (StateT Joining Act)

namespace JoinM

/-- Reads a line of a file. -/
def next (isFirst : Bool) : JoinM (Option (List Char)) := do
  let s ← getThe Joining
  let rule ← read
  let source := if isFirst then s.first else s.second
  match source.rest with
  | [] => return none
  | line :: rest =>
    let isLess := source.last.any fun last =>
      rule.compareKeys (rule.key isFirst last) (rule.key isFirst line) = .gt
    let isBad := s.isUneven && !source.isUnsorted && isLess
    let number := source.number + 1
    if isBad then
      let complained : Act Unit := complain (source.path ++ ':' :: digitsOf number ++
        ": is not sorted: ".toList ++ line)
      complained
    let source := { source with
      rest, number, last := some line, isUnsorted := source.isUnsorted || isBad }
    modifyThe Joining fun s =>
      if isFirst then { s with first := source } else { s with second := source }
    return some line

/-- Reads the lines of a file whose keys are like one. Yields them, and the line behind them.
`fuel` bounds their number. -/
def group (isFirst : Bool) (key : List Char) : Nat → JoinM (List (List Char) × Option (List Char))
  | 0 => return ([], none)
  | fuel + 1 => do
    match ← next isFirst with
    | none => return ([], none)
    | some line =>
      let rule ← read
      if rule.compareKeys (rule.key isFirst line) key = .eq then
        let (lines, behind) ← group isFirst key fuel
        return (line :: lines, behind)
      else return ([], some line)

/-- Prints the line for a pair of lines. -/
def put (first second : Option (List Char)) : JoinM Unit := do
  let rule ← read
  let printed : Act Unit := printLine (rule.joined first second)
  printed

/-- Marks that a line has no partner. -/
def markUneven : JoinM Unit :=
  modifyThe Joining fun s => { s with isUneven := true }

/-- Reads what is left of a file, whose lines have no partner. `fuel` bounds the number of lines. -/
def drain (isFirst isShown : Bool) : Nat → Option (List Char) → JoinM Unit
  | 0, _ | _, none => return
  | fuel + 1, some line => do
    if isShown then if isFirst then put (some line) none else put none (some line)
    drain isFirst isShown fuel (← next isFirst)

/-- Joins files, of each of which a line was read. `shows` tells for each file whether lines without
a partner are printed, and `showsPairs` whether the others are. `fuel` bounds the number of
lines. -/
def run (shows : Bool → Bool) (showsPairs : Bool) :
    Nat → Option (List Char) → Option (List Char) → JoinM Unit
  | 0, _, _ => return
  | fuel + 1, some one, some other => do
    let rule ← read
    let key := rule.key true one
    match rule.compareKeys key (rule.key false other) with
    | .lt =>
      if shows true then put (some one) none
      let one ← next true
      markUneven
      run shows showsPairs fuel one (some other)
    | .gt =>
      if shows false then put none (some other)
      let other ← next false
      markUneven
      run shows showsPairs fuel (some one) other
    | .eq =>
      let (ones, behindOne) ← group true (rule.key false other) fuel
      let (others, behindOther) ← group false key fuel
      if showsPairs then
        for one in one :: ones do
          for other in other :: others do put (some one) (some other)
      run shows showsPairs fuel behindOne behindOther
  | fuel + 1, one, other => do
    if one.isSome && other.isNone || one.isNone && other.isSome then
      drain true (shows true) fuel one
      drain false (shows false) fuel other

end JoinM

/-- Reads the number of a field. -/
def joinedIndex (text : List Char) : Act Nat := do
  match natural? text with
  | some (n + 1) => return n
  | _ => fail 1 ("invalid field number: ".toList ++ quoted text)

/-- Reads the number of a file and of a field of it; zero stands for the key. -/
def joinedField (text : List Char) : Act JoinedField := do
  match text with
  | ['0'] => return .key
  | '1' :: '.' :: index => return .field true (← joinedIndex index)
  | '2' :: '.' :: index => return .field false (← joinedIndex index)
  | c :: _ =>
    if c = '0' || c = '1' || c = '2' then
      fail 1 ("invalid field specifier: ".toList ++ quoted text)
    else fail 1 ("invalid file number in field spec: ".toList ++ quoted text)
  | [] => fail 1 ("invalid field specifier: ".toList ++ quoted text)

/-- The options of `join`. -/
def joinOptions : OptionTable where
  plain := "iz"
  valued := "12ajeotv"
  long := [⟨"ignore-case", 'i', false⟩, ⟨"check-order", '\x01', false⟩,
    ⟨"nocheck-order", '\x02', false⟩, ⟨"header", '\x03', false⟩]

/-- Joins the lines of two sorted files that have the same key. -/
def join (arguments : List (List Char)) : Act Unit := do
  let a ← joinOptions.read arguments
  let index (letter : Char) : Act Nat := do
    match a.value? letter <|> a.value? 'j' with
    | some text => joinedIndex text
    | none => return 0
  let separator ← match a.value? 't' with
    | none => pure none
    | some [c] => pure (some c)
    | some ['\\', '0'] => pure (some '\x00')
    | some [] => pure (some '\n')
    | some text => fail 1 ("multi-character tab ".toList ++ quoted text)
  let fields ← ((a.values 'o').flatMap fun text =>
    (divideAt (fun c => c = ',' || isKeyBlank c) text).filter (· ≠ [])).mapM joinedField
  let rule : JoinRule := {
    separator
    firstKey := ← index '1'
    secondKey := ← index '2'
    foldCase := a.has 'i'
    filler := (a.value? 'e').getD []
    fields }
  for letter in ['a', 'v'] do
    for text in a.values letter do
      if text ≠ ['1'] && text ≠ ['2'] then
        fail 1 ("invalid file number: ".toList ++ quoted text)
  match a.operands with
  | [first, second] =>
    let source (path : List Char) : Act JoinSource := do
      match ← readSource path with
      | .ok text => return { path, rest := bareLines text }
      | .error error => fail 1 (nameReason path error)
    let first ← source first
    let second ← source second
    let shows (isFirst : Bool) : Bool :=
      let number := if isFirst then ['1'] else ['2']
      (a.values 'a' ++ a.values 'v').contains number
    let fuel := first.rest.length + second.rest.length + 2
    let joining : JoinM Unit := do
      let one ← JoinM.next true
      let other ← JoinM.next false
      JoinM.run shows (!a.has 'v') fuel one other
    let (_, final) ← (ReaderT.run joining rule).run ({ first, second } : Joining)
    if final.first.isUnsorted || final.second.isUnsorted then
      fail 1 "input is not in sorted order".toList
  | [] => refuse 1 "missing operand".toList
  | [last] => refuse 1 ("missing operand after ".toList ++ quoted last)
  | _ :: _ :: extra :: _ => refuse 1 ("extra operand ".toList ++ quoted extra)

end TemplateInspector.Utility
