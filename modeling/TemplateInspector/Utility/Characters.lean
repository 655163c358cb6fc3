import TemplateInspector.Regex.Reader
import TemplateInspector.Utility.Options

/-!
# Programs for characters

Characters of the input are replaced, removed or squeezed, lines are broken where they grow too
wide, and tabs are replaced by blanks.
-/

namespace TemplateInspector.Utility

/-! ## Replacement -/

/-- An item of a set of characters. -/
inductive SetItem
  /-- Some characters in order. -/
  | chars (cs : List Char)
  /-- The characters of a class. -/
  | named (name : String) (cs : List Char)
  /-- A character so often that the set becomes as long as the other one. -/
  | filling (c : Char)

/-- Reads a character of a set, which may be written with a backslash. -/
def setChar? : List Char → Option (Char × List Char)
  | '\\' :: rest =>
    let octal := (rest.take 3).takeWhile fun c => '0' ≤ c && c ≤ '7'
    let code := octal.foldl (fun n c => 8 * n + (c.toNat - '0'.toNat)) 0
    if !octal.isEmpty then
      if code < 256 then some (Char.ofNat code, rest.drop octal.length)
      else some (Char.ofNat (code / 8), rest.drop 2)
    else match rest with
      | [] => some ('\\', [])
      | c :: rest =>
        let named := [('a', '\x07'), ('b', '\x08'), ('f', '\x0c'), ('n', '\n'), ('r', '\r'),
          ('t', '\t'), ('v', '\x0b')].lookup c
        some (named.getD c, rest)
  | c :: rest => some (c, rest)
  | [] => none

/-- The characters from one to another. -/
def charsBetween (low high : Char) : List Char :=
  (List.range (high.toNat + 1 - low.toNat)).map fun i => Char.ofNat (low.toNat + i)

/-- All characters that a byte numbers. -/
def allChars : List Char :=
  charsBetween '\x00' 'ÿ'

/-- The number of repetitions that a set asks for; none fills the set up. -/
def setCount? (digits : List Char) : Option (Option Nat) :=
  if !digits.all Char.isDigit then none
  else
    let base := if digits.head? = some '0' then 8 else 10
    let count := digits.foldl (fun n c => base * n + (c.toNat - '0'.toNat)) 0
    some (if count = 0 then none else some count)

/-- Reads the items of a set. `fuel` bounds their number. -/
def setItems : Nat → List Char → Act (List SetItem)
  | 0, _ => return []
  | fuel + 1, text => do
    let single : Act (List SetItem) := do
      match setChar? text with
      | none => return []
      | some (low, '-' :: rest) =>
        match setChar? rest with
        | none => return [.chars [low, '-']]
        | some (high, rest) =>
          if high < low then
            fail 1 ("range-endpoints of ".toList ++ quoted [low, '-', high] ++
              " are in reverse collating sequence order".toList)
          else return .chars (charsBetween low high) :: (← setItems fuel rest)
      | some (c, rest) => return .chars [c] :: (← setItems fuel rest)
    match text with
    | '[' :: ':' :: rest =>
      match Regex.markedName? ':' rest with
      | none => single
      | some (name, behind) =>
        match Regex.classRanges? (String.ofList name) with
        | none => fail 1 ("invalid character class ".toList ++ quoted name)
        | some ranges =>
          let set : CharSet := { ranges }
          return .named (String.ofList name) (allChars.filter (set.contains false)) ::
            (← setItems fuel behind)
    | '[' :: '=' :: c :: '=' :: ']' :: rest => return .chars [c] :: (← setItems fuel rest)
    | '[' :: rest =>
      match setChar? rest with
      | some (c, '*' :: more) =>
        let digits := more.takeWhile (· ≠ ']')
        match more.drop digits.length, setCount? digits with
        | _ :: behind, some (some count) =>
          return .chars (List.replicate count c) :: (← setItems fuel behind)
        | _ :: behind, some none => return .filling c :: (← setItems fuel behind)
        | _, _ => single
      | _ => single
    | _ => single

/-- The characters of a set that is to have a length. -/
def setChars (items : List SetItem) (length : Nat) : List Char :=
  let fixed (item : SetItem) : List Char :=
    match item with
    | .chars cs | .named _ cs => cs
    | .filling _ => []
  let missing := length - (items.flatMap fixed).length
  items.flatMap fun item =>
    match item with
    | .filling c => List.replicate missing c
    | item => fixed item

/-- A text without repetitions of characters of a set. -/
def squeeze (isSqueezed : Char → Bool) : Option Char → List Char → List Char
  | _, [] => []
  | last, c :: rest =>
    if last = some c && isSqueezed c then squeeze isSqueezed last rest
    else c :: squeeze isSqueezed (some c) rest

/-- The options of `tr`. -/
def trOptions : OptionTable where
  plain := "AcCdst"
  long := [⟨"complement", 'c', false⟩, ⟨"delete", 'd', false⟩, ⟨"squeeze-repeats", 's', false⟩,
    ⟨"truncate-set1", 't', false⟩]
  isOrdered := true

/-- What the characters of one set become by another. -/
def translation (source target : List Char) : Char → Char :=
  fun c =>
    match source.reverse.idxOf? c with
    | none => c
    | some i =>
      let i := source.length - 1 - i
      (target[i]? <|> target.getLast?).getD c

/-- Complains about sets that do not fit together for a translation. -/
def checkTranslation (source target : List SetItem) (isComplement : Bool) : Act Unit := do
  let isCase (name : String) : Bool := name = "upper" || name = "lower"
  if target.any fun item => match item with
      | .named name _ => !isCase name
      | _ => false then
    fail 1 ("when translating, the only character classes that may appear in\n" ++
      "string2 are 'upper' and 'lower'").toList
  let sourceLength :=
    if isComplement then 256 - (setChars source 0).eraseDups.length else (setChars source 0).length
  if let some (.named _ _) := target.getLast? then
    if (setChars target 0).length < sourceLength then
      fail 1 ("when translating with string1 longer than string2,\n" ++
        "the latter string must not end with a character class").toList

/-- Replaces, removes or squeezes characters of the input. -/
def tr (arguments : List (List Char)) : Act Unit := do
  let a ← trOptions.read arguments
  let isComplement := a.has 'c' || a.has 'C'
  let deletes := a.has 'd'
  let squeezes := a.has 's'
  let least := if deletes && !squeezes || squeezes && !deletes then 1 else 2
  let most := if deletes && !squeezes then 1 else 2
  let tooFew (note_ : String) : Act Unit := do
    match a.operands.getLast? with
    | none => complain "missing operand".toList
    | some last =>
      complain ("missing operand after ".toList ++ quoted last)
      note note_.toList
    note (hintLine (← get).title)
    finish 1
  if a.operands.length < least then
    tooFew (if deletes then
        "Two strings must be given when both deleting and squeezing repeats.\n"
      else "Two strings must be given when translating.\n")
  if let some extra := a.operands[most]? then
    complain ("extra operand ".toList ++ quoted extra)
    if a.operands.length = 2 then
      note "Only one string may be given when deleting without squeezing repeats.\n".toList
    note (hintLine (← get).title)
    finish 1
  let itemsOf (text : List Char) : Act (List SetItem) := setItems (text.length + 1) text
  let first ← itemsOf (a.operands.headD [])
  let second ← itemsOf (a.operands[1]?.getD [])
  let isTranslating := !deletes && a.operands.length = 2
  if isTranslating then checkTranslation first second isComplement
  let named := setChars first 0
  let source := if isComplement then allChars.filter fun c => !named.contains c else named
  let target := setChars second source.length
  let source := if a.has 't' && isTranslating then source.take target.length else source
  if isTranslating && target.isEmpty && !source.isEmpty && !a.has 't' then
    fail 1 "when not truncating set1, string2 must be non-empty".toList
  let text ← takeInput
  if deletes then
    let kept := text.filter fun c => !source.contains c
    print (if squeezes then squeeze target.contains none kept else kept)
  else if isTranslating then
    let table := allChars.map (translation source target)
    let translated := text.map fun c => table.getD c.toNat c
    print (if squeezes then squeeze target.contains none translated else translated)
  else print (squeeze source.contains none text)

/-! ## Lines that grow too wide -/

/-- The column behind a character. -/
def columnAfter (countsBytes : Bool) (column : Nat) (c : Char) : Nat :=
  if countsBytes then column + 1
  else if c = '\t' then column / 8 * 8 + 8
  else if c = '\x08' then column - 1
  else if c = '\r' then 0
  else column + 1

/-- The column behind a text. -/
def columnOf (countsBytes : Bool) (text : List Char) : Nat :=
  text.foldl (columnAfter countsBytes) 0

/-- Breaks a line. `line` is what stands on the current one, last character first. -/
def foldLine (width : Nat) (atBlanks countsBytes : Bool) :
    Nat → List Char → Nat → List Char → List Char
  | 0, line, _, _ => line.reverse
  | _, line, _, [] => line.reverse
  | fuel + 1, line, column, c :: rest =>
    let next := columnAfter countsBytes column c
    if next ≤ width || line.isEmpty then
      foldLine width atBlanks countsBytes fuel (c :: line) next rest
    else
      let isBlank (c : Char) : Bool := c = ' ' || c = '\t'
      let behind := if atBlanks then line.takeWhile fun c => !isBlank c else []
      let before := line.drop behind.length
      let (done, kept) := if behind.isEmpty || before.isEmpty then (line, []) else (before, behind)
      done.reverse ++ '\n' :: foldLine width atBlanks countsBytes fuel kept
        (columnOf countsBytes kept.reverse) (c :: rest)

/-- The options of `fold`. -/
def foldOptions : OptionTable where
  plain := "bs"
  valued := "w"
  long := [⟨"bytes", 'b', false⟩, ⟨"spaces", 's', false⟩, ⟨"width", 'w', true⟩]

/-- A width that is given as an argument of its own. -/
def withWidthOption (letter : Char) : List (List Char) → List (List Char)
  | ('-' :: c :: digits) :: rest =>
    if (c :: digits).all Char.isDigit then ['-', letter] :: (c :: digits) :: rest
    else ('-' :: c :: digits) :: rest
  | arguments => arguments

/-- Breaks lines that are too wide. -/
def fold (arguments : List (List Char)) : Act Unit := do
  let a ← foldOptions.read (withWidthOption 'w' arguments)
  let text := (a.value? 'w').getD ['8', '0']
  let width ← match natural? text with
    | none => fail 1 ("invalid number of columns: ".toList ++ quoted text)
    | some 0 => fail 1 ("invalid number of columns: ".toList ++ quoted text ++
        ": Numerical result out of range".toList)
    | some width => pure width
  let sources ← readSources a.operands 1 nameReason
  for (_, text) in sources do
    for line in fullLines text do
      let bare := dropEnd line
      print (foldLine width (a.has 's') (a.has 'b') (2 * bare.length + 1) [] 0 bare ++
        line.drop bare.length)

/-- A line with blanks in place of its tabs. -/
def expandLine (width : Nat) (onlyFirst : Bool) : Nat → Bool → List Char → List Char
  | _, _, [] => []
  | column, isFirst, c :: rest =>
    if c = '\t' && (isFirst || !onlyFirst) then
      let blanks := width - column % width
      List.replicate blanks ' ' ++ expandLine width onlyFirst (column + blanks) isFirst rest
    else c :: expandLine width onlyFirst (column + 1) (isFirst && (c = ' ' || c = '\t')) rest

/-- Replaces tabs by blanks. -/
def expand (arguments : List (List Char)) : Act Unit := do
  let a ← ({ plain := "i", valued := "t", long := [⟨"tabs", 't', true⟩, ⟨"initial", 'i', false⟩] } :
    OptionTable).read (withWidthOption 't' arguments)
  let width := max 1 (((a.value? 't').bind natural?).getD 8)
  let sources ← readSources a.operands 1 nameReason
  for (_, text) in sources do
    for line in fullLines text do
      print (expandLine width (a.has 'i') 0 true line)

end TemplateInspector.Utility
