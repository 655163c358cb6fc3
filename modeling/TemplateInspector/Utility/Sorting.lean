import TemplateInspector.Utility.Columns

/-!
# Programs for sorted lines

Lines are put in order by keys, repetitions are found among neighbours, and sorted files are
compared. Texts are ordered by their bytes.
-/

namespace TemplateInspector.Utility

/-! ## Order of texts -/

/-- The order of two texts by their bytes. -/
def compareText : List Char → List Char → Ordering
  | [], [] => .eq
  | [], _ => .lt
  | _, [] => .gt
  | a :: as, b :: bs => if a < b then .lt else if b < a then .gt else compareText as bs

/-- A decimal number: its sign, and its digits before and after the point without idle zeros. -/
structure DecimalText where
  isNegative : Bool
  whole : List Char
  places : List Char
  deriving DecidableEq, Repr

/-- The order of two decimal numbers without their signs. -/
def DecimalText.compareMagnitude (a b : DecimalText) : Ordering :=
  (compare a.whole.length b.whole.length).then
    ((compareText a.whole b.whole).then (compareText a.places b.places))

/-- The order of two decimal numbers. -/
def DecimalText.compare (a b : DecimalText) : Ordering :=
  match a.isNegative, b.isNegative with
  | false, false => a.compareMagnitude b
  | true, true => b.compareMagnitude a
  | true, false => .lt
  | false, true => .gt

/-- Whether a character is a blank between fields. -/
def isFieldBlank (c : Char) : Bool :=
  c = ' ' || c = '\t'

/-- Whether a character is a blank at the beginning of a key. -/
def isKeyBlank (c : Char) : Bool :=
  isFieldBlank c || c = '\n'

/-- The decimal number at the beginning of a text, which is zero if there is none, and the rest. -/
def decimalAt (text : List Char) : DecimalText × List Char :=
  let text := text.dropWhile isKeyBlank
  let (isNegative, text) := match text with
    | '-' :: rest => (true, rest)
    | text => (false, text)
  let digits := text.takeWhile Char.isDigit
  let rest := text.drop digits.length
  let (places, rest) := match rest with
    | '.' :: rest => (rest.takeWhile Char.isDigit, rest.dropWhile Char.isDigit)
    | rest => ([], rest)
  let whole := digits.dropWhile (· = '0')
  let places := (places.reverse.dropWhile (· = '0')).reverse
  (⟨isNegative && !(whole.isEmpty && places.isEmpty), whole, places⟩, rest)

/-- The order of two texts by the numbers at their beginnings. -/
def compareNumbers (a b : List Char) : Ordering :=
  (decimalAt a).1.compare (decimalAt b).1

/-- The order of two texts by numbers with letters for great units. -/
def compareMeasures (a b : List Char) : Ordering :=
  let unitRank (rest : List Char) : Nat :=
    match rest with
    | c :: _ => match ['K', 'M', 'G', 'T', 'P', 'E', 'Z', 'Y'].idxOf? c with
      | some i => i + 1
      | none => if c = 'k' then 1 else 0
    | [] => 0
  let (x, restX) := decimalAt a
  let (y, restY) := decimalAt b
  let isZero (d : DecimalText) : Bool := d.whole.isEmpty && d.places.isEmpty
  let rank (d : DecimalText) (rest : List Char) : Int :=
    let r : Int := if isZero d then 0 else unitRank rest
    if d.isNegative then -r - 1 else r
  (compare (rank x restX) (rank y restY)).then (x.compare y)

/-- The number at the beginning of a text, which may have a power of ten, as a fraction of integers.
None if there is no number. -/
def generalAt? (text : List Char) : Option (Int × Nat) :=
  let text := text.dropWhile isKeyBlank
  let text := if text.head? = some '+' then text.drop 1 else text
  let (d, rest) := decimalAt text
  let hasDigits := (text.dropWhile fun c => c = '-' || c = '.').head?.any Char.isDigit
  if !hasDigits then none
  else
    let digits := d.whole ++ d.places
    let magnitude : Int := valueOf digits
    let signed := if d.isNegative then -magnitude else magnitude
    let exponent : Int := match rest with
      | c :: rest =>
        if c = 'e' || c = 'E' then
          let (negative, rest) := match rest with
            | '-' :: rest => (true, rest)
            | '+' :: rest => (false, rest)
            | rest => (false, rest)
          let value : Int := min 400 (valueOf (rest.takeWhile Char.isDigit))
          if negative then -value else value
        else 0
      | [] => 0
    let exponent := exponent - d.places.length
    if exponent < 0 then some (signed, Nat.pow 10 exponent.natAbs)
    else some (signed * Nat.pow 10 exponent.toNat, 1)

/-- The order of two texts by numbers with powers of ten. Texts without a number come first. -/
def compareGeneral (a b : List Char) : Ordering :=
  match generalAt? a, generalAt? b with
  | none, none => .eq
  | none, some _ => .lt
  | some _, none => .gt
  | some (m, p), some (n, q) => compare (m * q) (n * p)

/-- The number of the month that a text begins with; zero for none. -/
def monthAt (text : List Char) : Nat :=
  let name := String.ofList (((text.dropWhile isKeyBlank).take 3).map Char.toUpper)
  match ["JAN", "FEB", "MAR", "APR", "MAY", "JUN", "JUL", "AUG", "SEP", "OCT", "NOV", "DEC"].idxOf?
      name with
  | some i => i + 1
  | none => 0

/-- The rank of a character in the order of versions. -/
def versionRank (c : Char) : Int :=
  if c = '~' then -1 else if c.isDigit then 0 else if c.isAlpha then c.toNat else c.toNat + 256

/-- The order of the parts of two versions before their digits, with the rests. -/
def compareVersionText : List Char → List Char → Ordering × List Char × List Char
  | [], [] => (.eq, [], [])
  | a :: as, [] =>
    if a.isDigit then (.eq, a :: as, []) else (compare (versionRank a) 0, as, [])
  | [], b :: bs =>
    if b.isDigit then (.eq, [], b :: bs) else (compare 0 (versionRank b), [], bs)
  | a :: as, b :: bs =>
    if a.isDigit && b.isDigit then (.eq, a :: as, b :: bs)
    else match compare (versionRank a) (versionRank b) with
      | .eq => compareVersionText as bs
      | order => (order, as, bs)

/-- The order of two versions: texts and numbers in turns. `fuel` bounds the number of turns. -/
def compareVersions : Nat → List Char → List Char → Ordering
  | 0, _, _ => .eq
  | fuel + 1, a, b =>
    if a.isEmpty && b.isEmpty then .eq
    else
      let (order, restA, restB) := compareVersionText a b
      let digitsA := restA.takeWhile Char.isDigit
      let digitsB := restB.takeWhile Char.isDigit
      order.then ((compare (valueOf digitsA) (valueOf digitsB)).then
        (compareVersions fuel (restA.drop digitsA.length) (restB.drop digitsB.length)))

/-! ## Keys -/

/-- How keys are compared. -/
structure KeyOrder where
  /-- The letters of the options. -/
  letters : List Char := []
  deriving DecidableEq, Repr

namespace KeyOrder

/-- Whether an option is set. -/
def has (order : KeyOrder) (letter : Char) : Bool :=
  order.letters.contains letter

/-- A key without the characters that do not matter, and in one case if case does not. -/
def normal (order : KeyOrder) (key : List Char) : List Char :=
  let kept := key.filter fun c =>
    (!order.has 'd' || c.isAlphanum || isFieldBlank c) &&
      (!order.has 'i' || (' ' ≤ c && c ≤ '~'))
  if order.has 'f' then kept.map Char.toUpper else kept

/-- The order of two keys. -/
def compare (order : KeyOrder) (a b : List Char) : Ordering :=
  let result :=
    if order.has 'n' then compareNumbers a b
    else if order.has 'h' then compareMeasures a b
    else if order.has 'g' then compareGeneral a b
    else if order.has 'M' then Ord.compare (monthAt a) (monthAt b)
    else if order.has 'V' then
      compareVersions (a.length + b.length + 1) (order.normal a) (order.normal b)
    else compareText (order.normal a) (order.normal b)
  if order.has 'r' then result.swap else result

end KeyOrder

/-- A key of lines: where it begins and ends, and how it is compared. Fields and characters count
from zero; a key without an end goes to the end of the line. -/
structure SortKey where
  field : Nat := 0
  char : Nat := 0
  /-- Whether blanks before the beginning are skipped. -/
  skipsBlanks : Bool := false
  /-- The number of the last field and the number of characters of it, of which zero means all. -/
  last : Option (Nat × Nat) := none
  /-- Whether blanks are skipped before the characters of the last field. -/
  skipsLastBlanks : Bool := false
  order : KeyOrder := {}

/-- A text behind a number of fields. With a separator each takes along the one that ends it, unless
it is the last that is passed over and `keepsLast` holds. -/
def skipFields (separator : Option Char) (keepsLast : Bool) : Nat → List Char → List Char
  | 0, text => text
  | count + 1, text =>
    match separator with
    | none =>
      skipFields separator keepsLast count
        ((text.dropWhile isKeyBlank).dropWhile fun c => !isKeyBlank c)
    | some separator =>
      let rest := text.dropWhile (· ≠ separator)
      skipFields (some separator) keepsLast count
        (if count = 0 && keepsLast then rest else rest.drop 1)

/-- The key in a line. -/
def SortKey.of (key : SortKey) (separator : Option Char) (line : List Char) : List Char :=
  let start := skipFields separator false key.field line
  let start := if key.skipsBlanks then start.dropWhile isKeyBlank else start
  let start := start.drop key.char
  match key.last with
  | none => start
  | some (field, chars) =>
    let behind :=
      if chars = 0 then skipFields separator true (field + 1) line
      else
        let text := skipFields separator false field line
        let text := if key.skipsLastBlanks then text.dropWhile isKeyBlank else text
        text.drop chars
    start.take (start.length - behind.length)

/-- Reads a number of a key. -/
def keyNumber (place : String) (text : List Char) : Act (Nat × List Char) := do
  let digits := text.takeWhile Char.isDigit
  if digits.isEmpty then
    fail 2 (place.toList ++ ": invalid count at start of ".toList ++ quoted text)
  else return (valueOf digits, text.drop digits.length)

/-- The options of an order at the beginning of a text. -/
def orderLetters (text : List Char) : List Char :=
  text.takeWhile "bdfghiMnRrV".toList.contains

/-- Reads a key. -/
def readKey (text : List Char) : Act SortKey := do
  let refuseField (reason : String) : Act Unit :=
    fail 2 (reason.toList ++ ": invalid field specification ".toList ++ quoted text)
  let (field, rest) ← keyNumber "invalid number at field start" text
  if field = 0 then refuseField "field number is zero"
  let (char, rest) ← match rest with
    | '.' :: rest => do
      let (char, rest) ← keyNumber "invalid number after '.'" rest
      if char = 0 then refuseField "character offset is zero"
      pure (char - 1, rest)
    | rest => pure (0, rest)
  let letters := orderLetters rest
  let key : SortKey := { field := field - 1, char, skipsBlanks := letters.contains 'b' }
  match rest.drop letters.length with
  | [] => return { key with order := ⟨letters.filter (· ≠ 'b')⟩ }
  | ',' :: rest =>
    let (last, rest) ← keyNumber "invalid number after ','" rest
    if last = 0 then refuseField "field number is zero"
    let (chars, rest) ← match rest with
      | '.' :: rest => keyNumber "invalid number after '.'" rest
      | rest => pure (0, rest)
    let more := orderLetters rest
    if !(rest.drop more.length).isEmpty then refuseField "stray character in field spec"
    return { key with
      last := some (last - 1, chars)
      skipsLastBlanks := more.contains 'b'
      order := ⟨(letters ++ more).filter (· ≠ 'b')⟩ }
  | _ =>
    refuseField "stray character in field spec"
    return key

/-! ## Sorting -/

/-- How lines are sorted. -/
structure SortRule where
  keys : List SortKey
  separator : Option Char
  /-- Whether lines with equal keys are told apart by the whole line, and then in which
  direction. -/
  lastResort : Option Bool

/-- The order of the keys of two lines. -/
def SortRule.compareKeys (rule : SortRule) (a b : List Char) : Ordering :=
  rule.keys.foldl (fun order key =>
    order.then (key.order.compare (key.of rule.separator a) (key.of rule.separator b))) .eq

/-- The order of two lines. -/
def SortRule.compare (rule : SortRule) (a b : List Char) : Ordering :=
  let byKeys := if rule.keys.isEmpty then .eq else rule.compareKeys a b
  match rule.lastResort with
  | none => byKeys
  | some isReversed =>
    let whole := compareText a b
    byKeys.then (if isReversed then whole.swap else whole)

/-- The options of `sort`. -/
def sortOptions : OptionTable where
  plain := "bcCdfghiMmnRrsuVz"
  valued := "koStT"
  long := [⟨"ignore-leading-blanks", 'b', false⟩, ⟨"check", 'c', false⟩,
    ⟨"dictionary-order", 'd', false⟩, ⟨"ignore-case", 'f', false⟩, ⟨"key", 'k', true⟩,
    ⟨"numeric-sort", 'n', false⟩, ⟨"general-numeric-sort", 'g', false⟩,
    ⟨"human-numeric-sort", 'h', false⟩, ⟨"version-sort", 'V', false⟩, ⟨"month-sort", 'M', false⟩,
    ⟨"output", 'o', true⟩, ⟨"reverse", 'r', false⟩, ⟨"stable", 's', false⟩,
    ⟨"field-separator", 't', true⟩, ⟨"unique", 'u', false⟩, ⟨"merge", 'm', false⟩,
    ⟨"zero-terminated", 'z', false⟩]
  status := 2

/-- The rule that options tell. Keys without an order of their own take that of the options. -/
def sortRule (a : Arguments) : Act SortRule := do
  let keys ← (a.values 'k').mapM readKey
  let letters := (a.options.map Prod.fst).filter "dfghiMnRrV".toList.contains
  let order : KeyOrder := ⟨letters⟩
  let isBlankless := a.has 'b'
  let keys := keys.map fun key =>
    if key.order.letters.isEmpty && !key.skipsBlanks && !key.skipsLastBlanks then
      { key with order, skipsBlanks := isBlankless, skipsLastBlanks := isBlankless }
    else key
  let keys :=
    if !keys.isEmpty then keys
    else if (letters.any (· ≠ 'r')) || isBlankless || a.has 'u' || a.has 's' then
      [{ order, skipsBlanks := isBlankless }]
    else []
  let separator ← match a.value? 't' with
    | none => pure none
    | some [] => fail 2 "empty tab".toList
    | some [c] => pure (some c)
    | some ['\\', '0'] => pure (some '\x00')
    | some text => fail 2 ("multi-character tab ".toList ++ quoted text)
  let isPlain := a.has 'u' || a.has 's'
  return { keys, separator, lastResort := if isPlain then none else some (a.has 'r') }

/-- Of lines with equal keys in a row the first. -/
def firstOfEqual (rule : SortRule) : List (List Char) → List (List Char)
  | [] => []
  | [line] => [line]
  | first :: second :: rest =>
    match firstOfEqual rule (second :: rest) with
    | kept =>
      if rule.compare first second = .eq then first :: kept.drop 1 else first :: kept

/-- The number and the text of the first line that is out of order. -/
def disorder? (rule : SortRule) (isUnique : Bool) :
    Nat → List (List Char) → Option (Nat × List Char)
  | number, first :: second :: rest =>
    let order := rule.compare first second
    if order = .gt || (isUnique && order = .eq) then some (number + 1, second)
    else disorder? rule isUnique (number + 1) (second :: rest)
  | _, _ => none

/-- Prints the lines of files in order. -/
def sort (arguments : List (List Char)) : Act Unit := do
  let a ← sortOptions.read arguments
  let rule ← sortRule a
  let sources ← (if a.operands.isEmpty then [['-']] else a.operands).mapM fun path => do
    match ← readSource path with
    | .ok text => return text
    | .error .isDirectory => fail 2 ("read failed: ".toList ++ path ++ ": Is a directory".toList)
    | .error error => fail 2 ("cannot read: ".toList ++ nameReason path error)
  let lineEnd := if a.has 'z' then '\x00' else '\n'
  let bare (line : List Char) : List Char :=
    if line.getLast? = some lineEnd then line.dropLast else line
  let parts := sources.map fun text => (linesEndedBy lineEnd text).map bare
  let lines := parts.flatten
  if a.has 'c' || a.has 'C' then
    match disorder? rule (a.has 'u') 1 lines with
    | none => finish 0
    | some (number, line) =>
      if a.has 'c' then
        complain (a.operands.headD ['-'] ++ ":".toList ++ digitsOf number ++
          ": disorder: ".toList ++ line)
      finish 1
  let isOrdered (x y : List Char) : Bool := rule.compare x y ≠ .gt
  let ordered := if a.has 'm' then parts.foldl (fun merged part => merged.merge part isOrdered) []
    else lines.mergeSort isOrdered
  let ordered := if a.has 'u' then firstOfEqual rule ordered else ordered
  let text := ordered.flatMap (· ++ [lineEnd])
  match a.value? 'o' with
  | none => print text
  | some path =>
    if let .error error ← writeFile path text then
      fail 2 ("open failed: ".toList ++ path ++ ": ".toList ++ reasonOf error)

/-! ## Repetitions -/

/-- Lines in groups of equal neighbours. -/
def groupNeighbours (areEqual : List Char → List Char → Bool) :
    List (List Char) → List (List (List Char))
  | [] => []
  | line :: rest =>
    match groupNeighbours areEqual rest with
    | (first :: group) :: groups =>
      if areEqual line first then (line :: first :: group) :: groups
      else [line] :: (first :: group) :: groups
    | groups => [line] :: groups

/-- The options of `uniq`. -/
def uniqOptions : OptionTable where
  plain := "cdDiuz"
  valued := "fsw"
  long := [⟨"count", 'c', false⟩, ⟨"repeated", 'd', false⟩, ⟨"all-repeated", 'D', false⟩,
    ⟨"ignore-case", 'i', false⟩, ⟨"unique", 'u', false⟩, ⟨"skip-fields", 'f', true⟩,
    ⟨"skip-chars", 's', true⟩, ⟨"check-chars", 'w', true⟩]

/-- Prints lines without repetitions among neighbours, or finds these. -/
def uniq (arguments : List (List Char)) : Act Unit := do
  let a ← uniqOptions.read arguments
  if let some extra := a.operands[2]? then
    refuse 1 ("extra operand ".toList ++ quoted extra)
  let number (letter : Char) : Option Nat := (a.value? letter).bind natural?
  let key (line : List Char) : List Char :=
    let text := (skipFields none false ((number 'f').getD 0) line).drop ((number 's').getD 0)
    let text := match number 'w' with
      | some width => text.take width
      | none => text
    if a.has 'i' then text.map Char.toUpper else text
  let text ← match ← readSource (a.operands.headD ['-']) with
    | .ok text => pure text
    | .error error => fail 1 (nameReason (a.operands.headD []) error)
  let groups := groupNeighbours (fun x y => key x = key y) (bareLines text)
  let output := groups.flatMap fun group =>
    let isRepeated := 1 < group.length
    if a.has 'D' then if isRepeated then group.flatMap (· ++ ['\n']) else []
    else if (a.has 'd' && !isRepeated) || (a.has 'u' && isRepeated) then []
    else (if a.has 'c' then padLeft 7 (digitsOf group.length) ++ [' '] else []) ++
      group.headD [] ++ ['\n']
  match a.operands[1]? with
  | none => print output
  | some path =>
    if let .error error ← writeFile path output then fail 1 (nameReason path error)

/-! ## Comparison of sorted files -/

/-- Two sorted files whose lines are being compared. -/
structure Merging where
  /-- The lines of the files that have not been taken, the first and the second. -/
  rest : List (List Char) × List (List Char)
  /-- The last lines that were taken. -/
  last : Option (List Char) × Option (List Char) := (none, none)
  /-- Whether there was a line that only one file has. -/
  isUneven : Bool := false
  /-- Which files are known not to be sorted. -/
  isUnsorted : Bool × Bool := (false, false)

/-- Complains, once there was a line that only one file has, if a line of a file is less than the
one before it. -/
def Merging.check (m : Merging) (isFirst : Bool) (before after : Option (List Char)) :
    Act Merging := do
  let isKnown := if isFirst then m.isUnsorted.1 else m.isUnsorted.2
  match before, after with
  | some before, some after =>
    if m.isUneven && !isKnown && compareText before after = .gt then
      complain (["file ".toList, [if isFirst then '1' else '2'],
        " is not in sorted order".toList].flatten)
      return { m with isUnsorted :=
        if isFirst then (true, m.isUnsorted.2) else (m.isUnsorted.1, true) }
    else return m
  | _, _ => return m

/-- Goes on behind the first line that is left of a file. At the end of the file the last two lines
are looked at again. -/
def Merging.step (m : Merging) (isFirst : Bool) : Act Merging := do
  let (rest, last) := if isFirst then (m.rest.1, m.last.1) else (m.rest.2, m.last.2)
  let next : Merging :=
    if isFirst then { m with rest := (rest.drop 1, m.rest.2), last := (rest.head?, m.last.2) }
    else { m with rest := (m.rest.1, rest.drop 1), last := (m.last.1, rest.head?) }
  match rest.drop 1 with
  | [] => next.check isFirst last rest.head?
  | line :: _ => next.check isFirst rest.head? (some line)

/-- Compares the lines of two sorted files, and prints each behind the tabs of its column: the first
file, the second or both. `fuel` bounds the number of lines. -/
def Merging.run (isHidden : Nat → Bool) : Nat → Merging → Act Merging
  | 0, m => return m
  | fuel + 1, m => do
    let put (column : Nat) (line : List Char) : Act Unit := do
      if !isHidden column then
        let tabs := ((List.range column).filter fun other => 0 < other && !isHidden other).length
        printLine (List.replicate tabs '\t' ++ line)
    let order : Option Ordering := match m.rest with
      | ([], []) => none
      | (_, []) => some .lt
      | ([], _) => some .gt
      | (a :: _, b :: _) => some (compareText a b)
    match order with
    | none => return m
    | some .lt =>
      put 1 (m.rest.1.headD [])
      Merging.run isHidden fuel (← { m with isUneven := true }.step true)
    | some .gt =>
      put 2 (m.rest.2.headD [])
      Merging.run isHidden fuel (← { m with isUneven := true }.step false)
    | some .eq =>
      put 3 (m.rest.1.headD [])
      Merging.run isHidden fuel (← (← m.step true).step false)

/-- The options of `comm`. -/
def commOptions : OptionTable where
  plain := "123"

/-- Prints which lines two sorted files have in common. -/
def comm (arguments : List (List Char)) : Act Unit := do
  let a ← commOptions.read arguments
  match a.operands with
  | [first, second] =>
    let read (path : List Char) : Act (List (List Char)) := do
      match ← readSource path with
      | .ok text => return bareLines text
      | .error error => fail 1 (nameReason path error)
    let as ← read first
    let bs ← read second
    let isHidden (column : Nat) : Bool := a.has (Char.ofNat ('0'.toNat + column))
    let final ← Merging.run isHidden (as.length + bs.length + 1) { rest := (as, bs) }
    if final.isUnsorted ≠ (false, false) then
      complainWith 1 "input is not in sorted order".toList
  | [] => refuse 1 "missing operand".toList
  | [last] => refuse 1 ("missing operand after ".toList ++ quoted last)
  | _ :: _ :: extra :: _ => refuse 1 ("extra operand ".toList ++ quoted extra)

end TemplateInspector.Utility
