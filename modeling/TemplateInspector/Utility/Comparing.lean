import TemplateInspector.Utility.Options

/-!
# Programs that compare files

Two files are compared byte by byte, or line by line with as many lines in common as possible.
-/

namespace TemplateInspector.Utility

/-- The texts of two files, of which one may be the input. A file that cannot be read ends the
program. -/
def readPair (first second : List Char) : Act (List Char × List Char) := do
  let one ← readSource first
  let other ← readSource second
  match one, other with
  | .ok one, .ok other => return (one, other)
  | .error error, _ => fail 2 (plainReason first error)
  | _, .error error => fail 2 (plainReason second error)

/-- Ends after a complaint about the arguments. -/
def refusePair (reason : List Char) : Act α := do
  complain reason
  let title := (← get).title
  note (title ++ ": ".toList ++ hintLine title)
  finish 2

/-- The options of `cmp`. -/
def cmpOptions : OptionTable where
  plain := "sbl"
  long := [⟨"silent", 's', false⟩, ⟨"quiet", 's', false⟩, ⟨"print-bytes", 'b', false⟩,
    ⟨"verbose", 'l', false⟩]
  status := 2
  isTitled := true

/-- Compares two files byte by byte. -/
def cmp (arguments : List (List Char)) : Act Unit := do
  let a ← cmpOptions.read arguments
  match a.operands with
  | [] => refusePair "missing operand after 'cmp'".toList
  | first :: rest =>
    let second := rest.headD ['-']
    let (one, other) ← readPair first second
    let count := ((one.zip other).takeWhile fun (x, y) => x == y).length
    if one = other then return
    else if a.has 's' then setStatus 1
    else
      let line := (one.take count).count '\n' + 1
      if count < one.length && count < other.length then
        printLine (first ++ ' ' :: second ++ " differ: char ".toList ++ digitsOf (count + 1) ++
          ", line ".toList ++ digitsOf line)
        setStatus 1
      else
        let shorter := if count = one.length then first else second
        if count = 0 then complainWith 1 ("EOF on ".toList ++ shorter ++ " which is empty".toList)
        else
          let isBroken := (one.take count).getLast? ≠ some '\n'
          complainWith 1 ("EOF on ".toList ++ shorter ++ " after byte ".toList ++ digitsOf count ++
            (if isBroken then ", in line " else ", line ").toList ++
            digitsOf (if isBroken then line else line - 1))

/-- A change from one text to another: lines that are replaced by others, with the numbers of the
lines before them. -/
structure LineChange where
  /-- The number of lines before it in the first text. -/
  start : Nat
  /-- The lines of the first text. -/
  removed : List (List Char)
  /-- The number of lines before it in the second text. -/
  target : Nat
  /-- The lines of the second text. -/
  added : List (List Char)

/-- The lengths of the longest rows of lines that the ends of two texts have in common, for a first
text and all ends of the second. -/
def commonRow (line : List Char) (others : List (List Char)) (below : List Nat) : List Nat :=
  match others, below with
  | other :: others, here :: next :: below =>
    let row := commonRow line others (next :: below)
    (if line = other then next + 1 else max here (row.headD 0)) :: row
  | _, _ => [0]

/-- The lengths of the longest rows of lines in common, for all ends of both texts. -/
def commonTable (one other : List (List Char)) : List (List Nat) :=
  one.foldr (fun line rows =>
    commonRow line other (rows.headD []) :: rows) [List.replicate (other.length + 1) 0]

/-- The lines of two texts: those in common, and those that only one of them has. `fuel` bounds the
number of steps. -/
def alignLines : Nat → List (List Char) → List (List Char) → List (List Nat) →
    List (Option (List Char) × Option (List Char))
  | 0, _, _, _ => []
  | fuel + 1, one, other, table =>
    match one, other with
    | [], other => other.map fun line => (none, some line)
    | one, [] => one.map fun line => (some line, none)
    | x :: one, y :: other =>
      if x = y then
        (some x, some y) :: alignLines fuel one other ((table.drop 1).map (·.drop 1))
      else
        let without (row? : Option (List Nat)) (i : Nat) : Nat := (row?.bind (·[i]?)).getD 0
        if without table[0]? 1 ≤ without table[1]? 0 then
          (some x, none) :: alignLines fuel one (y :: other) (table.drop 1)
        else (none, some y) :: alignLines fuel (x :: one) other (table.map (·.drop 1))

/-- The changes in aligned lines. `open_` is the change that is being put together. -/
def changesOf (start target : Nat) (open_ : LineChange) :
    List (Option (List Char) × Option (List Char)) → List LineChange
  | [] => if open_.removed.isEmpty && open_.added.isEmpty then [] else [open_]
  | (some _, some _) :: rest =>
    let others := changesOf (start + 1) (target + 1) ⟨start + 1, [], target + 1, []⟩ rest
    if open_.removed.isEmpty && open_.added.isEmpty then others else open_ :: others
  | (some line, none) :: rest =>
    changesOf (start + 1) target { open_ with removed := open_.removed ++ [line] } rest
  | (none, some line) :: rest =>
    changesOf start (target + 1) { open_ with added := open_.added ++ [line] } rest
  | (none, none) :: rest => changesOf start target open_ rest

/-- Aligned lines with other lines in the place of those of the two texts. -/
def withLines : List (List Char) → List (List Char) →
    List (Option (List Char) × Option (List Char)) →
    List (Option (List Char) × Option (List Char))
  | _, _, [] => []
  | one, other, (first, second) :: rest =>
    (first.bind fun _ => one.head?, second.bind fun _ => other.head?) ::
      withLines (if first.isSome then one.drop 1 else one)
        (if second.isSome then other.drop 1 else other) rest

/-- The changes from one text to another. Lines with the same key count as the same. -/
def lineChanges (key : List Char → List Char) (one other : List Char) : List LineChange :=
  let first := fullLines one
  let second := fullLines other
  let firstKeys := first.map key
  let secondKeys := second.map key
  let aligned := alignLines (first.length + second.length + 1) firstKeys secondKeys
    (commonTable firstKeys secondKeys)
  changesOf 0 0 ⟨0, [], 0, []⟩ (withLines first second aligned)

/-- A text without the blanks at its end, and with a single blank for each other run of them. -/
def squeezeBlanks (text : List Char) : List Char :=
  let isBlank (c : Char) : Bool := c = ' ' || c.isWhitespace
  let trimmed := (text.reverse.dropWhile isBlank).reverse
  (trimmed.splitBy fun x y => isBlank x == isBlank y).flatMap fun run =>
    if run.any isBlank then [' '] else run

/-- What counts of a line. -/
def lineKey (a : Arguments) (line : List Char) : List Char :=
  let cased := if a.has 'i' then line.map Char.toLower else line
  if a.has 'w' then cased.filter fun c => !c.isWhitespace
  else if a.has 'b' then squeezeBlanks cased
  else cased

/-- A line behind a mark, and what tells that it lacks its end. -/
def markedLine (mark line : List Char) : List Char :=
  mark ++ withEnd line ++
    (if line.getLast? = some '\n' then [] else "\\ No newline at end of file\n".toList)

/-- The lines that tell of a change. -/
def LineChange.report (change : LineChange) : List Char :=
  let span (start count : Nat) : List Char :=
    if count = 0 then digitsOf start
    else if count = 1 then digitsOf (start + 1)
    else digitsOf (start + 1) ++ ',' :: digitsOf (start + count)
  let letter := if change.removed.isEmpty then 'a' else if change.added.isEmpty then 'd' else 'c'
  span change.start change.removed.length ++ letter :: span change.target change.added.length ++
    '\n' :: change.removed.flatMap (markedLine ['<', ' ']) ++
    (if letter = 'c' then "---\n".toList else []) ++ change.added.flatMap (markedLine ['>', ' '])

/-- The number of lines behind a change in the first text. -/
def LineChange.stop (change : LineChange) : Nat :=
  change.start + change.removed.length

/-- Changes in groups, between which there are more than twice as many lines as are shown around. -/
def groupChanges (around : Nat) : List LineChange → List (List LineChange)
  | [] => []
  | change :: rest =>
    match groupChanges around rest with
    | (next :: group) :: groups =>
      if next.start ≤ change.stop + 2 * around then (change :: next :: group) :: groups
      else [change] :: (next :: group) :: groups
    | groups => [change] :: groups

/-- The lines that tell of changes and the lines around them, of which the first text consists. -/
def reportGroup (around : Nat) (lines : List (List Char)) (changes : List LineChange) :
    List Char :=
  match changes.head?, changes.getLast? with
  | some first, some last =>
    let start := first.start - around
    let stop := min lines.length (last.stop + around)
    let target := first.target - (first.start - start)
    let total (count : LineChange → Nat) : Nat := (changes.map count).foldl (· + ·) 0
    let growth := total fun change => change.added.length
    let count := stop - start
    let newCount := count + growth - total fun change => change.removed.length
    let span (start count : Nat) : List Char :=
      if count = 1 then digitsOf (start + 1)
      else digitsOf (if count = 0 then start else start + 1) ++ ',' :: digitsOf count
    let same (start stop : Nat) : List Char :=
      ((lines.drop start).take (stop - start)).flatMap (markedLine [' '])
    let step (state : Nat × List Char) (change : LineChange) : Nat × List Char :=
      (change.stop, state.2 ++ same state.1 change.start ++
        change.removed.flatMap (markedLine ['-']) ++ change.added.flatMap (markedLine ['+']))
    let (behind, text) := changes.foldl step (start, [])
    "@@ -".toList ++ span start count ++ " +".toList ++ span target newCount ++ " @@\n".toList ++
      text ++ same behind stop
  | _, _ => []

/-- The options of `diff`. -/
def diffOptions : OptionTable where
  plain := "qsbBwiuaN"
  valued := "U"
  long := [⟨"brief", 'q', false⟩, ⟨"report-identical-files", 's', false⟩, ⟨"unified", 'u', false⟩,
    ⟨"ignore-case", 'i', false⟩, ⟨"ignore-all-space", 'w', false⟩,
    ⟨"ignore-space-change", 'b', false⟩, ⟨"ignore-blank-lines", 'B', false⟩, ⟨"text", 'a', false⟩]
  status := 2
  isTitled := true

/-- Compares two files line by line. -/
def diff (arguments : List (List Char)) : Act Unit := do
  let a ← diffOptions.read arguments
  match a.operands with
  | [first, second] =>
    let (one, other) ← readPair first second
    let changes := lineChanges (lineKey a) one other
    let isEmpty (line : List Char) : Bool := line = ['\n']
    let changes := if a.has 'B' then
        changes.filter fun change => !(change.removed ++ change.added).all isEmpty
      else changes
    if changes.isEmpty then
      if a.has 's' then
        printLine ("Files ".toList ++ first ++ " and ".toList ++ second ++
          " are identical".toList)
    else
      setStatus 1
      if a.has 'q' then
        printLine ("Files ".toList ++ first ++ " and ".toList ++ second ++ " differ".toList)
      else if a.has 'u' || a.has 'U' then
        let around := ((a.value? 'U').bind natural?).getD 3
        print ("--- ".toList ++ first ++ '\n' :: "+++ ".toList ++ second ++ ['\n'])
        for group in groupChanges around changes do
          print (reportGroup around (fullLines one) group)
      else for change in changes do print change.report
  | [] => refusePair "missing operand after 'diff'".toList
  | [first] => refusePair ("missing operand after ".toList ++ quoted first)
  | _ :: _ :: extra :: _ => refusePair ("extra operand ".toList ++ quoted extra)

end TemplateInspector.Utility
