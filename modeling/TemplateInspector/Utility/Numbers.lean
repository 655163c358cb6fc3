import TemplateInspector.Number.Printed
import TemplateInspector.Regex.Reader
import TemplateInspector.Utility.Options

/-!
# Programs that calculate

Rows of numbers, and expressions over numbers and texts, each operand and operator of which is an
argument. An expression is read as a whole before it is evaluated, so that what does not count is
not evaluated.
-/

namespace TemplateInspector.Utility

/-! ## Rows of numbers -/

/-- A number with decimal places. -/
structure PlacedNumber where
  /-- The number without its point. -/
  units : Int
  /-- The number of places. -/
  places : Nat

namespace PlacedNumber

/-- The number that a text writes. -/
def read? (text : List Char) : Option PlacedNumber :=
  match leadingDecimal? text with
  | some n =>
    if !n.rest.isEmpty then none
    else
      let units : Int := if n.isNegative then -(n.digits : Int) else n.digits
      if 0 ≤ n.exponent then some ⟨units * Nat.pow 10 n.exponent.toNat, 0⟩
      else some ⟨units, n.exponent.natAbs⟩
  | none => none

/-- The number with more places, without its point. -/
def scaledTo (n : PlacedNumber) (places : Nat) : Int :=
  n.units * Nat.pow 10 (places - n.places)

/-- The text of a number that is given without its point. -/
def text (places : Nat) (units : Int) : List Char :=
  let digits := Fraction.paddedDigits (places + 1) units.natAbs
  (if units < 0 then ['-'] else []) ++ digits.take (digits.length - places) ++
    (if 0 < places then '.' :: digits.drop (digits.length - places) else [])

/-- The number as a fraction. -/
def fraction (n : PlacedNumber) : Fraction :=
  ⟨n.units.natAbs, Nat.pow 10 n.places, Nat.pow_pos (by decide)⟩

end PlacedNumber

/-- The options of `seq`. -/
def seqOptions : OptionTable where
  plain := "w"
  valued := "fs"
  long := [⟨"equal-width", 'w', false⟩, ⟨"format", 'f', true⟩, ⟨"separator", 's', true⟩]
  isOrdered := true

/-- The options of `seq` and its numbers, of which the first may begin with a hyphen. -/
def readNumbers (arguments : List (List Char)) : Act Arguments := do
  let isNumber (argument : List Char) : Bool :=
    match argument with
    | '-' :: c :: _ => c.isDigit || c = '.'
    | _ => false
  let options := arguments.takeWhile fun argument => !isNumber argument
  if options.length = arguments.length then seqOptions.read arguments
  else
    let a ← seqOptions.read options
    return { a with operands := a.operands ++ arguments.drop options.length }

/-- A format of numbers: what stands before and behind the number, and how it is written. -/
structure NumberFormat where
  before : List Char
  style : NumberStyle
  letter : Char
  behind : List Char

/-- Reads a format of numbers. -/
def readNumberFormat (format : List Char) : Act NumberFormat := do
  let complete (text : List Char) : List Char := "format ".toList ++ quoted format ++ ' ' :: text
  let rec dividePercent : List Char → List Char × Option (List Char)
    | '%' :: '%' :: rest =>
      let (before, behind) := dividePercent rest
      ('%' :: before, behind)
    | '%' :: rest => ([], some rest)
    | c :: rest =>
      let (before, behind) := dividePercent rest
      (c :: before, behind)
    | [] => ([], none)
  match dividePercent format with
  | (_, none) => fail 1 (complete "has no % directive".toList)
  | (before, some text) =>
    let flags := text.takeWhile fun c => ['-', '+', ' ', '0', '#', '\''].contains c
    let text := text.drop flags.length
    let width := text.takeWhile Char.isDigit
    let text := text.drop width.length
    let (precision, text) := match text with
      | '.' :: rest => (some (valueOf (rest.takeWhile Char.isDigit)), rest.dropWhile Char.isDigit)
      | text => (none, text)
    match text with
    | [] => fail 1 (complete "ends in %".toList)
    | letter :: rest =>
      if !("efgEFG".toList.contains letter) then
        fail 1 (complete ("has unknown %".toList ++ letter :: " directive".toList))
      else match dividePercent rest with
        | (_, some _) => fail 1 (complete "has too many % directives".toList)
        | (behind, none) =>
            return ⟨before, { flags, width := valueOf width, precision }, letter, behind⟩

/-- Prints numbers in a row. -/
def seq (arguments : List (List Char)) : Act Unit := do
  let a ← readNumbers arguments
  let numbers ← a.operands.mapM fun text => do
    match PlacedNumber.read? text with
    | some n => return n
    | none => refuse 1 ("invalid floating point argument: ".toList ++ quoted text)
  if let some extra := a.operands[3]? then refuse 1 ("extra operand ".toList ++ quoted extra)
  let one : PlacedNumber := ⟨1, 0⟩
  let (first, step, last) ← match numbers with
    | [last] => pure (one, one, last)
    | [first, last] => pure (first, one, last)
    | [first, step, last] =>
      if step.units = 0 then
        refuse 1 ("invalid Zero increment value: ".toList ++ quoted (a.operands.getD 1 []))
      pure (first, step, last)
    | _ => refuse 1 "missing operand".toList
  let places := max first.places step.places
  let common := max places last.places
  let start := first.scaledTo common
  let delta := step.scaledTo common
  let stop := last.scaledTo common
  let count := if 0 < delta then (stop - start) / delta else (start - stop) / -delta
  let row := (List.range (count + 1).toNat).map fun (i : Nat) => start + i * delta
  let shorter (units : Int) : Int := units / Nat.pow 10 (common - places)
  let texts ← match a.value? 'f' with
    | some format =>
      let f ← readNumberFormat format
      pure (row.map fun units =>
        f.before ++ f.style.render f.letter (units < 0)
          (.finite (PlacedNumber.fraction ⟨units, common⟩)) ++ f.behind)
    | none =>
      let texts := row.map fun units => PlacedNumber.text places (shorter units)
      if !a.has 'w' then pure texts
      else
        let whole (n : PlacedNumber) : Nat :=
          (PlacedNumber.text 0 (n.units.tdiv (Nat.pow 10 n.places))).length +
            (if n.units < 0 && n.units.tdiv (Nat.pow 10 n.places) = 0 then 1 else 0)
        let width := max (whole first) (whole last) + (if 0 < places then places + 1 else 0)
        pure (texts.map fun text =>
          let (sign, digits) := match text with
            | '-' :: digits => (['-'], digits)
            | digits => ([], digits)
          sign ++ List.replicate (width - text.length) '0' ++ digits)
  if !texts.isEmpty then printLine (((a.value? 's').getD ['\n']).intercalate texts)

/-! ## Expressions -/

/-- An operator of expressions. -/
inductive TermOperator
  | either
  | both
  | less
  | lessEqual
  | equal
  | notEqual
  | greater
  | greaterEqual
  | add
  | subtract
  | multiply
  | divide
  | remainder
  | find
  deriving DecidableEq

/-- The operators with what is written for them, by their ranks. -/
def termOperators : List (List (String × TermOperator)) :=
  [[("|", .either)], [("&", .both)],
    [("<", .less), ("<=", .lessEqual), ("=", .equal), ("==", .equal), ("!=", .notEqual),
      (">", .greater), (">=", .greaterEqual)],
    [("+", .add), ("-", .subtract)], [("*", .multiply), ("/", .divide), ("%", .remainder)],
    [(":", .find)]]

/-- An expression. -/
inductive Term
  | text (text : List Char)
  | binary (operator : TermOperator) (first second : Term)
  | length (e : Term)
  | substring (e start count : Term)
  | index (e sought : Term)

/-- Why arguments are no expression, or it has no value. -/
inductive TermError
  | missing (last : List Char)
  | unexpected (argument : List Char)
  | openGroup (last : List Char)
  | closedElsewhere (argument : List Char)
  | noInteger
  | zeroDivision
  | badPattern (error : RegexError)

/-- The text that reports why arguments are no expression, or it has no value. -/
def TermError.message : TermError → List Char
  | missing last => "syntax error: missing argument after ".toList ++ quoted last
  | unexpected argument => "syntax error: unexpected argument ".toList ++ quoted argument
  | openGroup last => "syntax error: expecting ')' after ".toList ++ quoted last
  | closedElsewhere argument => "syntax error: expecting ')' instead of ".toList ++ quoted argument
  | noInteger => "non-integer argument".toList
  | zeroDivision => "division by zero".toList
  | badPattern error => error.message.toList

/-- The arguments that have not been read, and the last one that was. -/
abbrev TermM := StateT (List (List Char) × List Char) (Except TermError)

namespace TermM

/-- Reads an argument. -/
def next : TermM (List Char) := do
  let (rest, last) ← get
  match rest with
  | [] => throw (.missing last)
  | argument :: rest =>
    set (rest, argument)
    return argument

mutual

/-- Reads an expression whose operators have one of some ranks. -/
def ranked : Nat → List (List (String × TermOperator)) → TermM Term
  | 0, _ => throw (.missing [])
  | fuel + 1, [] => single fuel
  | fuel + 1, operators :: higher => do
    let first ← ranked fuel higher
    more fuel operators higher first

/-- Reads the further operands of operators of one rank. -/
def more : Nat → List (String × TermOperator) → List (List (String × TermOperator)) → Term →
    TermM Term
  | 0, _, _, first => return first
  | fuel + 1, operators, higher, first => do
    match ((← get).1.head?).bind fun argument => operators.lookup (String.ofList argument) with
    | none => return first
    | some operator =>
      let _ ← next
      let second ← ranked fuel higher
      more fuel operators higher (.binary operator first second)

/-- Reads an operand. -/
def single : Nat → TermM Term
  | 0 => throw (.missing [])
  | fuel + 1 => do
    let argument ← next
    match String.ofList argument with
    | "(" =>
      let e ← ranked fuel termOperators
      let (rest, last) ← get
      match rest with
      | [] => throw (.openGroup last)
      | [')'] :: rest =>
        set (rest, [')'])
        return e
      | argument :: _ => throw (.closedElsewhere argument)
    | ")" => throw (.unexpected argument)
    | "+" => return .text (← next)
    | "length" => return .length (← single fuel)
    | "match" =>
      let e ← single fuel
      return .binary .find e (← single fuel)
    | "index" =>
      let e ← single fuel
      return .index e (← single fuel)
    | "substr" =>
      let e ← single fuel
      let start ← single fuel
      return .substring e start (← single fuel)
    | _ => return .text argument

end

end TermM

/-- The whole number that a text writes. -/
def wholeNumber? (text : List Char) : Option Int :=
  match text with
  | '-' :: digits => (natural? digits).map fun n => -(n : Int)
  | digits => (natural? digits).map Int.ofNat

/-- Whether a value counts as nothing. -/
def isNothing (text : List Char) : Bool :=
  let digits := if text.head? = some '-' then text.drop 1 else text
  text.isEmpty || (!digits.isEmpty && digits.all (· = '0'))

/-- The order of two texts by their characters. -/
def characterOrder : List Char → List Char → Ordering
  | [], [] => .eq
  | [], _ :: _ => .lt
  | _ :: _, [] => .gt
  | a :: as, b :: bs => if a < b then .lt else if b < a then .gt else characterOrder as bs

/-- What a pattern finds at the start of a text: its first group, or the number of characters. -/
def findAtStart (text pattern : List Char) : Except TermError (List Char) := do
  let (r, groups) ← (Regex.read {} pattern).mapError TermError.badPattern
  match r.ways text.toArray false ⟨0, []⟩ with
  | [] => return if groups = 0 then ['0'] else []
  | way :: _ =>
    if groups = 0 then return digitsOf way.position
    else return Regex.Match.text ⟨0, way⟩ text.toArray 1

/-- The value of an expression. -/
def Term.value : Term → Except TermError (List Char)
  | text content => return content
  | length e => return digitsOf (← e.value).length
  | index e sought => do
    let content ← e.value
    let sought ← sought.value
    match content.findIdx? sought.contains with
    | some i => return digitsOf (i + 1)
    | none => return ['0']
  | substring e start count => do
    let content ← e.value
    match wholeNumber? (← start.value), wholeNumber? (← count.value) with
    | some start, some count =>
      if start ≤ 0 || count ≤ 0 then return []
      else return (content.drop (start.toNat - 1)).take count.toNat
    | _, _ => return []
  | binary operator first second => do
    let a ← first.value
    match operator with
    | .either =>
      if !isNothing a then return a
      else
        let b ← second.value
        return if isNothing b then ['0'] else b
    | .both =>
      if isNothing a then return ['0']
      else
        let b ← second.value
        return if isNothing b then ['0'] else a
    | operator =>
      let b ← second.value
      let numbers : Except TermError (Int × Int) :=
        match wholeNumber? a, wholeNumber? b with
        | some x, some y => .ok (x, y)
        | _, _ => .error .noInteger
      let order : Ordering := match wholeNumber? a, wholeNumber? b with
        | some x, some y => compare x y
        | _, _ => characterOrder a b
      let truth (holds : Bool) : List Char := if holds then ['1'] else ['0']
      match operator with
      | .less => return truth (order == .lt)
      | .lessEqual => return truth (order != .gt)
      | .equal => return truth (order == .eq)
      | .notEqual => return truth (order != .eq)
      | .greater => return truth (order == .gt)
      | .greaterEqual => return truth (order != .lt)
      | .find => findAtStart a b
      | .add =>
        let (x, y) ← numbers
        return decimalOf (x + y)
      | .subtract =>
        let (x, y) ← numbers
        return decimalOf (x - y)
      | .multiply =>
        let (x, y) ← numbers
        return decimalOf (x * y)
      | .divide =>
        let (x, y) ← numbers
        if y = 0 then throw .zeroDivision
        return decimalOf (x.tdiv y)
      | .remainder =>
        let (x, y) ← numbers
        if y = 0 then throw .zeroDivision
        return decimalOf (x.tmod y)
      | _ => return []

/-- Reads an expression and evaluates it. -/
def evaluateTerm (arguments : List (List Char)) : Except TermError (List Char) := do
  let (e, rest, _) ← (TermM.ranked (20 * arguments.length + 20) termOperators).run (arguments, [])
  match rest with
  | [] => e.value
  | argument :: _ => throw (.unexpected argument)

/-- Evaluates an expression. -/
def expr (arguments : List (List Char)) : Act Unit := do
  let arguments := if arguments.head? = some ['-', '-'] then arguments.drop 1 else arguments
  if arguments.isEmpty then refuse 2 "missing operand".toList
  match evaluateTerm arguments with
  | .error error => fail 2 error.message
  | .ok value =>
    printLine value
    setStatus (if isNothing value then 1 else 0)

/-- The prime factors of a number, least first. `fuel` bounds the number of steps. -/
def primeFactors : Nat → Nat → Nat → List Nat
  | 0, n, _ => [n]
  | fuel + 1, n, divisor =>
    if n < 2 then []
    else if n < divisor * divisor then [n]
    else if n % divisor = 0 then divisor :: primeFactors fuel (n / divisor) divisor
    else primeFactors fuel n (divisor + 1)

/-- Prints the prime factors of numbers. -/
def factor (arguments : List (List Char)) : Act Unit := do
  let a ← ({ plain := "h" } : OptionTable).read arguments
  let texts ← if !a.operands.isEmpty then pure a.operands
    else do
      let text ← takeInput
      pure (((Path.divide '\n' text).flatMap (Path.divide ' ')).filter fun word => !word.isEmpty)
  for text in texts do
    match natural? text with
    | some n =>
      let factors := primeFactors 1000000 n 2
      printLine (digitsOf n ++ ':' :: factors.flatMap fun f => ' ' :: digitsOf f)
    | none => complainWith 1 (quoted text ++ " is not a valid positive integer".toList)

end TemplateInspector.Utility
