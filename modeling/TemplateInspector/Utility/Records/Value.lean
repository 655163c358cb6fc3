import TemplateInspector.Number.Printed
import TemplateInspector.Utility.Records.Program
import TemplateInspector.Utility.Records.Token

/-!
# Values of programs for records

A value is a number or a text. A text from the input counts as a number in comparisons if it looks
like one. Arrays keep the order in which their entries were used, and are walked through by buckets.
-/

namespace TemplateInspector.Utility

/-- A value. -/
inductive RecordValue
  /-- What a variable is before anything is assigned to it. -/
  | missing
  | number (value : Float)
  | text (text : List Char)
  /-- A text from the input. -/
  | input (text : List Char)

/-- The number that a text begins with, which is zero if there is none, and what is behind it. -/
def leadingFloat (text : List Char) : Float × List Char :=
  let isBlank (c : Char) : Bool := c = ' ' || ('\t' ≤ c && c ≤ '\r')
  let start := text.dropWhile isBlank
  let (isNegative, digits) := match start with
    | '-' :: rest => (true, rest)
    | '+' :: rest => (false, rest)
    | rest => (false, rest)
  let signed (x : Float) : Float := if isNegative then -x else x
  match digits with
  | '0' :: x :: c :: rest =>
    if (x = 'x' || x = 'X') && isHexadecimal c then
      let taken := (c :: rest).takeWhile isHexadecimal
      (signed (hexadecimalValue taken).toFloat, (c :: rest).drop taken.length)
    else decimal start
  | _ =>
    let word := String.ofList ((digits.take 3).map Char.toLower)
    if word = "inf" then (signed (1.0 / 0.0), digits.drop 3)
    else if word = "nan" then (signed (0.0 / 0.0), digits.drop 3)
    else decimal start
where
  /-- The decimal number that a text begins with. -/
  decimal (start : List Char) : Float × List Char :=
    match leadingDecimal? start with
    | some n => (floatOfDecimal n.isNegative n.digits n.exponent, n.rest)
    | none => (0, text)

/-- The whole number next to a number on the way to zero, if there is one. -/
def truncated? (x : Float) : Option Int :=
  match floatParts x with
  | (isNegative, .finite value) =>
    let n := value.numerator / value.denominator
    some (if isNegative then -(n : Int) else n)
  | _ => none

/-- Whether a number is a whole one. -/
def isWhole (x : Float) : Bool :=
  match floatParts x with
  | (_, .finite value) => value.numerator % value.denominator = 0
  | _ => false

/-- A style of numbers that a text such as a percent sign, flags, a width, a precision and a letter
tells. -/
def styleOf (format : List Char) : NumberStyle × Char :=
  let isFlag (c : Char) : Bool := ['-', '+', ' ', '0', '#'].contains c
  let value (digits : List Char) : Nat :=
    digits.foldl (fun n c => 10 * n + (c.toNat - '0'.toNat)) 0
  let text := (format.dropWhile (· ≠ '%')).drop 1
  let flags := text.takeWhile isFlag
  let text := text.drop flags.length
  let width := text.takeWhile Char.isDigit
  let text := text.drop width.length
  let (precision, text) := match text with
    | '.' :: rest => (some (value (rest.takeWhile Char.isDigit)), rest.dropWhile Char.isDigit)
    | text => (none, text)
  ({ flags, width := value width, precision }, text.headD 'g')

namespace RecordValue

/-- Whether a text from the input looks like a number. -/
def looksNumeric (text : List Char) : Bool :=
  let isBlank (c : Char) : Bool := c = ' ' || ('\t' ≤ c && c ≤ '\r')
  match leadingDecimal? (text.dropWhile isBlank) with
  | some n => n.rest.all isBlank
  | none => false

/-- The number of a value. -/
def toNumber : RecordValue → Float
  | missing => 0
  | number value => value
  | text content | input content => (leadingFloat content).1

/-- The text of a number. Whole numbers have no power of ten unless they are very great. -/
def numberText (format : List Char) (x : Float) : List Char :=
  match truncated? x with
  | some n =>
    if isWhole x && -(Nat.pow 2 63 : Int) ≤ n && n ≤ Nat.pow 2 64 then (toString n).toList
    else rendered
  | none => rendered
where
  /-- The text in the format. -/
  rendered : List Char :=
    let (style, letter) := styleOf format
    style.renderFloat letter x

/-- The text of a value. -/
def toText (format : List Char) : RecordValue → List Char
  | missing => []
  | number value => numberText format value
  | text content | input content => content

/-- Whether a value holds as a condition. -/
def holds : RecordValue → Bool
  | missing => false
  | number value => value != 0
  | text content => !content.isEmpty
  | input content =>
    if looksNumeric content then (leadingFloat content).1 != 0 else !content.isEmpty

/-- Whether a value counts as a number in comparisons. -/
def isNumeric : RecordValue → Bool
  | missing | number _ => true
  | text _ => false
  | input content => looksNumeric content

/-- The value of a truth. -/
def ofBool (b : Bool) : RecordValue :=
  number (if b then 1 else 0)

/-- The value of a natural number. -/
def ofNat (n : Nat) : RecordValue :=
  number n.toFloat

end RecordValue

/-- The order of texts by their characters. -/
def compareCharacters : List Char → List Char → Ordering
  | [], [] => .eq
  | [], _ :: _ => .lt
  | _ :: _, [] => .gt
  | a :: as, b :: bs => if a < b then .lt else if b < a then .gt else compareCharacters as bs

/-- Whether a comparison holds of an order. -/
def RecordComparison.holds (comparison : RecordComparison) (order : Ordering) : Bool :=
  match comparison with
  | less => order == .lt
  | lessEqual => order != .gt
  | equal => order == .eq
  | notEqual => order != .eq
  | greater => order == .gt
  | greaterEqual => order != .lt

/-- Whether a comparison holds of two values, which are compared as numbers if both count as
such. -/
def RecordComparison.compare (comparison : RecordComparison) (format : List Char)
    (first second : RecordValue) : Bool :=
  if first.isNumeric && second.isNumeric then
    let x := first.toNumber
    let y := second.toNumber
    match comparison with
    | less => x < y
    | lessEqual => x ≤ y
    | equal => x == y
    | notEqual => x != y
    | greater => x > y
    | greaterEqual => x ≥ y
  else comparison.holds (compareCharacters (first.toText format) (second.toText format))

/-- The result of a calculation. -/
def RecordOperator.apply (operator : RecordOperator) (x y : Float) : Float :=
  match operator with
  | add => x + y
  | subtract => x - y
  | multiply => x * y
  | divide => x / y
  | remainder =>
    match floatParts x, floatParts y with
    | (isNegative, .finite a), (_, .finite b) =>
      if b.numerator = 0 then 0.0 / 0.0
      else
        let n := a.numerator * b.denominator % (b.numerator * a.denominator)
        let r := n.toFloat / (a.denominator * b.denominator).toFloat
        if isNegative then -r else r
    | (_, .finite _), (_, .infinite) => x
    | _, _ => 0.0 / 0.0
  | power => x ^ y

/-- An array. The entry that was used last is the first one. -/
abbrev RecordArray := List (List Char × RecordValue)

namespace RecordArray

/-- The number of buckets. -/
def bucketCount : Nat := 64

/-- The bucket of an index: a hash of 32 bits to which each character is added and which is then
multiplied by a prime. -/
def bucket (index : List Char) : Nat :=
  let hash := index.foldl (fun hash c => (hash ^^^ c.toNat) * 16777619 % Nat.pow 2 32) 2166136261
  hash % bucketCount

/-- The value at an index. -/
def find? (array : RecordArray) (index : List Char) : Option RecordValue :=
  List.lookup index array

/-- The array after an entry was used or set. -/
def insert (array : RecordArray) (index : List Char) (value : RecordValue) : RecordArray :=
  (index, value) :: array.filter fun entry => entry.1 ≠ index

/-- The array without an entry. -/
def erase (array : RecordArray) (index : List Char) : RecordArray :=
  array.filter fun entry => entry.1 ≠ index

/-- The indices in the order of their buckets. -/
def indices (array : RecordArray) : List (List Char) :=
  (array.map Prod.fst).mergeSort fun a b => bucket a ≤ bucket b

end RecordArray

end TemplateInspector.Utility
