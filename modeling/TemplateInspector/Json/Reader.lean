import TemplateInspector.Json.Value
import TemplateInspector.Number.Decimal
import TemplateInspector.Text.Bytes

/-!
# Reading JSON

The reader accepts strict JSON: no comments, no trailing commas, no control characters in strings.
It takes any nesting, any number and any escape of four hexadecimal digits; what a value has to be
like beyond that is decided by those who use it. Bytes that are no text are read as strings without
a text where they stand in strings, and refused elsewhere.
-/

namespace TemplateInspector.Json

/-- The text after the blanks that may stand between tokens. -/
def skipBlanks (input : List Char) : List Char :=
  input.dropWhile fun c => c = ' ' || c = '\t' || c = '\n' || c = '\r'

/-- The value of a hexadecimal digit. -/
def hexDigit? (c : Char) : Option Nat :=
  if '0' ≤ c ∧ c ≤ '9' then some (c.toNat - '0'.toNat)
  else if 'a' ≤ c ∧ c ≤ 'f' then some (c.toNat - 'a'.toNat + 10)
  else if 'A' ≤ c ∧ c ≤ 'F' then some (c.toNat - 'A'.toNat + 10)
  else none

/-- The number that four hexadecimal digits write. -/
def hexCode? (a b c d : Char) : Option Nat := do
  let a ← hexDigit? a
  let b ← hexDigit? b
  let c ← hexDigit? c
  let d ← hexDigit? d
  return 16 * (16 * (16 * a + b) + c) + d

/-- The character that a backslash and another character stand for. -/
def shortEscape? (c : Char) : Option Char :=
  if c = '"' ∨ c = '\\' ∨ c = '/' then some c
  else if c = 'b' then some '\x08'
  else if c = 'f' then some '\x0c'
  else if c = 'n' then some '\n'
  else if c = 'r' then some '\r'
  else if c = 't' then some '\t'
  else none

/-- What a string is made of: characters, and the 16-bit units that escapes name. -/
inductive TextUnit
  | char (c : Char)
  | unit (code : Nat)

/-- The character of a unit that is no surrogate, or of a pair of surrogates. -/
def pairUnits (high low : Nat) : Char :=
  Char.ofNat (0x10000 + (high - 0xd800) * 0x400 + (low - 0xdc00))

/-- The characters of a string; none if a surrogate stands alone. -/
def joinUnits : List TextUnit → Option (List Char)
  | [] => some []
  | .char c :: rest => (joinUnits rest).map (c :: ·)
  | [.unit code] =>
    if code < 0xd800 ∨ 0xe000 ≤ code then some [Char.ofNat code] else none
  | .unit code :: next :: rest =>
    if code < 0xd800 ∨ 0xe000 ≤ code then (joinUnits (next :: rest)).map (Char.ofNat code :: ·)
    else match next with
      | .unit low =>
        if code < 0xdc00 ∧ 0xdc00 ≤ low ∧ low < 0xe000 then
          (joinUnits rest).map (pairUnits code low :: ·)
        else none
      | .char _ => none

/-- Reads a string from behind its opening quote. `run` are the units read so far, last first. -/
def readUnits (run : List TextUnit) : List Char → Option (List TextUnit × List Char)
  | [] => none
  | c :: rest =>
    if c = '"' then some (run.reverse, rest)
    else if c = '\\' then
      match rest with
      | 'u' :: a :: b :: c :: d :: rest =>
        match hexCode? a b c d with
        | some code => readUnits (.unit code :: run) rest
        | none => none
      | e :: rest =>
        match shortEscape? e with
        | some c => readUnits (.char c :: run) rest
        | none => none
      | [] => none
    else if c.toNat < 0x20 then none
    else readUnits (.char c :: run) rest

/-- Reads a string from behind its opening quote. -/
def readString (input : List Char) : Option (Option String × List Char) :=
  (readUnits [] input).map fun (units, rest) => ((joinUnits units).map String.ofList, rest)

/-- Divides a text after its leading digits. -/
def spanDigits (input : List Char) : List Char × List Char :=
  (input.takeWhile Char.isDigit, input.dropWhile Char.isDigit)

/-- Reads an optional fraction: its digits, or none if there is no fraction. -/
def readFraction : List Char → Option (Option (List Char) × List Char)
  | '.' :: rest =>
    let (digits, rest) := spanDigits rest
    if digits.isEmpty then none else some (some digits, rest)
  | input => some (none, input)

/-- Reads the digits of an exponent. -/
def readExponentDigits (negative : Bool) (input : List Char) : Option (Option Int × List Char) :=
  let (digits, rest) := spanDigits input
  if digits.isEmpty then none
  else some (some (if negative then -(digitsValue digits : Int) else digitsValue digits), rest)

/-- Reads an optional exponent. -/
def readExponent : List Char → Option (Option Int × List Char)
  | [] => some (none, [])
  | c :: rest =>
    if c = 'e' ∨ c = 'E' then
      match rest with
      | '+' :: rest => readExponentDigits false rest
      | '-' :: rest => readExponentDigits true rest
      | rest => readExponentDigits false rest
    else some (none, c :: rest)

/-- Reads a number without its sign. A leading zero stands alone. -/
def readMagnitude (negative : Bool) (input : List Char) : Option (JsonNumber × List Char) := do
  let (whole, rest) := spanDigits input
  if whole.isEmpty ∨ (whole.head? = some '0' ∧ whole.length ≠ 1) then none
  else
    let (fraction, rest) ← readFraction rest
    let (exponent, rest) ← readExponent rest
    match fraction, exponent with
    | none, none => some (.integer negative (digitsValue whole), rest)
    | _, _ => some (.decimal negative whole (fraction.getD []) (exponent.getD 0), rest)

/-- Reads a number. -/
def readNumber : List Char → Option (JsonNumber × List Char)
  | '-' :: rest => readMagnitude true rest
  | input => readMagnitude false input

/-- Reads a given word. -/
def readWord (word : String) (value : Json) (input : List Char) : Option (Json × List Char) :=
  if word.toList.isPrefixOf input then some (value, input.drop word.toList.length) else none

mutual

/-- Reads a value. `fuel` bounds the number of nested steps. -/
def readValue : Nat → List Char → Option (Json × List Char)
  | 0, _ => none
  | fuel + 1, input =>
    match skipBlanks input with
    | [] => none
    | c :: rest =>
      if c = '"' then (readString rest).map fun (text, rest) => (.string text, rest)
      else if c = '[' then
        match skipBlanks rest with
        | ']' :: rest => some (.array [], rest)
        | rest => (readItems fuel [] rest).map fun (items, rest) => (.array items, rest)
      else if c = '\x7b' then
        match skipBlanks rest with
        | '\x7d' :: rest => some (.object [], rest)
        | rest => (readFields fuel [] rest).map fun (fields, rest) => (.object fields, rest)
      else if c = 'n' then readWord "null" .null (c :: rest)
      else if c = 't' then readWord "true" (.bool true) (c :: rest)
      else if c = 'f' then readWord "false" (.bool false) (c :: rest)
      else (readNumber (c :: rest)).map fun (n, rest) => (.number n, rest)

/-- Reads the items of an array that has one, up to its end. `run` are the items so far, last
first. -/
def readItems : Nat → List Json → List Char → Option (List Json × List Char)
  | 0, _, _ => none
  | fuel + 1, run, input =>
    match readValue fuel input with
    | none => none
    | some (item, rest) =>
      match skipBlanks rest with
      | ',' :: rest => readItems fuel (item :: run) rest
      | ']' :: rest => some ((item :: run).reverse, rest)
      | _ => none

/-- Reads the fields of an object that has one, up to its end. `run` are the fields so far, last
first. -/
def readFields :
    Nat → List (Option String × Json) → List Char → Option (List (Option String × Json) × List Char)
  | 0, _, _ => none
  | fuel + 1, run, input =>
    match skipBlanks input with
    | '"' :: rest =>
      match readString rest with
      | none => none
      | some (name, rest) =>
        match skipBlanks rest with
        | ':' :: rest =>
          match readValue fuel rest with
          | none => none
          | some (value, rest) =>
            match skipBlanks rest with
            | ',' :: rest => readFields fuel ((name, value) :: run) rest
            | '\x7d' :: rest => some (((name, value) :: run).reverse, rest)
            | _ => none
        | _ => none
    | _ => none

end

/-- Reads a text that is one value, with blanks around it. -/
def read (input : List Char) : Option Json :=
  match readValue (2 * input.length + 2) input with
  | some (value, rest) => if (skipBlanks rest).isEmpty then some value else none
  | none => none

/-- Reads a text that is one value, with blanks around it. -/
def parse (text : String) : Option Json :=
  read text.toList

/-- What is read in place of a byte that belongs to no character: an escape that names no character
either, behind a letter, so that it is refused outside of strings and after a backslash. -/
def brokenByte : List Char := ['x', '\\', 'u', 'd', 'c', '0', '0']

/-- Reads bytes that are one value, with blanks around it. -/
def parseBytes (bytes : ByteArray) : Option Json :=
  read (Text.decodeWith brokenByte (bytes.toList.map UInt8.toNat))

end TemplateInspector.Json
