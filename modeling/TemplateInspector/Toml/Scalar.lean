import TemplateInspector.Toml.Value

/-!
# TOML scalars without quotes

Numbers, truth values, dates and times are told apart by the characters they are written with.
-/

namespace TemplateInspector.Toml

/-- Whether a character may stand in a scalar without quotes. -/
def isScalarChar (c : Char) : Bool :=
  c.isAlphanum || c = '+' || c = '-' || c = '_' || c = '.' || c = ':'

/-- Digits without the low lines between them; none if a low line does not stand between two
digits or if there is no digit. -/
def joinDigits? (isDigit : Char → Bool) (text : List Char) : Option (List Char) :=
  match text with
  | [] => none
  | c :: rest => if isDigit c then go c rest else none
where
  /-- The rest of the digits, which follow `last`. -/
  go (last : Char) : List Char → Option (List Char)
    | [] => if last = '_' then none else some [last]
    | c :: rest =>
      if last = '_' then if isDigit c then go c rest else none
      else if c = '_' || isDigit c then (go c rest).map (last :: ·)
      else none

/-- The value of a digit in a base up to sixteen. -/
def digitValue (c : Char) : Nat :=
  if c.isDigit then c.toNat - '0'.toNat
  else if 'a' ≤ c then c.toNat - 'a'.toNat + 10
  else c.toNat - 'A'.toNat + 10

/-- Whether a character is a hexadecimal digit. -/
def isHexDigit (c : Char) : Bool :=
  c.isDigit || ('a' ≤ c && c ≤ 'f') || ('A' ≤ c && c ≤ 'F')

/-- The number that digits of a base write. -/
def basedNumber? (base : Nat) (isDigit : Char → Bool) (text : List Char) : Option Int :=
  (joinDigits? isDigit text).map fun digits =>
    (digits.foldl (fun n c => base * n + digitValue c) 0 : Nat)

/-- A sign and the text after it. -/
def splitSign : List Char → Bool × List Char
  | '-' :: rest => (true, rest)
  | '+' :: rest => (false, rest)
  | text => (false, text)

/-- The digits of a decimal number, which has no leading zero. -/
def decimalDigits? (text : List Char) : Option (List Char) := do
  let digits ← joinDigits? Char.isDigit text
  if digits.head? = some '0' && digits.length ≠ 1 then none else some digits

/-- An integer. -/
def integer? (text : List Char) : Option Int :=
  match text with
  | '0' :: 'x' :: digits => basedNumber? 16 isHexDigit digits
  | '0' :: 'o' :: digits => basedNumber? 8 (fun c => '0' ≤ c && c ≤ '7') digits
  | '0' :: 'b' :: digits => basedNumber? 2 (fun c => c = '0' || c = '1') digits
  | text =>
    let (negative, text) := splitSign text
    (decimalDigits? text).map fun digits =>
      if negative then -(digitsValue digits : Int) else digitsValue digits

/-- Divides a text at the first character of a class, which belongs to neither part. -/
def splitAt? (test : Char → Bool) (text : List Char) : List Char × Option (List Char) :=
  match text.dropWhile fun c => !test c with
  | [] => (text, none)
  | _ :: rest => (text.takeWhile fun c => !test c, some rest)

/-- A floating-point number; yields whether it is in range. -/
def float? (text : List Char) : Option Bool := do
  let (_, text) := splitSign text
  if text = "inf".toList || text = "nan".toList then return true
  let (mantissa, exponentText) := splitAt? (fun c => c = 'e' || c = 'E') text
  let (whole, fractionText) := splitAt? (· = '.') mantissa
  let digits ← decimalDigits? whole
  let fraction ← match fractionText with
    | none => some []
    | some text => joinDigits? Char.isDigit text
  let exponent ← match exponentText with
    | none => some 0
    | some text =>
      let (negative, text) := splitSign text
      (joinDigits? Char.isDigit text).map fun digits =>
        if negative then -(digitsValue digits : Int) else digitsValue digits
  if fractionText.isNone && exponentText.isNone then none
  else some (isFiniteDecimal (digitsValue (digits ++ fraction)) (exponent - fraction.length))

/-- The number that exactly `count` digits at the beginning of a text write, and the rest. -/
def fixedDigits? (count : Nat) (text : List Char) : Option (Nat × List Char) :=
  let digits := text.take count
  if digits.length = count && digits.all Char.isDigit then
    some (digitsValue digits, text.drop count)
  else none

/-- The number of days of a month. -/
def daysOfMonth (year month : Nat) : Nat :=
  if month = 2 then
    if year % 4 = 0 && (year % 100 ≠ 0 || year % 400 = 0) then 29 else 28
  else if month = 4 || month = 6 || month = 9 || month = 11 then 30
  else 31

/-- Reads a date. -/
def date? (text : List Char) : Option (List Char) := do
  let (year, text) ← fixedDigits? 4 text
  let '-' :: text := text | none
  let (month, text) ← fixedDigits? 2 text
  let '-' :: text := text | none
  let (day, text) ← fixedDigits? 2 text
  if 1 ≤ month && month ≤ 12 && 1 ≤ day && day ≤ daysOfMonth year month then some text else none

/-- Reads a time of day; seconds and their fraction may be left out. -/
def time? (text : List Char) : Option (List Char) := do
  let (hour, text) ← fixedDigits? 2 text
  let ':' :: text := text | none
  let (minute, text) ← fixedDigits? 2 text
  if 23 < hour || 59 < minute then none
  match text with
  | ':' :: text =>
    let (second, text) ← fixedDigits? 2 text
    if 60 < second then none
    match text with
    | '.' :: text =>
      let rest := text.dropWhile Char.isDigit
      if rest.length = text.length then none else some rest
    | text => some text
  | text => some text

/-- Reads the offset of a time zone. -/
def offset? (text : List Char) : Option (List Char) := do
  match text with
  | c :: text =>
    if c = 'Z' || c = 'z' then some text
    else if c = '+' || c = '-' then
      let (hour, text) ← fixedDigits? 2 text
      let ':' :: text := text | none
      let (minute, text) ← fixedDigits? 2 text
      if hour ≤ 23 && minute ≤ 59 then some text else none
    else none
  | [] => none

/-- Whether a text is a date, a time of day, or both with or without an offset. -/
def isDatetime (text : List Char) : Bool :=
  match date? text with
  | some [] => true
  | some (c :: rest) =>
    (c = 'T' || c = 't' || c = ' ') &&
      match time? rest with
      | some [] => true
      | some zone => offset? zone = some []
      | none => false
  | none => time? text = some []

/-- The scalar that is written without quotes. -/
def scalar? (text : List Char) : Option Toml :=
  if text = "true".toList then some (.bool true)
  else if text = "false".toList then some (.bool false)
  else match integer? text with
    | some value => some (.integer value)
    | none => match float? text with
      | some inRange => some (.float inRange)
      | none => if isDatetime text then some .datetime else none

end TemplateInspector.Toml
