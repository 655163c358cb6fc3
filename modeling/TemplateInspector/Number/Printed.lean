/-!
# Printed numbers

Numbers that are fractions of natural numbers, written with a number of decimal places, or with a
number of digits and a power of ten. They are rounded to the nearest number that can be written so;
of two the one whose last digit is even is taken. A floating-point number of 64 bits is such a
fraction.
-/

namespace TemplateInspector

/-- The natural number that is nearest to a fraction; of two the even one. -/
def roundedQuotient (numerator denominator : Nat) : Nat :=
  let below := numerator / denominator
  let excess := 2 * (numerator % denominator)
  if excess < denominator || (excess = denominator && below % 2 = 0) then below else below + 1

/-- A number that is no less than zero. -/
structure Fraction where
  /-- What is divided. -/
  numerator : Nat
  /-- What it is divided by. -/
  denominator : Nat
  denominator_pos : 0 < denominator

namespace Fraction

/-- The number zero. -/
def zero : Fraction := ⟨0, 1, by decide⟩

/-- A natural number times a power of a base. -/
def scaled (n : Nat) (base : Nat) (h : 0 < base) (exponent : Int) : Fraction :=
  if 0 ≤ exponent then ⟨n * Nat.pow base exponent.toNat, 1, by decide⟩
  else ⟨n, Nat.pow base exponent.natAbs, Nat.pow_pos h⟩

/-- Digits with zeros before them up to a width. -/
def paddedDigits (width : Nat) (n : Nat) : List Char :=
  let digits := Nat.toDigits 10 n
  List.replicate (width - digits.length) '0' ++ digits

/-- The text of a number with decimal places. -/
def fixedText (x : Fraction) (places : Nat) (keepsPoint : Bool) : List Char :=
  let n := roundedQuotient (x.numerator * Nat.pow 10 places) x.denominator
  let digits := paddedDigits (places + 1) n
  digits.take (digits.length - places) ++ (if 0 < places || keepsPoint then ['.'] else []) ++
    digits.drop (digits.length - places)

/-- Whether a number is less than a power of ten. -/
def isBelowPower (x : Fraction) (exponent : Int) : Bool :=
  if 0 ≤ exponent then x.numerator < x.denominator * Nat.pow 10 exponent.toNat
  else x.numerator * Nat.pow 10 exponent.natAbs < x.denominator

/-- The power of ten of the first digit of a number that is not zero. It lies next to the difference
of the numbers of digits. -/
def decimalExponent (x : Fraction) : Int :=
  let guess : Int := (Nat.toDigits 10 x.numerator).length - (Nat.toDigits 10 x.denominator).length
  if x.isBelowPower guess then guess - 1 else guess

/-- The digits of a number behind its first one, rounded, and the power of ten of the first one. -/
def significand (x : Fraction) (places : Nat) : Nat × Int :=
  if x.numerator = 0 then (0, 0)
  else
    let exponent := x.decimalExponent
    let shift : Int := places - exponent
    let n :=
      if 0 ≤ shift then roundedQuotient (x.numerator * Nat.pow 10 shift.toNat) x.denominator
      else roundedQuotient x.numerator (x.denominator * Nat.pow 10 shift.natAbs)
    if n = Nat.pow 10 (places + 1) then (n / 10, exponent + 1) else (n, exponent)

/-- The text of a power of ten, which has two digits at least. -/
def exponentText (exponent : Int) : List Char :=
  'e' :: (if exponent < 0 then '-' else '+') :: paddedDigits 2 exponent.natAbs

/-- The text of a number with one digit before the point and a power of ten. -/
def scientificText (x : Fraction) (places : Nat) (keepsPoint : Bool) : List Char :=
  let (n, exponent) := x.significand places
  let digits := paddedDigits (places + 1) n
  digits.take 1 ++ (if 0 < places || keepsPoint then ['.'] else []) ++ digits.drop 1 ++
    exponentText exponent

/-- A text of digits without the zeros at its end and the point before them. -/
def dropEndZeros (text : List Char) : List Char :=
  if !text.contains '.' then text
  else
    let kept := text.reverse.dropWhile (· = '0')
    (if kept.head? = some '.' then kept.drop 1 else kept).reverse

/-- The text of a number with a number of digits. Very great and very small numbers have a power of
ten. -/
def generalText (x : Fraction) (digits : Nat) (keepsZeros : Bool) : List Char :=
  let digits := max digits 1
  let (_, exponent) := x.significand (digits - 1)
  let trim (text : List Char) : List Char := if keepsZeros then text else dropEndZeros text
  if exponent < -4 || (digits : Int) ≤ exponent then
    let text := x.scientificText (digits - 1) keepsZeros
    let mantissa := text.takeWhile (· ≠ 'e')
    trim mantissa ++ text.drop mantissa.length
  else trim (x.fixedText ((digits : Int) - 1 - exponent).toNat keepsZeros)

end Fraction

/-- What a floating-point number of 64 bits is. -/
inductive Magnitude
  | finite (value : Fraction)
  | infinite
  | undefined

/-- The sign and the magnitude of a floating-point number of 64 bits. What is no number counts as
negative. -/
def floatParts (x : Float) : Bool × Magnitude :=
  let bits := x.toBits.toNat
  let isNegative := bits / Nat.pow 2 63 = 1
  let exponent : Nat := bits / Nat.pow 2 52 % Nat.pow 2 11
  let mantissa := bits % Nat.pow 2 52
  if exponent = 2047 then if mantissa = 0 then (isNegative, .infinite) else (true, .undefined)
  else if exponent = 0 then
    (isNegative, .finite (.scaled mantissa 2 (by decide) (-1074)))
  else
    (isNegative,
      .finite (.scaled (mantissa + Nat.pow 2 52) 2 (by decide) ((exponent : Int) - 1075)))

/-- How a number is printed. -/
structure NumberStyle where
  /-- The flags. -/
  flags : List Char := []
  /-- The least width. -/
  width : Nat := 0
  /-- The number of places or digits. -/
  precision : Option Nat := none

namespace NumberStyle

/-- A sign and digits, or a text, up to the width of a style. -/
def pad (style : NumberStyle) (allowsZeros : Bool) (sign text : List Char) : List Char :=
  let missing := style.width - sign.length - text.length
  if style.flags.contains '-' then sign ++ text ++ List.replicate missing ' '
  else if allowsZeros && style.flags.contains '0' then
    sign ++ List.replicate missing '0' ++ text
  else List.replicate missing ' ' ++ sign ++ text

/-- The sign of a number. -/
def signText (style : NumberStyle) (isNegative : Bool) : List Char :=
  if isNegative then ['-']
  else if style.flags.contains '+' then ['+']
  else if style.flags.contains ' ' then [' ']
  else []

/-- The text of a number in the way that a letter names: with places, with a power of ten, or with
whatever is shorter. -/
def render (style : NumberStyle) (letter : Char) (isNegative : Bool) (value : Magnitude) :
    List Char :=
  let sign := style.signText isNegative
  let cased (text : List Char) : List Char :=
    if letter.isUpper then text.map Char.toUpper else text
  let precision := style.precision.getD 6
  let keeps := style.flags.contains '#'
  match value with
  | .infinite => style.pad false sign (cased ['i', 'n', 'f'])
  | .undefined => style.pad false sign (cased ['n', 'a', 'n'])
  | .finite x =>
    style.pad true sign (cased (match letter.toLower with
      | 'e' => x.scientificText precision keeps
      | 'g' => x.generalText precision keeps
      | _ => x.fixedText precision keeps))

/-- The text of a floating-point number of 64 bits. -/
def renderFloat (style : NumberStyle) (letter : Char) (x : Float) : List Char :=
  let (isNegative, value) := floatParts x
  style.render letter isNegative value

/-- The text of a whole number in a base. -/
def renderInt (style : NumberStyle) (base : Nat) (isUpper isSigned : Bool) (value : Int) :
    List Char :=
  let magnitude := if isSigned || 0 ≤ value then value.natAbs else (value % Nat.pow 2 64).toNat
  let digits := Nat.toDigits base magnitude
  let digits := if isUpper then digits.map Char.toUpper else digits
  let digits := if style.precision = some 0 && value = 0 then [] else digits
  let digits := List.replicate (style.precision.getD 0 - digits.length) '0' ++ digits
  let mark : List Char :=
    if !style.flags.contains '#' then []
    else if base = 8 then if digits.head? = some '0' then [] else ['0']
    else if base = 16 && value ≠ 0 then ['0', if isUpper then 'X' else 'x']
    else []
  let sign := if isSigned then style.signText (value < 0) else []
  style.pad style.precision.isNone (sign ++ mark) digits

end NumberStyle

/-- What a text begins with that writes a number: its sign, its magnitude, and what is behind it. -/
structure LeadingNumber where
  /-- Whether the number is less than zero. -/
  isNegative : Bool
  /-- Its digits as a whole number. -/
  digits : Nat
  /-- The power of ten by which they are multiplied. -/
  exponent : Int
  /-- What is behind the number. -/
  rest : List Char

/-- The decimal number that a text begins with. -/
def leadingDecimal? (text : List Char) : Option LeadingNumber :=
  let (isNegative, text) := match text with
    | '-' :: rest => (true, rest)
    | '+' :: rest => (false, rest)
    | text => (false, text)
  let whole := text.takeWhile Char.isDigit
  let behind := text.drop whole.length
  let places := match behind with
    | '.' :: rest => rest.takeWhile Char.isDigit
    | _ => []
  if whole.isEmpty && places.isEmpty then none
  else
    let value (digits : List Char) : Nat :=
      digits.foldl (fun n c => 10 * n + (c.toNat - '0'.toNat)) 0
    let behind := match behind with
      | '.' :: rest => rest.drop places.length
      | behind => behind
    let (exponent, behind) : Int × List Char := match behind with
      | e :: '-' :: c :: rest =>
        if (e = 'e' || e = 'E') && c.isDigit then
          (-(value ((c :: rest).takeWhile Char.isDigit) : Int), (c :: rest).dropWhile Char.isDigit)
        else (0, behind)
      | e :: '+' :: c :: rest =>
        if (e = 'e' || e = 'E') && c.isDigit then
          ((value ((c :: rest).takeWhile Char.isDigit) : Int), (c :: rest).dropWhile Char.isDigit)
        else (0, behind)
      | e :: c :: rest =>
        if (e = 'e' || e = 'E') && c.isDigit then
          ((value ((c :: rest).takeWhile Char.isDigit) : Int), (c :: rest).dropWhile Char.isDigit)
        else (0, behind)
      | behind => (0, behind)
    some ⟨isNegative, value (whole ++ places), exponent - places.length, behind⟩

/-- The floating-point number of 64 bits that is nearest to a decimal number. Powers of ten beyond
all such numbers are not computed. -/
def floatOfDecimal (isNegative : Bool) (digits : Nat) (exponent : Int) : Float :=
  let size : Int := (Nat.toDigits 10 digits).length + exponent
  let magnitude : Float :=
    if digits = 0 || size < -400 then 0
    else if 400 < size then 1.0 / 0.0
    else Float.ofScientific digits (exponent < 0) exponent.natAbs
  if isNegative then -magnitude else magnitude

end TemplateInspector
