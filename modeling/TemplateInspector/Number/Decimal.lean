/-!
# Decimal numbers

Numbers that are written with a power of ten, and whether they lie in the range of floating-point
numbers of 64 bits. The range is told in two ways: for the number as it is written, and for a number
whose digits are taken into a word of 64 bits first, which is rounded twice on its way.
-/

namespace TemplateInspector

/-- The value of a decimal digit. -/
def digitValue (c : Char) : Nat :=
  c.toNat - '0'.toNat

/-- The number that decimal digits write. -/
def digitsValue (digits : List Char) : Nat :=
  digits.foldl (fun n c => 10 * n + digitValue c) 0

/-- The least number that rounds to infinity: halfway between the greatest number in range and two
to the power of 1024. -/
def overflowBound : Nat := Nat.pow 2 1024 - Nat.pow 2 970

/-- Whether `magnitude` times ten to the power of `exponent` is in range. Numbers of very many or
very few digits are told by the number of digits, so that no great power is computed. -/
def isFiniteDecimal (magnitude : Nat) (exponent : Int) : Bool :=
  let digits := (Nat.toDigits 10 magnitude).length
  if magnitude = 0 then true
  else if exponent + digits > 310 then false
  else if exponent + digits < 300 then true
  else if exponent < 0 then magnitude < overflowBound * Nat.pow 10 exponent.natAbs
  else magnitude * Nat.pow 10 exponent.toNat < overflowBound

/-- Writes digits behind a number for as long as it stays below two to the power of 64. Yields the
number and the digits that are left. -/
def takeWord (n : Nat) : List Char → Nat × List Char
  | [] => (n, [])
  | c :: rest =>
    let next := 10 * n + digitValue c
    if next < Nat.pow 2 64 then takeWord next rest else (n, c :: rest)

/-- The word and the power of ten that a number is taken for, by its digits before and after the
point. Digits that are left before the point count as zeros, those after it as nothing. -/
def wordDecimal (whole places : List Char) (exponent : Int) : Nat × Int :=
  let (n, left) := takeWord 0 whole
  let (significand, unused) := takeWord n places
  (significand, exponent + left.length - (places.length - unused.length : Nat))

/-- The number of 53 binary digits, and zeros behind them, that is nearest to `n`. Of two it is the
one whose last digit is even. -/
def nearestFloat (n : Nat) : Nat :=
  let unit := Nat.pow 2 (n.log2 + 1 - 53)
  let below := n / unit
  let excess := 2 * (n % unit)
  if excess < unit || (excess = unit && below % 2 = 0) then below * unit else (below + 1) * unit

/-- Whether a word times a power of ten is in range, where both are rounded before they are
multiplied. A power beyond the range itself is refused for all but zero. -/
def isFiniteProduct (significand : Nat) (exponent : Int) : Bool :=
  if significand = 0 || exponent < 0 then true
  else if 308 < exponent then false
  else nearestFloat significand * nearestFloat (Nat.pow 10 exponent.toNat) < overflowBound

end TemplateInspector
