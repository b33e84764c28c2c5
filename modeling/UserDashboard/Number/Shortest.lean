/-
This file chooses the decimal digits by which a binary number is written.

A number is written with the fewest digits that read back as itself, and among decimals of that
length with the nearer one. For each length from one digit to seventeen the two decimals around
the exact value are tried, in exact arithmetic, by reading them back; seventeen digits are always
enough. Two layouts of the digits are in use. The plain one is always positional and has no point
in a whole number. The one for JSON always shows that the number is no integer, and changes to an
exponent where a positional form would be long.
-/

import UserDashboard.Number.Binary64

namespace UserDashboard.Number

/-- The number `significand · 10 ^ exponent`, without a sign. -/
structure Decimal where
  /-- The digits as one number. -/
  significand : Nat
  /-- The power of ten of the last digit. -/
  exponent : Int
  deriving DecidableEq, Repr

namespace Decimal

/-- The same number without zeros at the end. The bound is on the number of digits. -/
def stripZeros : Nat → Decimal → Decimal
  | 0, decimal => decimal
  | bound + 1, decimal =>
    if decimal.significand ≠ 0 ∧ decimal.significand % 10 = 0 then
      stripZeros bound ⟨decimal.significand / 10, decimal.exponent + 1⟩
    else decimal

/-- The digits, the most significant first. -/
def digits (decimal : Decimal) : List Char :=
  Nat.toDigits 10 decimal.significand

/-- Where the point stands: how many digits, counted from the first, come before it. -/
def pointAt (decimal : Decimal) : Int :=
  decimal.digits.length + decimal.exponent

/-- The digits with a point in place, and zeros where the point lies outside them. A whole number
ends in `wholeEnd`. -/
def positional (wholeEnd : List Char) (decimal : Decimal) : List Char :=
  let digits := decimal.digits
  let point := decimal.pointAt
  if 0 ≤ decimal.exponent then
    digits ++ List.replicate decimal.exponent.toNat '0' ++ wholeEnd
  else if 0 < point then
    digits.take point.toNat ++ '.' :: digits.drop point.toNat
  else
    '0' :: '.' :: List.replicate (-point).toNat '0' ++ digits

/-- One digit before the point and a power of ten after the letter `e`, with its sign. -/
def scientific (decimal : Decimal) : List Char :=
  let power := decimal.pointAt - 1
  let mantissa := match decimal.digits with
    | [] => ['0']
    | [first] => [first]
    | first :: rest => first :: '.' :: rest
  mantissa ++ 'e' :: (if power < 0 then '-' else '+') :: Nat.toDigits 10 power.natAbs

end Decimal

namespace Binary64

/-- Whether a decimal reads back as the magnitude of `number`. -/
def readsBack (number : Binary64) (decimal : Decimal) : Bool :=
  ofDecimal? false decimal.significand decimal.exponent ==
    some { number with negative := false }

/-- The larger power of ten that is not above a ratio, found by walking from an estimate. -/
def decimalMagnitude (numerator denominator : Nat) : Int :=
  let estimate : Int :=
    ((Nat.toDigits 10 numerator).length : Int) - ((Nat.toDigits 10 denominator).length : Int)
  let reaches (power : Int) : Bool :=
    if 0 ≤ power then denominator * Nat.pow 10 power.toNat ≤ numerator
    else denominator ≤ numerator * Nat.pow 10 (-power).toNat
  if reaches (estimate + 1) then estimate + 1
  else if reaches estimate then estimate
  else estimate - 1

/-- The nearer of the two decimals of `length` digits around a ratio, and then the other. -/
def neighbours (numerator denominator : Nat) (length : Nat) : List Decimal :=
  let unit : Int := decimalMagnitude numerator denominator - length + 1
  let (scaled, divisor) :=
    if 0 ≤ unit then (numerator, denominator * Nat.pow 10 unit.toNat)
    else (numerator * Nat.pow 10 (-unit).toNat, denominator)
  let below := scaled / divisor
  if 2 * (scaled % divisor) < divisor then [⟨below, unit⟩, ⟨below + 1, unit⟩]
  else [⟨below + 1, unit⟩, ⟨below, unit⟩]

/-- The shortest decimal that reads back as the magnitude of `number`, from the lengths tried. -/
def shortestFrom (number : Binary64) (numerator denominator : Nat) : List Nat → Decimal
  | [] => ⟨numerator / denominator, 0⟩
  | length :: longer =>
    match (neighbours numerator denominator length).find? number.readsBack with
    | some decimal => decimal.stripZeros 20
    | none => shortestFrom number numerator denominator longer

/-- The shortest decimal that reads back as the magnitude of `number`. -/
def shortest (number : Binary64) : Decimal :=
  if number.isZero then ⟨0, 0⟩
  else
    let (numerator, denominator) := number.ratio
    shortestFrom number numerator denominator ((List.range 17).map (· + 1))

/-- A minus sign for a negative number. -/
def sign (number : Binary64) : List Char :=
  if number.negative then ['-'] else []

/-- The plain text: positional, and without a point in a whole number. -/
def plainText (number : Binary64) : String :=
  String.ofList (number.sign ++ number.shortest.positional [])

/-- The text for JSON: positional from one hundred-thousandth to ten thousand billions, where a
whole number ends in `.0`, and with an exponent outside. -/
def jsonText (number : Binary64) : List Char :=
  let decimal := number.shortest
  let point := decimal.pointAt
  number.sign ++
    (if number.isZero ∨ (-5 < point ∧ point ≤ 16) then decimal.positional ['.', '0']
     else decimal.scientific)

end Binary64

end UserDashboard.Number
