/-
This file holds the binary numbers of 64 bits as exact values, and the one rule by which every
operation on them rounds.

Amounts of money, prices and hit rates are such numbers. A finite one is a sign and a whole
number of units `mantissa · 2 ^ exponent`, kept in the one canonical form that the format has, so
that equal numbers are equal values and no operation of the machine has to be trusted. An
operation computes its exact result as a ratio of natural numbers and hands it to `nearest?`,
which rounds to the nearest number of the format and to an even mantissa on a tie, and answers
nothing when the result lies beyond the largest one.
-/
namespace UserDashboard.Number

/-- The smallest mantissa of 53 bits, which is the 52nd power of two. -/
def leastFull : Nat := 4503599627370496

/-- The canonical form: 53 bits in the mantissa, or fewer at the smallest exponent. -/
def Canonical (mantissa : Nat) (exponent : Int) : Prop :=
  (mantissa < leastFull ∧ exponent = -1074) ∨
    (leastFull ≤ mantissa ∧ mantissa < 2 * leastFull ∧ -1074 ≤ exponent ∧ exponent ≤ 971)

instance (mantissa : Nat) (exponent : Int) : Decidable (Canonical mantissa exponent) :=
  inferInstanceAs (Decidable (_ ∨ _))

/-- A finite binary number of 64 bits. Zero has both signs. -/
structure Binary64 where
  /-- Whether the sign is minus. -/
  negative : Bool
  /-- How many units. -/
  mantissa : Nat
  /-- The power of two that is the unit. -/
  exponent : Int
  /-- Each number has one form. -/
  canonical : Canonical mantissa exponent
  deriving DecidableEq

namespace Binary64

/-- Zero with a sign. -/
def zero (negative : Bool) : Binary64 :=
  ⟨negative, 0, -1074, by decide⟩

instance : Inhabited Binary64 := ⟨zero false⟩

/-- Whether the number is zero, of either sign. -/
def isZero (number : Binary64) : Bool :=
  number.mantissa == 0

/-- A ratio divided by a power of two, as a ratio. -/
def shiftedRatio (numerator denominator : Nat) (exponent : Int) : Nat × Nat :=
  if 0 ≤ exponent then (numerator, denominator * Nat.pow 2 exponent.toNat)
  else (numerator * Nat.pow 2 (-exponent).toNat, denominator)

/-- The whole number nearest to a ratio, an even one on a tie. -/
def roundHalfEven (numerator denominator : Nat) : Nat :=
  let quotient := numerator / denominator
  let twiceRest := 2 * (numerator % denominator)
  if twiceRest < denominator then quotient
  else if denominator < twiceRest then quotient + 1
  else if quotient % 2 = 0 then quotient else quotient + 1

/-- The exponent at which a ratio has 53 bits before its point, or the smallest exponent. -/
def exponentFor (numerator denominator : Nat) : Int :=
  let low := (Nat.log2 numerator : Int) - (Nat.log2 denominator : Int) - 53
  let (scaled, unit) := shiftedRatio numerator denominator low
  max (-1074) (if scaled / unit < 2 * leastFull then low else low + 1)

/-- The number of the format nearest to a ratio, or nothing beyond the largest one. -/
def nearest? (negative : Bool) (numerator denominator : Nat) : Option Binary64 :=
  if numerator = 0 then some (zero negative)
  else
    let exponent := exponentFor numerator denominator
    let (scaled, unit) := shiftedRatio numerator denominator exponent
    let mantissa := roundHalfEven scaled unit
    let (mantissa, exponent) :=
      if mantissa = 2 * leastFull then (leastFull, exponent + 1) else (mantissa, exponent)
    if canonical : Canonical mantissa exponent then some ⟨negative, mantissa, exponent, canonical⟩
    else none

/-- The magnitude as a ratio. -/
def ratio (number : Binary64) : Nat × Nat :=
  if 0 ≤ number.exponent then (number.mantissa * Nat.pow 2 number.exponent.toNat, 1)
  else (number.mantissa, Nat.pow 2 (-number.exponent).toNat)

/-- The number of the format nearest to a whole number. -/
def ofNat? (value : Nat) : Option Binary64 :=
  nearest? false value 1

/-- The rounded product. -/
def mul? (left right : Binary64) : Option Binary64 :=
  let (leftNumerator, leftDenominator) := left.ratio
  let (rightNumerator, rightDenominator) := right.ratio
  nearest? (left.negative != right.negative) (leftNumerator * rightNumerator)
    (leftDenominator * rightDenominator)

/-- The rounded quotient, for a divisor that is not zero. -/
def div? (left right : Binary64) : Option Binary64 :=
  let (leftNumerator, leftDenominator) := left.ratio
  let (rightNumerator, rightDenominator) := right.ratio
  nearest? (left.negative != right.negative) (leftNumerator * rightDenominator)
    (leftDenominator * rightNumerator)

/-- The number nearest to `significand · 10 ^ exponent`. Exponents beyond the reach of the
format are answered without computing the power. -/
def ofDecimal? (negative : Bool) (significand : Nat) (exponent : Int) : Option Binary64 :=
  if significand = 0 then some (zero negative)
  else
    let magnitude := ((digits significand).length : Int) + exponent
    if 310 < magnitude then none
    else if magnitude < -330 then some (zero negative)
    else if 0 ≤ exponent then nearest? negative (significand * Nat.pow 10 exponent.toNat) 1
    else nearest? negative significand (Nat.pow 10 (-exponent).toNat)
where
  /-- The digits of a number, the most significant first. -/
  digits (value : Nat) : List Char := Nat.toDigits 10 value

/-- The whole number nearest to a magnitude, a half going away from zero, with the sign. -/
def roundedInt (number : Binary64) : Int :=
  let (numerator, denominator) := number.ratio
  let magnitude : Int := ((2 * numerator + denominator) / (2 * denominator) : Nat)
  if number.negative then -magnitude else magnitude

/-- A number is its own nearest number's form: two numbers with the same sign and the same
canonical pair are the same. -/
@[ext] theorem ext {left right : Binary64} (sign : left.negative = right.negative)
    (units : left.mantissa = right.mantissa) (unit : left.exponent = right.exponent) :
    left = right := by
  cases left
  cases right
  simp_all

end Binary64

end UserDashboard.Number
