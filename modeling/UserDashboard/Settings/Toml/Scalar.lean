/-
This file reads the numbers, truth values and dates of a settings file.

Underscores may stand between the digits of a number. A whole number is decimal, or has a sign of
its base before it, and fits 64 bits with a sign. Dates and times of day are checked and kept as
text, in one spelling and with at most nine digits after the seconds.
-/

import UserDashboard.Settings.Value
import UserDashboard.Time.Calendar

namespace UserDashboard.Settings.Toml

open Number Text Time

/-! ### Numbers -/

/-- Digits of a base, without the underscores between them. -/
def grouped? (isDigit : Char → Bool) (characters : List Char) : Option (List Char) :=
  let groups := fields '_' characters
  if groups.all fun group => !group.isEmpty && group.all isDigit then some groups.flatten else none

/-- The value of digits of a base. -/
def inBase? (base : Nat) (characters : List Char) : Option Nat := do
  let isDigit (c : Char) : Bool := (hexDigit? c).any (· < base)
  let values ← (← grouped? isDigit characters).mapM hexDigit?
  some (values.foldl (fun value digit => value * base + digit) 0)

/-- Decimal digits without a zero in front of others. -/
def decimalDigits? (characters : List Char) : Option (List Char) := do
  let digits ← grouped? Char.isDigit characters
  if digits.head? = some '0' ∧ digits.length ≠ 1 then none else some digits

/-- A sign, and whether it is a minus. -/
def cutSign : List Char → Bool × List Char
  | '-' :: rest => (true, rest)
  | '+' :: rest => (false, rest)
  | rest => (false, rest)

/-- A whole number of 64 bits with a sign. -/
def whole? (value : Int) : Option Value :=
  if int64Min ≤ value ∧ value ≤ int64Max then some (.whole value) else none

/-- A decimal whole number. -/
def decimalWhole? (negative : Bool) (characters : List Char) : Option Value := do
  let value ← readNat? (← decimalDigits? characters)
  whole? (if negative then -value else value)

/-- The power of ten of a number. -/
def power? (characters : List Char) : Option Int := do
  let (negative, digits) := cutSign characters
  let value ← readNat? (← grouped? Char.isDigit digits)
  some (if negative then -value else value)

/-- A number with a fraction, a power of ten, or both. -/
def fractional? (negative : Bool) (characters : List Char) : Option Value := do
  let (mantissa, power) ← match cutFirst? 'e' (characters.map fun c => if c = 'E' then 'e' else c) with
    | some (mantissa, power) => (power? power).map fun power => (mantissa, power)
    | none => some (characters, 0)
  let (before, after) ← match cutFirst? '.' mantissa with
    | some (before, after) => (grouped? Char.isDigit after).map fun after => (before, after)
    | none => some (mantissa, [])
  let digits := (← decimalDigits? before) ++ after
  let significand ← readNat? digits
  (Binary64.ofDecimal? negative significand (power - after.length)).map Value.ofReal

/-- A number. -/
def number? (characters : List Char) : Option Value :=
  match characters with
  | '0' :: 'x' :: digits => (inBase? 16 digits).bind fun value => whole? value
  | '0' :: 'o' :: digits => (inBase? 8 digits).bind fun value => whole? value
  | '0' :: 'b' :: digits => (inBase? 2 digits).bind fun value => whole? value
  | _ =>
    let (negative, digits) := cutSign characters
    if digits = "inf".toList then some (.amount (.infinite negative))
    else if digits = "nan".toList then some (.amount .undefined)
    else if digits.any fun c => c = '.' || c = 'e' || c = 'E' then fractional? negative digits
    else decimalWhole? negative digits

/-! ### Dates -/

/-- A number in exactly so many digits, and what follows it. -/
def digits? (count : Nat) (characters : List Char) : Option (Nat × List Char) := do
  let digits := characters.take count
  if digits.length = count then some (← readNat? digits, characters.drop count) else none

/-- What follows a character. -/
def after? (expected : Char) : List Char → Option (List Char)
  | [] => none
  | c :: rest => if c = expected then some rest else none

/-- A date as text, and what follows it. -/
def date? (characters : List Char) : Option (List Char × List Char) := do
  let (year, rest) ← digits? 4 characters
  let (month, rest) ← digits? 2 (← after? '-' rest)
  let (day, rest) ← digits? 2 (← after? '-' rest)
  if (⟨year, month, day⟩ : Date).exists? then
    some (padded 4 year ++ '-' :: padded 2 month ++ '-' :: padded 2 day, rest)
  else none

/-- A fraction of a second as text, and what follows it. -/
def second? : List Char → Option (List Char × List Char)
  | '.' :: rest =>
    let digits := rest.takeWhile Char.isDigit
    let kept := ((digits.take 9).reverse.dropWhile (· = '0')).reverse
    if digits.isEmpty then none
    else some (if kept.isEmpty then [] else '.' :: kept, rest.dropWhile Char.isDigit)
  | rest => some ([], rest)

/-- A time of day as text, and what follows it. -/
def timeOfDay? (characters : List Char) : Option (List Char × List Char) := do
  let (hour, rest) ← digits? 2 characters
  let (minute, rest) ← digits? 2 (← after? ':' rest)
  let (second, rest) ← digits? 2 (← after? ':' rest)
  let (fraction, rest) ← second? rest
  if hour ≤ 23 ∧ minute ≤ 59 ∧ second ≤ 60 then
    some (padded 2 hour ++ ':' :: padded 2 minute ++ ':' :: padded 2 second ++ fraction, rest)
  else none

/-- The distance to universal time as text. -/
def offset? : List Char → Option (List Char)
  | [] => some []
  | ['Z'] => some ['Z']
  | ['z'] => some ['Z']
  | sign :: rest => do
    let (hour, rest) ← digits? 2 rest
    let (minute, rest) ← digits? 2 (← after? ':' rest)
    if (sign = '+' ∨ sign = '-') ∧ hour ≤ 23 ∧ minute ≤ 59 ∧ rest = [] then
      let sign := if hour = 0 ∧ minute = 0 then '+' else sign
      some (sign :: padded 2 hour ++ ':' :: padded 2 minute)
    else none

/-- A date, a time of day, or both, as text. -/
def moment? (characters : List Char) : Option Value := do
  let text ← match date? characters with
    | some (date, []) => some date
    | some (date, separator :: rest) =>
      if separator = 'T' ∨ separator = 't' then do
        let (time, rest) ← timeOfDay? rest
        let offset ← offset? rest
        some (date ++ 'T' :: time ++ offset)
      else none
    | none => do
      let (time, rest) ← timeOfDay? characters
      if rest = [] then some time else none
  some (.text (String.ofList text))

/-! ### Either -/

/-- Whether a character may stand in a number, a truth value or a date. -/
def isScalarCharacter (c : Char) : Bool :=
  c.isAlphanum || c = '_' || c = '+' || c = '-' || c = '.' || c = ':'

/-- The characters of a scalar and what follows them. A date may have a blank before its time. -/
def cutScalar (characters : List Char) : List Char × List Char :=
  let first := characters.takeWhile isScalarCharacter
  match date? first, characters.dropWhile isScalarCharacter with
  | some (_, []), ' ' :: digit :: rest =>
    if digit.isDigit then
      (first ++ 'T' :: (digit :: rest).takeWhile isScalarCharacter,
        (digit :: rest).dropWhile isScalarCharacter)
    else (first, ' ' :: digit :: rest)
  | _, rest => (first, rest)

/-- A number, a truth value or a date, and what follows it. -/
def scalar? (characters : List Char) : Option (Value × List Char) := do
  let (scalar, rest) := cutScalar characters
  let value ←
    if scalar = "true".toList then some (.flag true)
    else if scalar = "false".toList then some (.flag false)
    else (moment? scalar).orElse fun _ => number? scalar
  some (value, rest)

end UserDashboard.Settings.Toml
