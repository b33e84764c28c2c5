/-
This file reads and writes timestamps in the form of RFC 3339.

The reader takes any single ASCII character between date and time, either case of `Z`, and any
number of digits in the fraction, of which the first nine count. The second 60 is understood as
the last nanosecond before midnight, and only at the end of a month in universal time, where a
leap second can stand. The writer has one form for each timestamp: `T`, `Z` for universal time,
and a fraction without zeros at its end. Years outside 0 to 9999 have no written form.
-/

import UserDashboard.Number.Integer
import UserDashboard.Time.Timestamp

namespace UserDashboard.Time.Timestamp

open Number

/-! ### Reading -/

/-- A number of exactly `count` digits at the beginning, and what follows it. -/
def exactDigits? (count : Nat) (characters : List Char) : Option (Nat × List Char) := do
  if characters.length < count then none
  else
    let value ← readNat? (characters.take count)
    some (value, characters.drop count)

/-- What follows one given character. -/
def after? (expected : Char) : List Char → Option (List Char)
  | c :: rest => if c = expected then some rest else none
  | [] => none

/-- The nanoseconds of a fraction's digits, the first of which has the given weight. -/
def fractionNanos (weight : Nat) : List Nat → Nat
  | [] => 0
  | digit :: digits => digit * weight + fractionNanos (weight / 10) digits

/-- The digits at the beginning, and what follows them. -/
def leadingDigits : List Char → List Nat × List Char
  | [] => ([], [])
  | c :: rest =>
    match digit? c with
    | some digit => let (digits, after) := leadingDigits rest; (digit :: digits, after)
    | none => ([], c :: rest)

/-- The nanoseconds of an optional fraction, and what follows it. -/
def readFraction? : List Char → Option (Nat × List Char)
  | '.' :: rest =>
    match leadingDigits rest with
    | ([], _) => none
    | (digits, after) => some (fractionNanos 100000000 digits, after)
  | rest => some (0, rest)

/-- The minutes of an offset that ends the text. -/
def readOffset? : List Char → Option Int
  | ['Z'] => some 0
  | ['z'] => some 0
  | sign :: rest => do
    let direction : Int ← if sign = '+' then some 1 else if sign = '-' then some (-1) else none
    let (hours, rest) ← exactDigits? 2 rest
    let rest ← after? ':' rest
    let (minutes, rest) ← exactDigits? 2 rest
    if rest.isEmpty ∧ hours ≤ 23 ∧ minutes ≤ 59 then some (direction * (hours * 60 + minutes))
    else none
  | [] => none

/-- The timestamp at which a clock with the given distance from universal time shows a date, a
second of the day and a fraction. -/
def ofLocal (date : Date) (secondOfDay nanos offset : Int) : Timestamp :=
  ⟨momentAt (date.toDays * 86400 + secondOfDay - offset * 60) nanos, offset⟩

/-- Whether a timestamp is told in universal time at the last second of a month. -/
def endsMonth (timestamp : Timestamp) : Bool :=
  let universal := utc timestamp.moment
  let date := universal.date
  universal.secondOfDay = 86399 && date.day = daysInMonth date.year date.month

/-- The timestamp of the fields of a text, if they exist. -/
def ofFields? (date : Date) (hour minute second nanos : Nat) (offset : Int) : Option Timestamp :=
  if date.exists? ∧ hour ≤ 23 ∧ minute ≤ 59 then
    if second ≤ 59 then
      some (ofLocal date (hour * 3600 + minute * 60 + second : Nat) nanos offset)
    else if second = 60 then
      let last := ofLocal date (hour * 3600 + minute * 60 + 59 : Nat) 999999999 offset
      if last.endsMonth then some last else none
    else none
  else none

/-- Reads a timestamp. -/
def read? (text : String) : Option Timestamp := do
  let (year, rest) ← exactDigits? 4 text.toList
  let rest ← after? '-' rest
  let (month, rest) ← exactDigits? 2 rest
  let rest ← after? '-' rest
  let (day, rest) ← exactDigits? 2 rest
  match rest with
  | [] => none
  | separator :: rest =>
    if 0x80 ≤ separator.toNat then none
    else
      let (hour, rest) ← exactDigits? 2 rest
      let rest ← after? ':' rest
      let (minute, rest) ← exactDigits? 2 rest
      let rest ← after? ':' rest
      let (second, rest) ← exactDigits? 2 rest
      let (nanos, rest) ← readFraction? rest
      let offset ← readOffset? rest
      ofFields? ⟨year, month, day⟩ hour minute second nanos offset

/-! ### Writing -/

/-- The fraction of a second without zeros at its end, and nothing for a whole second. -/
def fractionText (nanos : Nat) : List Char :=
  if nanos = 0 then []
  else '.' :: ((padded 9 nanos).reverse.dropWhile (· == '0')).reverse

/-- The offset of a timestamp. -/
def offsetText (offset : Int) : List Char :=
  if offset = 0 then ['Z']
  else
    (if offset < 0 then '-' else '+') ::
      (padded 2 (offset.natAbs / 60) ++ ':' :: padded 2 (offset.natAbs % 60))

/-- Writes a timestamp whose year has four digits. -/
def write? (timestamp : Timestamp) : Option String :=
  let date := timestamp.date
  let second := timestamp.secondOfDay.toNat
  if 0 ≤ date.year ∧ date.year ≤ 9999 then
    some (String.ofList
      (padded 4 date.year.toNat ++ '-' :: padded 2 date.month.toNat ++ '-' ::
        padded 2 date.day.toNat ++ 'T' :: padded 2 (second / 3600) ++ ':' ::
        padded 2 (second / 60 % 60) ++ ':' :: padded 2 (second % 60) ++
        fractionText timestamp.subsecond.toNat ++ offsetText timestamp.offset))
  else none

end UserDashboard.Time.Timestamp
