/-
This file holds lengths of time and the text by which people write them.

A length of time is a whole number of nanoseconds. Its text is a sum of numbers with units, such as
`1h 30m` or `1.5s`: blanks may stand anywhere between the characters of a number and around the
parts, a part may have a decimal fraction if that comes out whole, and a unit may occur more than
once. A month is 30.44 days and a year 365.25. The text that is written has each unit at most once,
the largest first, and leaves out the units of which there are none.

Seconds are counted in 64 bits, which is the limit to what can be read.
-/

import UserDashboard.Number.Integer
import UserDashboard.Text.Blank
import UserDashboard.Time.Timestamp

namespace UserDashboard.Time

open Number Text

/-- The nanoseconds at which the seconds no longer fit 64 bits. -/
def spanLimit : Nat := 18446744073709551616 * nanosPerSecond

/-- A length of time. -/
structure Span where
  /-- The nanoseconds. -/
  nanos : Nat
  /-- The seconds fit 64 bits. -/
  bounded : nanos < spanLimit
  deriving DecidableEq, Repr

namespace Span

/-- No time at all. -/
def zero : Span := ⟨0, by decide⟩

instance : Inhabited Span := ⟨zero⟩

/-- A number of seconds. -/
def ofSeconds (seconds : UInt64) : Span :=
  ⟨seconds.toNat * nanosPerSecond, by
    have := seconds.toNat_lt
    simp only [spanLimit, nanosPerSecond]
    omega⟩

/-- A number of milliseconds. -/
def ofMillis (millis : UInt64) : Span :=
  ⟨millis.toNat * nanosPerMilli, by
    have := millis.toNat_lt
    simp only [spanLimit, nanosPerSecond, nanosPerMilli]
    omega⟩

/-- The whole seconds. -/
def seconds (span : Span) : Nat :=
  span.nanos / nanosPerSecond

/-- The nanoseconds beyond the whole seconds. -/
def subsecond (span : Span) : Nat :=
  span.nanos % nanosPerSecond

/-- The whole milliseconds. -/
def millis (span : Span) : Nat :=
  span.nanos / nanosPerMilli

/-! ### Units -/

/-- A unit of time in a text. -/
inductive Measure where
  | nanosecond | microsecond | millisecond | second | minute | hour | day | week | month | year
  deriving DecidableEq, Repr

namespace Measure

/-- The spellings of a unit. -/
def spellings : Measure → List String
  | nanosecond => ["ns", "nsec", "nanos"]
  | microsecond => ["us", "usec", "µs"]
  | millisecond => ["ms", "msec", "millis"]
  | second => ["s", "sec", "secs", "second", "seconds"]
  | minute => ["m", "min", "mins", "minute", "minutes"]
  | hour => ["h", "hr", "hrs", "hour", "hours"]
  | day => ["d", "day", "days"]
  | week => ["w", "wk", "wks", "week", "weeks"]
  | month => ["M", "month", "months"]
  | year => ["y", "yr", "yrs", "year", "years"]

/-- All units. -/
def all : List Measure :=
  [nanosecond, microsecond, millisecond, second, minute, hour, day, week, month, year]

/-- The unit with a spelling. Letters count with their case. -/
def ofSpelling? (spelling : String) : Option Measure :=
  all.find? fun measure => measure.spellings.contains spelling

/-- The length of a unit: whole seconds, or nanoseconds for the units below a second. -/
def size : Measure → Nat × Nat
  | nanosecond => (0, 1)
  | microsecond => (0, 1000)
  | millisecond => (0, 1000000)
  | second => (1, 0)
  | minute => (60, 0)
  | hour => (3600, 0)
  | day => (86400, 0)
  | week => (604800, 0)
  | month => (2630016, 0)
  | year => (31557600, 0)

/-- The grain in which a fraction of a unit is counted: nanoseconds up to the minute, where a
nanosecond has none, and whole seconds above. -/
def grain : Measure → Nat × Nat
  | nanosecond => (0, 0)
  | microsecond => (0, 1000)
  | millisecond => (0, 1000000)
  | second => (0, 1000000000)
  | minute => (0, 60000000000)
  | hour => (3600, 0)
  | day => (86400, 0)
  | week => (604800, 0)
  | month => (2630016, 0)
  | year => (31557600, 0)

end Measure

/-! ### Reading -/

/-- A length of time with whole seconds and nanoseconds added, while the numbers fit 64 bits. -/
def extend? (span : Span) (seconds nanos : Nat) : Option Span :=
  if seconds ≤ nat64Max ∧ span.subsecond + nanos ≤ nat64Max then
    let total := span.nanos + seconds * nanosPerSecond + nanos
    if bounded : total < spanLimit then some ⟨total, bounded⟩ else none
  else none

/-- A decimal fraction as a ratio. -/
structure Fraction where
  numerator : Nat
  denominator : Nat

/-- A length of time with a fraction of a unit added, if that comes out whole. -/
def extendByFraction? (span : Span) (measure : Measure) (fraction : Fraction) : Option Span :=
  let (seconds, nanos) := measure.grain
  let weight := seconds + nanos
  let scaled := fraction.numerator * weight
  if weight = 0 ∨ nat64Max < scaled ∨ scaled % fraction.denominator ≠ 0 then none
  else if seconds = 0 then span.extend? 0 (scaled / fraction.denominator)
  else span.extend? (scaled / fraction.denominator) 0

/-- A length of time with a part added: a number, perhaps with a fraction, of a unit. -/
def extendByPart? (span : Span) (value : Nat) (fraction : Option Fraction) (measure : Measure) :
    Option Span := do
  let (seconds, nanos) := measure.size
  let span ← if nat64Max < value * nanos then none
    else span.extend? (value * seconds) (value * nanos)
  match fraction with
  | none => some span
  | some fraction => span.extendByFraction? measure fraction

/-- The characters that units are spelled with. -/
def isUnitLetter (c : Char) : Bool :=
  ('a' ≤ c && c ≤ 'z') || ('A' ≤ c && c ≤ 'Z') || c == 'µ'

/-- The digits of a fraction with blanks between them, up to the unit. -/
def readFraction? (fraction : Fraction) : List Char → Option (Fraction × List Char)
  | [] => if fraction.denominator = 1 then none else some (fraction, [])
  | c :: rest =>
    match digit? c with
    | some digit =>
      let longer : Fraction := ⟨fraction.numerator * 10 + digit, fraction.denominator * 10⟩
      if nat64Max < longer.numerator ∨ nat64Max < longer.denominator then none
      else readFraction? longer rest
    | none =>
      if isBlank c then readFraction? fraction rest
      else if isUnitLetter c ∧ fraction.denominator ≠ 1 then some (fraction, c :: rest)
      else none

/-- The further digits of a number with blanks between them, its fraction, and the rest from the
unit on. -/
def readValue? (value : Nat) : List Char → Option (Nat × Option Fraction × List Char)
  | [] => some (value, none, [])
  | c :: rest =>
    match digit? c with
    | some digit =>
      if nat64Max < value * 10 + digit then none else readValue? (value * 10 + digit) rest
    | none =>
      if isBlank c then readValue? value rest
      else if isUnitLetter c then some (value, none, c :: rest)
      else if c = '.' then
        (readFraction? ⟨0, 1⟩ rest).map fun (fraction, after) => (value, some fraction, after)
      else none

/-- Whether a unit may end before this rest. -/
def endsUnit : List Char → Bool
  | [] => true
  | c :: _ => (digit? c).isSome || isBlank c

/-- The sum of a length of time and the parts of a text, of which there may be none after the
first. The first argument bounds the number of parts. -/
def sumParts? : Nat → Span → List Char → Option Span
  | 0, _, _ => none
  | bound + 1, span, source =>
    match trimStart source with
    | [] => some span
    | c :: rest => do
      let (value, fraction, rest) ← readValue? (← digit? c) rest
      let measure ← Measure.ofSpelling? (String.ofList (rest.takeWhile isUnitLetter))
      let rest := rest.dropWhile isUnitLetter
      if endsUnit rest then
        sumParts? bound (← span.extendByPart? value fraction measure) rest
      else none

/-- Reads a length of time. A zero needs no unit; any other text has at least one part. -/
def read? (text : String) : Option Span :=
  if text = "0" then some zero
  else
    let source := text.toList
    if (trimStart source).isEmpty then none else sumParts? (source.length + 1) zero source

/-! ### Writing -/

/-- A number with a unit, and nothing for a zero. -/
def part (value : Nat) (unit : String) : List String :=
  if value = 0 then [] else [s!"{value}{unit}"]

/-- A number with a unit that has a plural, and nothing for a zero. -/
def pluralPart (value : Nat) (unit : String) : List String :=
  part value (if value > 1 then unit ++ "s" else unit)

/-- The parts of a length of time, the largest unit first. -/
def parts (span : Span) : List String :=
  let withinYear := span.seconds % 31557600
  let withinMonth := withinYear % 2630016
  let withinDay := withinMonth % 86400
  pluralPart (span.seconds / 31557600) "year" ++
    pluralPart (withinYear / 2630016) "month" ++
    pluralPart (withinMonth / 86400) "day" ++
    part (withinDay / 3600) "h" ++
    part (withinDay % 3600 / 60) "m" ++
    part (withinDay % 60) "s" ++
    part (span.subsecond / 1000000) "ms" ++
    part (span.subsecond / 1000 % 1000) "us" ++
    part (span.subsecond % 1000) "ns"

/-- Writes a length of time. -/
def text (span : Span) : String :=
  if span.nanos = 0 then "0s" else " ".intercalate span.parts

end Span

end UserDashboard.Time
