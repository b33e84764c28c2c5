/-
This file proves when the texts of timestamps are in the order of their moments.

Texts are compared character by character, and the fields of a timestamp stand in its text with the
weightiest first, each in a fixed number of digits. So the order of two texts is that of the clocks
they show, as long as the texts differ in nothing but digits: they have the same character between
date and time and fractions of the same length. It is that of the moments when the two clocks are
also at the same distance from universal time. The digits of a fraction beyond the ninth count for
the text only, and so does the fraction of the second sixty, so different texts may tell one moment.
-/

import Mathlib.Data.String.Basic
import UserDashboard.Proofs.Time.Rfc3339

namespace UserDashboard.Time.Timestamp

open Number

/-! ### Rows of digits -/

theorem cons_le_cons_iff {c other : Char} {rest others : List Char} :
    c :: rest ≤ other :: others ↔ c < other ∨ c = other ∧ rest ≤ others := by
  rw [← not_lt, ← not_lt, List.cons_lt_cons_iff]
  constructor
  · intro least
    rcases lt_trichotomy c other with less | same | more
    · exact Or.inl less
    · exact Or.inr ⟨same, fun below => least (Or.inr ⟨same.symm, below⟩)⟩
    · exact absurd (Or.inl more) least
  · rintro (less | ⟨rfl, least⟩) (more | ⟨same, below⟩)
    · exact lt_asymm less more
    · exact less.ne same.symm
    · exact lt_irrefl _ more
    · exact least below

theorem ofDigits_cons (digit : Nat) (row : List Nat) :
    ofDigits (digit :: row) = digit * 10 ^ row.length + ofDigits row := by
  induction row using List.reverseRecOn with
  | nil => simp [ofDigits]
  | append_singleton row last inductionHypothesis =>
    rw [← List.cons_append, ofDigits_append_singleton, inductionHypothesis,
      ofDigits_append_singleton, List.length_append, List.length_singleton, Nat.pow_succ,
      Nat.add_mul, Nat.mul_assoc, Nat.add_assoc]

/-- Digits are in the order of their values. -/
theorem digit?_lt_of_lt {c other : Char} {value greater : Nat} (less : c < other)
    (read : digit? c = some value) (readOther : digit? other = some greater) : value < greater := by
  simp only [digit?, Option.ite_none_right_eq_some, Bool.and_eq_true, decide_eq_true_eq,
    Option.some.injEq] at read readOther
  have low : '0'.toNat ≤ c.toNat := read.1.1
  have more : c.toNat < other.toNat := less
  omega

/-- Rows of equally many digits are in the order of their numbers, and what follows them is compared
only if these are the same. -/
theorem ofDigits_lt_or_eq {first second rest others : List Char} {row greater : List Nat}
    (read : first.mapM digit? = some row) (readToo : second.mapM digit? = some greater)
    (long : first.length = second.length) (le : first ++ rest ≤ second ++ others) :
    ofDigits row < ofDigits greater ∨ ofDigits row = ofDigits greater ∧ rest ≤ others := by
  induction first generalizing second row greater with
  | nil =>
    obtain rfl := List.length_eq_zero_iff.mp long.symm
    cases read
    cases readToo
    exact Or.inr ⟨rfl, le⟩
  | cons c first inductionHypothesis =>
    obtain ⟨other, second, rfl⟩ := List.exists_cons_of_length_eq_add_one long.symm
    rw [List.mapM_cons] at read readToo
    obtain ⟨digit, readDigit, read⟩ := Option.bind_eq_some_iff.mp read
    obtain ⟨row, readRow, same⟩ := Option.bind_eq_some_iff.mp read
    cases same
    obtain ⟨otherDigit, readOther, readToo⟩ := Option.bind_eq_some_iff.mp readToo
    obtain ⟨greater, readGreater, same⟩ := Option.bind_eq_some_iff.mp readToo
    cases same
    have shorter : first.length = second.length := Nat.succ.inj long
    obtain ⟨sameLength, small⟩ := mapM_digit?_eq_some readRow
    obtain ⟨sameLengthToo, -⟩ := mapM_digit?_eq_some readGreater
    rw [ofDigits_cons, ofDigits_cons, sameLength, sameLengthToo, ← shorter]
    rcases cons_le_cons_iff.mp le with less | ⟨rfl, leRest⟩
    · left
      have below : ofDigits row < 10 ^ first.length := sameLength ▸ ofDigits_lt small
      have step := Nat.mul_le_mul_right (10 ^ first.length)
        (digit?_lt_of_lt less readDigit readOther)
      rw [Nat.succ_mul] at step
      omega
    · cases readDigit.symm.trans readOther
      rcases inductionHypothesis readRow readGreater shorter leRest with less | ⟨same, leRest⟩
      · exact Or.inl (Nat.add_lt_add_left less _)
      · exact Or.inr ⟨congrArg _ same, leRest⟩

/-! ### Fields in lockstep -/

section Fields

variable {width value greater : Nat} {characters first second rest others : List Char}

theorem exactDigits?_eq_some (read : exactDigits? width characters = some (value, rest)) :
    ∃ row, (characters.take width).mapM digit? = some row ∧
      (characters.take width).length = width ∧ ofDigits row = value ∧
      rest = characters.drop width := by
  unfold exactDigits? at read
  split at read
  next => cases read
  next enough =>
    obtain ⟨number, readNumber, same⟩ := Option.bind_eq_some_iff.mp read
    cases same
    unfold readNat? at readNumber
    split at readNumber
    next => cases readNumber
    next =>
      obtain ⟨row, readRow, same⟩ := Option.map_eq_some_iff.mp readNumber
      exact ⟨row, readRow, List.length_take_of_le (Nat.not_lt.mp enough), same, rfl⟩

/-- The numbers that two texts begin with are in the order of the texts. -/
theorem exactDigits?_lt_or_eq (read : exactDigits? width first = some (value, rest))
    (readToo : exactDigits? width second = some (greater, others)) (le : first ≤ second) :
    value < greater ∨ value = greater ∧ rest ≤ others := by
  obtain ⟨row, readRow, long, rfl, rfl⟩ := exactDigits?_eq_some read
  obtain ⟨greaterRow, readGreater, longToo, rfl, rfl⟩ := exactDigits?_eq_some readToo
  refine ofDigits_lt_or_eq readRow readGreater (long.trans longToo.symm) ?_
  rwa [List.take_append_drop, List.take_append_drop]

theorem after?_eq_some {expected : Char} (read : after? expected characters = some rest) :
    characters = expected :: rest := by
  cases characters with
  | nil => cases read
  | cons c others =>
    obtain ⟨rfl, same⟩ := Option.ite_none_right_eq_some.mp read
    exact congrArg (c :: ·) (Option.some.inj same)

theorem after?_drop {expected : Char} (read : after? expected characters = some rest) :
    characters.drop 1 = rest := by
  rw [after?_eq_some read, List.drop_one, List.tail_cons]

theorem after?_le {expected : Char} (read : after? expected first = some rest)
    (readToo : after? expected second = some others) (le : first ≤ second) : rest ≤ others := by
  rw [after?_eq_some read, after?_eq_some readToo] at le
  rcases cons_le_cons_iff.mp le with less | ⟨-, le⟩
  · exact absurd less (lt_irrefl expected)
  · exact le

/-- Three numbers, the weightiest first, like those of a date and of a clock. -/
structure Triple where
  major : Nat
  middle : Nat
  minor : Nat

/-- Whether three numbers come before three others. -/
def Triple.Less (one other : Triple) : Prop :=
  one.major < other.major ∨ one.major = other.major ∧
    (one.middle < other.middle ∨ one.middle = other.middle ∧ one.minor < other.minor)

/-- The date of three numbers. -/
def Triple.toDate (triple : Triple) : Date :=
  ⟨triple.major, triple.middle, triple.minor⟩

theorem Triple.Less.toDate {one other : Triple} (less : one.Less other) :
    one.toDate.Earlier other.toDate := by
  simpa only [Date.Earlier, Triple.toDate, Int.ofNat_lt, Int.ofNat_inj, Triple.Less] using less

/-- Three numbers with a mark between them, the first with its own number of digits and the others
with two, and what follows them. -/
def readTriple? (width : Nat) (mark : Char) (characters : List Char) :
    Option (Triple × List Char) := do
  let (major, rest) ← exactDigits? width characters
  let rest ← after? mark rest
  let (middle, rest) ← exactDigits? 2 rest
  let rest ← after? mark rest
  let (minor, rest) ← exactDigits? 2 rest
  some (⟨major, middle, minor⟩, rest)

section Triples

variable {mark : Char} {one other : Triple}

/-- The numbers that two texts begin with are in the order of the texts. -/
theorem readTriple?_less_or_eq (read : readTriple? width mark first = some (one, rest))
    (readToo : readTriple? width mark second = some (other, others)) (le : first ≤ second) :
    one.Less other ∨ one = other ∧ rest ≤ others := by
  simp only [readTriple?, Option.bind_eq_bind, Option.bind_eq_some_iff] at read readToo
  obtain ⟨⟨_, _⟩, readMajor, _, afterMajor, ⟨_, _⟩, readMiddle, _, afterMiddle, ⟨_, _⟩, readMinor,
    same⟩ := read
  obtain ⟨⟨_, _⟩, readMajorToo, _, afterMajorToo, ⟨_, _⟩, readMiddleToo, _, afterMiddleToo, ⟨_, _⟩,
    readMinorToo, sameToo⟩ := readToo
  cases same
  cases sameToo
  rcases exactDigits?_lt_or_eq readMajor readMajorToo le with less | ⟨rfl, le⟩
  · exact Or.inl (Or.inl less)
  rcases exactDigits?_lt_or_eq readMiddle readMiddleToo (after?_le afterMajor afterMajorToo le)
    with less | ⟨rfl, le⟩
  · exact Or.inl (Or.inr ⟨rfl, Or.inl less⟩)
  rcases exactDigits?_lt_or_eq readMinor readMinorToo (after?_le afterMiddle afterMiddleToo le)
    with less | ⟨rfl, le⟩
  · exact Or.inl (Or.inr ⟨rfl, Or.inr ⟨rfl, less⟩⟩)
  · exact Or.inr ⟨rfl, le⟩

theorem readTriple?_rest (read : readTriple? width mark characters = some (one, rest)) :
    rest = characters.drop (width + 6) := by
  simp only [readTriple?, Option.bind_eq_bind, Option.bind_eq_some_iff] at read
  obtain ⟨_, readMajor, _, afterMajor, _, readMiddle, _, afterMiddle, _, readMinor, same⟩ := read
  cases same
  obtain ⟨-, -, -, -, fromMajor⟩ := exactDigits?_eq_some readMajor
  obtain ⟨-, -, -, -, fromMiddle⟩ := exactDigits?_eq_some readMiddle
  obtain ⟨-, -, -, -, fromMinor⟩ := exactDigits?_eq_some readMinor
  rw [fromMinor, ← after?_drop afterMiddle, fromMiddle, ← after?_drop afterMajor, fromMajor]
  simp only [List.drop_drop]

end Triples

/-- A text that is read has a date and a clock with a character between them, a fraction and an
offset. -/
theorem exists_fields {text : String} {timestamp : Timestamp}
    (read : read? text = some timestamp) :
    ∃ date separator afterDate,
      readTriple? 4 '-' text.toList = some (date, separator :: afterDate) ∧
      ∃ clock afterClock, readTriple? 2 ':' afterDate = some (clock, afterClock) ∧
      ∃ nanos afterFraction, readFraction? afterClock = some (nanos, afterFraction) ∧
      ∃ offset, ofFields? date.toDate clock.major clock.middle clock.minor nanos offset =
        some timestamp := by
  simp only [read?, Option.bind_eq_bind, Option.bind_eq_some_iff] at read
  obtain ⟨⟨year, _⟩, readYear, _, afterYear, ⟨month, _⟩, readMonth, _, afterMonth, ⟨day, afterDay⟩,
    readDay, read⟩ := read
  have readDate : readTriple? 4 '-' text.toList = some (⟨year, month, day⟩, afterDay) := by
    simp [readTriple?, readYear, afterYear, readMonth, afterMonth, readDay]
  split at read
  next => cases read
  next _ separator afterDate between =>
    cases between
    split at read
    next => cases read
    simp only [Option.bind_eq_some_iff] at read
    obtain ⟨⟨hour, _⟩, readHour, _, afterHour, ⟨minute, _⟩, readMinute, _, afterMinute,
      ⟨second, afterClock⟩, readSecond, ⟨nanos, afterFraction⟩, readFraction, offset, -, made⟩ :=
      read
    have readClock : readTriple? 2 ':' afterDate = some (⟨hour, minute, second⟩, afterClock) := by
      simp [readTriple?, readHour, afterHour, readMinute, afterMinute, readSecond]
    exact ⟨_, separator, afterDate, readDate, _, afterClock, readClock, nanos, afterFraction,
      readFraction, offset, made⟩

end Fields

/-! ### Texts that differ in nothing but digits -/

/-- A character, or zero for all digits. -/
def blurred (c : Char) : Char :=
  if (digit? c).isSome then '0' else c

/-- Whether two texts of timestamps differ in nothing but the digits of their date, their clock and
their fraction. -/
structure SpelledAlike (first second : String) : Prop where
  /-- Where one has a digit the other has one, and every other character is the same. -/
  layout : first.toList.map blurred = second.toList.map blurred
  /-- So is the character between date and time, which may be a digit itself. -/
  separator : first.toList[10]? = second.toList[10]?
  /-- And both are told at the same distance from universal time. -/
  offset : (read? first).map (·.offset) = (read? second).map (·.offset)

instance (first second : String) : Decidable (SpelledAlike first second) :=
  decidable_of_iff
    (first.toList.map blurred = second.toList.map blurred ∧
      first.toList[10]? = second.toList[10]? ∧
      (read? first).map (·.offset) = (read? second).map (·.offset))
    ⟨fun ⟨layout, separator, offset⟩ => ⟨layout, separator, offset⟩,
      fun alike => ⟨alike.layout, alike.separator, alike.offset⟩⟩

theorem isSome_digit?_of_blurred {c other : Char} (same : blurred c = blurred other) :
    (digit? c).isSome = (digit? other).isSome := by
  unfold blurred at same
  have zero : (digit? '0').isSome = true := rfl
  split at same
  next digit =>
    split at same
    next digitToo => rw [digit, digitToo]
    next => rw [digit, ← same, zero]
  next =>
    split at same
    next digitToo => rw [digitToo, same, zero]
    next => rw [same]

/-- Digits that begin alike texts are in the order of their fractions. -/
theorem fractionNanos_le_of_le {weight : Nat} {first second : List Char}
    (layout : first.map blurred = second.map blurred) (le : first ≤ second) :
    fractionNanos weight (leadingDigits first).1 ≤
      fractionNanos weight (leadingDigits second).1 := by
  induction first generalizing second weight with
  | nil => exact Nat.zero_le _
  | cons c first inductionHypothesis =>
    obtain ⟨other, second, rfl, same, layoutRest⟩ := List.map_eq_cons_iff.mp layout.symm
    have both := isSome_digit?_of_blurred same
    cases read : digit? c with
    | none => simp only [leadingDigits, read, fractionNanos, Nat.zero_le]
    | some digit =>
      rw [read] at both
      obtain ⟨otherDigit, readOther⟩ := Option.isSome_iff_exists.mp both
      simp only [leadingDigits, read, readOther, fractionNanos]
      rcases cons_le_cons_iff.mp le with less | ⟨rfl, leRest⟩
      · have step := Nat.mul_le_mul_right weight (digit?_lt_of_lt less read readOther)
        have small : fractionNanos (weight / 10) (leadingDigits first).1 ≤ 10 * (weight / 10) - 1 :=
          fractionNanos_le (lt_ten_of_mem_leadingDigits first)
        rw [Nat.succ_mul] at step
        omega
      · cases read.symm.trans readOther
        exact Nat.add_le_add_left (inductionHypothesis layoutRest.symm leRest) _

theorem readFraction?_eq_some {characters rest : List Char} {nanos : Nat}
    (read : readFraction? characters = some (nanos, rest)) :
    (∃ after, characters = '.' :: after ∧
      nanos = fractionNanos 100000000 (leadingDigits after).1) ∨
    (∀ after, characters ≠ '.' :: after) ∧ nanos = 0 := by
  unfold readFraction? at read
  split at read
  next after =>
    split at read
    next => cases read
    next taken =>
      cases read
      exact Or.inl ⟨after, rfl, by rw [taken]⟩
  next noPoint =>
    cases read
    exact Or.inr ⟨noPoint, rfl⟩

theorem readFraction?_le {first second rest others : List Char} {nanos more : Nat}
    (layout : first.map blurred = second.map blurred) (le : first ≤ second)
    (read : readFraction? first = some (nanos, rest))
    (readToo : readFraction? second = some (more, others)) : nanos ≤ more := by
  rcases readFraction?_eq_some read with ⟨after, rfl, rfl⟩ | ⟨-, rfl⟩
  · obtain ⟨point, afterToo, rfl, samePoint, layoutAfter⟩ := List.map_eq_cons_iff.mp layout.symm
    have isPoint : point = '.' := by
      unfold blurred at samePoint
      split at samePoint
      next => exact absurd samePoint (by decide)
      next => exact samePoint
    subst isPoint
    rcases readFraction?_eq_some readToo with ⟨_, same, rfl⟩ | ⟨noPoint, -⟩
    · cases same
      rcases cons_le_cons_iff.mp le with less | ⟨-, leAfter⟩
      · exact absurd less (lt_irrefl '.')
      · exact fractionNanos_le_of_le layoutAfter.symm leAfter
    · exact absurd rfl (noPoint afterToo)
  · exact Nat.zero_le _

/-! ### The order of moments -/

section Moments

variable {date : Date} {nanos : Nat} {offset : Int} {timestamp : Timestamp}

/-- Whether a clock can show three numbers, sixty seconds included. -/
structure Triple.IsClock (clock : Triple) : Prop where
  hour : clock.major ≤ 23
  minute : clock.middle ≤ 59
  second : clock.minor ≤ 60

/-- The nanosecond of the day that a clock shows, where the second sixty is the end of the one
before it. -/
def ofDay (clock : Triple) (nanos : Nat) : Nat :=
  (clock.major * 60 + clock.middle) * 60000000000 +
    if clock.minor = 60 then 59999999999 else clock.minor * 1000000000 + nanos

/-- The clock shows the fields of a text. -/
theorem localNanos_of_ofFields? {clock : Triple}
    (made : ofFields? date clock.major clock.middle clock.minor nanos offset = some timestamp) :
    date.exists? = true ∧ clock.IsClock ∧
      timestamp.localNanos = date.toDays * 86400000000000 + ofDay clock nanos := by
  unfold ofFields? at made
  split at made
  next held =>
    obtain ⟨shown, hours, minutes⟩ := held
    split at made
    next seconds =>
      cases made
      refine ⟨shown, ⟨hours, minutes, by omega⟩, ?_⟩
      rw [localNanos_ofLocal, ofDay, if_neg (by omega)]
      omega
    split at made
    next leap =>
      dsimp only at made
      split at made
      next =>
        cases made
        refine ⟨shown, ⟨hours, minutes, by omega⟩, ?_⟩
        rw [localNanos_ofLocal, ofDay, if_pos leap]
        omega
      next => cases made
    next => cases made
  next => cases made

theorem ofDay_lt {clock : Triple} (fraction : nanos < nanosPerSecond) (shown : clock.IsClock) :
    ofDay clock nanos < 86400000000000 := by
  obtain ⟨hour, minute, second⟩ := shown
  simp only [nanosPerSecond] at fraction
  unfold ofDay
  split <;> omega

/-- A later clock shows a later nanosecond, unless both are at the end of a minute. -/
theorem ofDay_le_of_less {clock later : Triple} {laterNanos : Nat}
    (fraction : nanos < nanosPerSecond) (less : clock.Less later) (shown : clock.IsClock)
    (shownToo : later.IsClock) : ofDay clock nanos ≤ ofDay later laterNanos := by
  obtain ⟨-, minute, second⟩ := shown
  obtain ⟨-, laterMinute, laterSecond⟩ := shownToo
  simp only [nanosPerSecond] at fraction
  simp only [Triple.Less] at less
  unfold ofDay
  split <;> split <;> omega

theorem ofDay_le_of_le {clock : Triple} {more : Nat} (le : nanos ≤ more) :
    ofDay clock nanos ≤ ofDay clock more := by
  unfold ofDay
  split <;> omega

end Moments

theorem localNanos_le_iff {one other : Timestamp} (same : one.offset = other.offset) :
    one.localNanos ≤ other.localNanos ↔ one.moment ≤ other.moment := by
  rw [localNanos, localNanos, same]
  exact Int.add_le_add_iff_right _

/-- After the dates alike texts go on alike. -/
theorem SpelledAlike.drop_date {first second : String} {separator laterSeparator : Char}
    {rest others : List Char} (alike : SpelledAlike first second)
    (isRest : separator :: rest = first.toList.drop 10)
    (isOthers : laterSeparator :: others = second.toList.drop 10) :
    separator = laterSeparator ∧ rest.map blurred = others.map blurred := by
  have heads := alike.separator
  have layouts := congrArg (List.drop 10) alike.layout
  rw [← List.head?_drop, ← List.head?_drop, ← isRest, ← isOthers] at heads
  rw [← List.map_drop, ← List.map_drop, ← isRest, ← isOthers] at layouts
  exact ⟨Option.some.inj heads, (List.cons.inj layouts).2⟩

/-- Texts that differ in nothing but digits are in the order of the moments that they tell. -/
theorem SpelledAlike.moment_le {first second : String} {one other : Timestamp}
    (alike : SpelledAlike first second) (read : read? first = some one)
    (readToo : read? second = some other) (le : first ≤ second) : one.moment ≤ other.moment := by
  have offsets : one.offset = other.offset := by
    simpa [read, readToo] using alike.offset
  rw [← localNanos_le_iff offsets]
  obtain ⟨date, separator, afterDate, readDate, clock, afterClock, readClock, nanos, _,
    readFraction, _, made⟩ := exists_fields read
  obtain ⟨laterDate, laterSeparator, laterAfterDate, readDateToo, laterClock, laterAfterClock,
    readClockToo, laterNanos, _, readFractionToo, _, madeToo⟩ := exists_fields readToo
  obtain ⟨shown, clockShown, told⟩ := localNanos_of_ofFields? made
  obtain ⟨shownToo, clockShownToo, toldToo⟩ := localNanos_of_ofFields? madeToo
  have fraction : nanos < nanosPerSecond := readFraction?_lt readFraction
  obtain ⟨sameSeparator, layout⟩ :=
    alike.drop_date (readTriple?_rest readDate) (readTriple?_rest readDateToo)
  rw [told, toldToo]
  rcases readTriple?_less_or_eq readDate readDateToo (String.le_iff_toList_le.mp le) with
    less | ⟨rfl, leAfterDate⟩
  · have days : date.toDate.toDays < laterDate.toDate.toDays :=
      less.toDate.toDays_lt shown shownToo
    have withinDay : ofDay clock nanos < 86400000000000 := ofDay_lt fraction clockShown
    omega
  rcases cons_le_cons_iff.mp leAfterDate with less | ⟨-, leClock⟩
  · exact absurd sameSeparator less.ne
  have later : ofDay clock nanos ≤ ofDay laterClock laterNanos := by
    rcases readTriple?_less_or_eq readClock readClockToo leClock with less | ⟨rfl, leFraction⟩
    · exact ofDay_le_of_less fraction less clockShown clockShownToo
    · have layoutFraction := congrArg (List.drop 8) layout
      rw [← List.map_drop, ← List.map_drop, ← readTriple?_rest readClock,
        ← readTriple?_rest readClockToo] at layoutFraction
      exact ofDay_le_of_le (readFraction?_le layoutFraction leFraction readFraction readFractionToo)
  omega

example : SpelledAlike "2024-05-01T08:00:00Z" "2024-03-31T23:59:60Z" := by decide

example : ¬SpelledAlike "2024-05-01T08:00:00Z" "2024-05-01T09:00:00+09:00" := by decide

end UserDashboard.Time.Timestamp
