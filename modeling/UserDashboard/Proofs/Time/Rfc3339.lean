/-
This file proves that a timestamp is read from its text as it was written.

A timestamp can be written if its date has a year of four digits and its clock is less than a day
from universal time. These are also the timestamps that are read, so everything that was read can
be written again: the fields of a text name a date that exists, and the day of this date falls on
this date again.
-/

import UserDashboard.Proofs.Number.Digits
import UserDashboard.Proofs.Time.Calendar
import UserDashboard.Time.Rfc3339

namespace UserDashboard.Time.Timestamp

open Number

/-- Whether a timestamp has a text that is read as itself. -/
structure Writable (timestamp : Timestamp) : Prop where
  firstYear : 0 ≤ timestamp.date.year
  lastYear : timestamp.date.year ≤ 9999
  offset : timestamp.offset.natAbs ≤ 1439

/-! ### Fields -/

section Fields

variable {width value nanos weight : Nat} {rest : List Char} {row others : List Nat}

theorem exactDigits?_padded (positive : 0 < width) (small : value < 10 ^ width)
    (rest : List Char) : exactDigits? width (padded width value ++ rest) = some (value, rest) := by
  have long := length_padded positive small
  have taken : (padded width value ++ rest).take width = padded width value := by
    rw [List.take_append_of_le_length (by omega), List.take_of_length_le (by omega)]
  have dropped : (padded width value ++ rest).drop width = rest := by
    rw [List.drop_append_of_le_length (by omega), List.drop_of_length_le (by omega)]
    rfl
  have enough : ¬ (padded width value ++ rest).length < width := by
    rw [List.length_append]
    omega
  rw [exactDigits?, if_neg enough, taken, dropped, readNat?_padded positive small]
  rfl

theorem exactDigits?_lt {characters : List Char}
    (read : exactDigits? width characters = some (value, rest)) : value < 10 ^ width := by
  unfold exactDigits? at read
  split at read
  · cases read
  · obtain ⟨number, readNumber, same⟩ := Option.bind_eq_some_iff.mp read
    cases same
    have small := readNat?_lt readNumber
    rwa [List.length_take, Nat.min_eq_left (by omega)] at small

@[simp] theorem after?_cons (c : Char) (rest : List Char) : after? c (c :: rest) = some rest :=
  if_pos rfl

/-! ### Fractions -/

theorem fractionNanos_append :
    fractionNanos weight (row ++ others) =
      fractionNanos weight row + fractionNanos (weight / 10 ^ row.length) others := by
  induction row generalizing weight with
  | nil => simp [fractionNanos]
  | cons digit row inductionHypothesis =>
    rw [List.cons_append, fractionNanos, fractionNanos, inductionHypothesis, List.length_cons,
      Nat.pow_succ', Nat.div_div_eq_div_mul]
    omega

theorem fractionNanos_zeros (zeros : ∀ digit ∈ row, digit = 0) : fractionNanos weight row = 0 := by
  induction row generalizing weight with
  | nil => rfl
  | cons digit row inductionHypothesis =>
    rw [fractionNanos, inductionHypothesis fun digit member => zeros digit (by simp [member]),
      zeros digit (by simp)]
    omega

/-- The digits of a fraction are worth its nanoseconds, wherever the last of them stands. -/
theorem fractionNanos_decimals (scale : Nat) (small : value < 10 ^ width) :
    fractionNanos (10 ^ (width + scale) / 10) (decimals width value) = value * 10 ^ scale := by
  induction width generalizing value scale with
  | zero => simp [Nat.lt_one_iff.mp small, decimals, fractionNanos]
  | succ width inductionHypothesis =>
    rw [Nat.pow_succ] at small
    have smallRest : value / 10 < 10 ^ width := by omega
    have earlier := inductionHypothesis (scale + 1) smallRest
    rw [← Nat.add_assoc, Nat.add_right_comm] at earlier
    have last : 10 ^ (width + 1 + scale) / 10 / 10 ^ width = 10 ^ scale := by
      rw [Nat.add_right_comm, Nat.pow_succ, Nat.mul_div_cancel _ (by decide), Nat.pow_add,
        Nat.mul_div_cancel_left _ (Nat.pow_pos (by decide))]
    rw [decimals, fractionNanos_append, earlier, length_decimals, last]
    simp only [fractionNanos, Nat.add_zero, Nat.pow_succ]
    rw [Nat.mul_comm _ 10, ← Nat.mul_assoc, ← Nat.add_mul, Nat.div_add_mod']

theorem fractionNanos_le (small : ∀ digit ∈ row, digit < 10) :
    fractionNanos weight row ≤ 10 * weight - 1 := by
  induction row generalizing weight with
  | nil => exact Nat.zero_le _
  | cons digit row inductionHypothesis =>
    have first : digit * weight ≤ 9 * weight :=
      Nat.mul_le_mul_right _ (Nat.le_of_lt_succ (small digit (by simp)))
    have smallRest : ∀ digit ∈ row, digit < 10 := fun digit member =>
      small digit (by simp [member])
    have rest : fractionNanos (weight / 10) row ≤ 10 * (weight / 10) - 1 :=
      inductionHypothesis smallRest
    rw [fractionNanos]
    omega

theorem leadingDigits_map (small : ∀ digit ∈ row, digit < 10)
    (stop : leadingDigits rest = ([], rest)) :
    leadingDigits (row.map Nat.digitChar ++ rest) = (row, rest) := by
  induction row with
  | nil => exact stop
  | cons digit row inductionHypothesis =>
    rw [List.map_cons, List.cons_append, leadingDigits,
      digit?_digitChar digit (small digit (by simp)),
      inductionHypothesis fun digit member => small digit (by simp [member])]

theorem lt_ten_of_mem_leadingDigits (characters : List Char) :
    ∀ digit ∈ (leadingDigits characters).1, digit < 10 := by
  induction characters with
  | nil => simp [leadingDigits]
  | cons c characters inductionHypothesis =>
    rw [leadingDigits]
    split
    next digit read => simpa using ⟨digit?_lt read, inductionHypothesis⟩
    next => simp

theorem readFraction?_lt {characters : List Char}
    (read : readFraction? characters = some (nanos, rest)) : nanos < nanosPerSecond := by
  unfold readFraction? at read
  split at read
  next after =>
    have bound : fractionNanos 100000000 (leadingDigits after).1 ≤ 10 * 100000000 - 1 :=
      fractionNanos_le (lt_ten_of_mem_leadingDigits after)
    split at read
    next => cases read
    next taken =>
      rw [taken] at bound
      cases read
      exact Nat.lt_of_le_of_lt bound (by decide)
  next =>
    cases read
    decide

/-- The zeros at the end of a row come off its text. -/
theorem exists_trimmed (small : ∀ digit ∈ row, digit < 10) :
    ∃ kept zeros, row = kept ++ zeros ∧ (∀ digit ∈ zeros, digit = 0) ∧
      ((row.map Nat.digitChar).reverse.dropWhile (· == '0')).reverse = kept.map Nat.digitChar := by
  have cut : row = (row.reverse.dropWhile fun digit => digit.digitChar == '0').reverse ++
      (row.reverse.takeWhile fun digit => digit.digitChar == '0').reverse := by
    rw [← List.reverse_append, List.takeWhile_append_dropWhile, List.reverse_reverse]
  refine ⟨_, _, cut, fun digit member => ?_, ?_⟩
  · have low : digit < 10 := small digit (cut ▸ List.mem_append_right _ member)
    have zero := List.all_eq_true.mp List.all_takeWhile digit (List.mem_reverse.mp member)
    have onlyZero : ∀ digit < 10, (digit.digitChar == '0') = true → digit = 0 := by decide
    exact onlyZero digit low zero
  · rw [← List.map_reverse, List.dropWhile_map, ← List.map_reverse]
    rfl

theorem readFraction?_fractionText (small : nanos < nanosPerSecond)
    (stop : leadingDigits rest = ([], rest)) (noPoint : ∀ after, rest ≠ '.' :: after) :
    readFraction? (fractionText nanos ++ rest) = some (nanos, rest) := by
  unfold fractionText
  split
  next whole =>
    rw [whole, List.nil_append]
    exact readFraction?.eq_2 _ noPoint
  next fraction =>
    have nine : nanos < 10 ^ 9 := small
    have digits : ∀ digit ∈ decimals 9 nanos, digit < 10 := fun _ => lt_ten_of_mem_decimals
    obtain ⟨kept, zeros, cut, onlyZeros, trimmed⟩ := exists_trimmed digits
    have smallKept : ∀ digit ∈ kept, digit < 10 := fun digit member =>
      digits digit (cut ▸ List.mem_append_left _ member)
    have total : fractionNanos 100000000 kept = nanos := by
      have all := fractionNanos_decimals 0 nine
      rw [cut, fractionNanos_append, fractionNanos_zeros onlyZeros] at all
      simpa using all
    have filled : kept ≠ [] := by
      rintro rfl
      exact fraction total.symm
    obtain ⟨first, others, rfl⟩ := List.exists_cons_of_ne_nil filled
    rw [padded_eq_decimals nine, trimmed, List.cons_append, readFraction?,
      leadingDigits_map smallKept stop]
    simp only [total]

/-! ### Offsets -/

theorem leadingDigits_offsetText (offset : Int) :
    leadingDigits (offsetText offset) = ([], offsetText offset) ∧
      ∀ after, offsetText offset ≠ '.' :: after := by
  unfold offsetText
  split
  · exact ⟨rfl, by simp⟩
  split
  · exact ⟨rfl, by simp⟩
  · exact ⟨rfl, by simp⟩

theorem readOffset?_offsetText {offset : Int} (small : offset.natAbs ≤ 1439) :
    readOffset? (offsetText offset) = some offset := by
  unfold offsetText
  split
  next universal => rw [universal]; rfl
  next distant =>
    have bounds : offset.natAbs / 60 ≤ 23 ∧ offset.natAbs % 60 ≤ 59 := by omega
    have twoHours : offset.natAbs / 60 < 10 ^ 2 := by omega
    have twoMinutes : offset.natAbs % 60 < 10 ^ 2 := by omega
    have hours := exactDigits?_padded (Nat.succ_pos 1) twoHours
    have minutes := exactDigits?_padded (Nat.succ_pos 1) twoMinutes []
    rw [List.append_nil] at minutes
    split
    next behind =>
      have total : -1 * (((offset.natAbs / 60 : Nat) : Int) * 60 + (offset.natAbs % 60 : Nat)) =
          offset := by omega
      simpa [readOffset?, hours, minutes, bounds] using total
    next ahead =>
      have total : 1 * (((offset.natAbs / 60 : Nat) : Int) * 60 + (offset.natAbs % 60 : Nat)) =
          offset := by omega
      simpa [readOffset?, hours, minutes, bounds] using total

/-- The hours and the minutes of an offset, whatever their sign is. -/
theorem natAbs_le_of_clock {direction offset : Int} {rest : List Char}
    (signs : direction.natAbs = 1)
    (read : (exactDigits? 2 rest).bind (fun hours => (after? ':' hours.2).bind fun rest =>
      (exactDigits? 2 rest).bind fun minutes =>
        if minutes.2.isEmpty ∧ hours.1 ≤ 23 ∧ minutes.1 ≤ 59 then
          some (direction * (hours.1 * 60 + minutes.1))
        else none) = some offset) : offset.natAbs ≤ 1439 := by
  obtain ⟨hours, -, read⟩ := Option.bind_eq_some_iff.mp read
  obtain ⟨rest, -, read⟩ := Option.bind_eq_some_iff.mp read
  obtain ⟨minutes, -, read⟩ := Option.bind_eq_some_iff.mp read
  split at read
  next held =>
    cases read
    rw [Int.natAbs_mul, signs]
    omega
  next => cases read

/-- An offset that is read is less than a day. -/
theorem readOffset?_le {characters : List Char} {offset : Int}
    (read : readOffset? characters = some offset) : offset.natAbs ≤ 1439 := by
  unfold readOffset? at read
  split at read
  · cases read; decide
  · cases read; decide
  next sign rest _ _ =>
    by_cases plus : sign = '+'
    · rw [if_pos plus] at read
      exact natAbs_le_of_clock rfl read
    by_cases minus : sign = '-'
    · rw [if_neg plus, if_pos minus] at read
      exact natAbs_le_of_clock rfl read
    · rw [if_neg plus, if_neg minus] at read
      cases read
  · cases read

end Fields

/-! ### The clock of a timestamp -/

section Clock

variable {date : Date} {secondOfDay nanos offset : Int}

theorem localNanos_ofLocal :
    (ofLocal date secondOfDay nanos offset).localNanos =
      (date.toDays * 86400 + secondOfDay) * 1000000000 + nanos := by
  simp only [ofLocal, localNanos, momentAt, nanosPerSecond]
  omega

/-- The timestamp of the fields that a clock shows at a timestamp is this timestamp. -/
theorem ofLocal_fields (timestamp : Timestamp) :
    ofLocal timestamp.date timestamp.secondOfDay timestamp.subsecond timestamp.offset =
      timestamp := by
  obtain ⟨moment, offset⟩ := timestamp
  have same (nanos : Int) :
      ((nanos / 1000000000 / 86400 * 86400 + nanos / 1000000000 % 86400 - offset * 60) *
        1000000000 + nanos % 1000000000) = nanos - offset * 60 * 1000000000 := by omega
  rw [ofLocal, date, Date.toDays_ofDays]
  exact congrArg (Timestamp.mk · offset) ((same _).trans (Int.add_sub_cancel _ _))

/-- The clock shows the date that a timestamp was made of. -/
theorem date_ofLocal (shown : date.exists? = true) (low : 0 ≤ secondOfDay)
    (high : secondOfDay < 86400) (lowNanos : 0 ≤ nanos) (highNanos : nanos < nanosPerSecond) :
    (ofLocal date secondOfDay nanos offset).date = date := by
  have seconds : (ofLocal date secondOfDay nanos offset).localSeconds =
      date.toDays * 86400 + secondOfDay := by
    rw [localSeconds, localNanos_ofLocal]
    simp only [nanosPerSecond] at highNanos ⊢
    omega
  have days : (date.toDays * 86400 + secondOfDay) / 86400 = date.toDays := by omega
  rw [Timestamp.date, seconds, days, Date.ofDays_toDays shown]

end Clock

theorem Writable.of_ofLocal {date : Date} {secondOfDay nanos offset : Int}
    (shown : date.exists? = true) (low : 0 ≤ secondOfDay) (high : secondOfDay < 86400)
    (lowNanos : 0 ≤ nanos) (highNanos : nanos < nanosPerSecond) (firstYear : 0 ≤ date.year)
    (lastYear : date.year ≤ 9999) (small : offset.natAbs ≤ 1439) :
    (ofLocal date secondOfDay nanos offset).Writable := by
  have same : (ofLocal date secondOfDay nanos offset).date = date :=
    date_ofLocal shown low high lowNanos highNanos
  refine ⟨?_, ?_, small⟩
  · rwa [same]
  · rwa [same]

/-! ### Years of the clock -/

/-- The year of a moment in universal time. -/
def yearAt (moment : Moment) : Int :=
  (utc moment).date.year

theorem le_yearAt_iff {year : Int} {moment : Moment} :
    year ≤ yearAt moment ↔ (Date.mk year 1 1).toDays * 86400000000000 ≤ moment := by
  have days (nanos first : Int) :
      first ≤ (nanos + 0 * 60 * 1000000000) / 1000000000 / 86400 ↔
        first * 86400000000000 ≤ nanos := by omega
  exact Date.le_year_ofDays_iff.trans (days moment _)

theorem yearAt_mono {first second : Moment} (later : first ≤ second) :
    yearAt first ≤ yearAt second :=
  le_yearAt_iff.mpr (Int.le_trans (le_yearAt_iff.mp (Int.le_refl _)) later)

theorem writable_utc {moment : Moment} (first : 0 ≤ yearAt moment) (last : yearAt moment ≤ 9999) :
    (utc moment).Writable :=
  ⟨first, last, Nat.zero_le _⟩

/-! ### Texts -/

/-- The timestamp of the fields of a text can be written, also the last nanosecond of a day that a
leap second stands for. -/
theorem writable_of_ofFields? {date : Date} {hour minute second nanos : Nat} {offset : Int}
    {timestamp : Timestamp} (firstYear : 0 ≤ date.year) (lastYear : date.year ≤ 9999)
    (fraction : nanos < nanosPerSecond) (small : offset.natAbs ≤ 1439)
    (made : ofFields? date hour minute second nanos offset = some timestamp) :
    timestamp.Writable := by
  unfold ofFields? at made
  split at made
  next held =>
    obtain ⟨shown, hours, minutes⟩ := held
    split at made
    next seconds =>
      cases made
      exact .of_ofLocal shown (by omega) (by omega) (by omega) (by omega) firstYear lastYear
        small
    split at made
    next leap =>
      dsimp only at made
      split at made
      next =>
        cases made
        exact .of_ofLocal shown (by omega) (by omega) (by omega) (by decide) firstYear lastYear
          small
      next => cases made
    next => cases made
  next => cases made

/-- What is read from a text can be written. -/
theorem writable_of_read? {text : String} {timestamp : Timestamp}
    (read : read? text = some timestamp) : timestamp.Writable := by
  simp only [read?, Option.bind_eq_bind, Option.bind_eq_some_iff] at read
  obtain ⟨⟨year, _⟩, readYear, _, -, ⟨month, _⟩, -, _, -, ⟨day, _⟩, -, read⟩ := read
  split at read
  next => cases read
  split at read
  next => cases read
  simp only [Option.bind_eq_some_iff] at read
  obtain ⟨⟨hour, _⟩, -, _, -, ⟨minute, _⟩, -, _, -, ⟨second, _⟩, -, ⟨nanos, _⟩, readNanos, offset,
    readOffset, made⟩ := read
  have fourDigits : year < 10 ^ 4 := exactDigits?_lt readYear
  exact writable_of_ofFields? (Int.natCast_nonneg year) (by dsimp only; omega)
    (readFraction?_lt readNanos) (readOffset?_le readOffset) made

/-- The fields of a text are read from it. -/
theorem read?_fields {year month day hour minute second nanos : Nat} {offset : Int}
    (years : year < 10 ^ 4) (months : month < 10 ^ 2) (days : day < 10 ^ 2) (hours : hour < 10 ^ 2)
    (minutes : minute < 10 ^ 2) (seconds : second < 10 ^ 2) (fraction : nanos < nanosPerSecond)
    (small : offset.natAbs ≤ 1439) :
    read? (String.ofList
      (padded 4 year ++ '-' :: padded 2 month ++ '-' :: padded 2 day ++ 'T' :: padded 2 hour ++
        ':' :: padded 2 minute ++ ':' :: padded 2 second ++ fractionText nanos ++
        offsetText offset)) =
      ofFields? ⟨year, month, day⟩ hour minute second nanos offset := by
  obtain ⟨noDigit, noPoint⟩ := leadingDigits_offsetText offset
  have ascii : ¬ 0x80 ≤ 'T'.toNat := by decide
  simp only [read?, String.toList_ofList, List.append_assoc, List.cons_append,
    exactDigits?_padded (Nat.succ_pos _) years, exactDigits?_padded (Nat.succ_pos _) months,
    exactDigits?_padded (Nat.succ_pos _) days, exactDigits?_padded (Nat.succ_pos _) hours,
    exactDigits?_padded (Nat.succ_pos _) minutes, exactDigits?_padded (Nat.succ_pos _) seconds,
    readFraction?_fractionText fraction noDigit noPoint, readOffset?_offsetText small,
    after?_cons, Option.bind_eq_bind, Option.bind_some, if_neg ascii]

/-- What is written is read as it was. -/
theorem Writable.read?_write? {timestamp : Timestamp} (held : timestamp.Writable) :
    ∃ text, timestamp.write? = some text ∧ read? text = some timestamp := by
  have ⟨firstYear, lastYear, small⟩ := held
  have shown : timestamp.date.exists? = true := Date.exists?_ofDays _
  obtain ⟨firstMonth, lastMonth, firstDay, lastDay⟩ := Date.exists?_iff.mp shown
  have shortMonth := Date.daysInMonth_le timestamp.date.year timestamp.date.month
  have dayLow : 0 ≤ timestamp.secondOfDay := Int.emod_nonneg _ (by decide)
  have dayHigh : timestamp.secondOfDay < 86400 := Int.emod_lt_of_pos _ (by decide)
  have nanosLow : 0 ≤ timestamp.subsecond := Int.emod_nonneg _ (by decide)
  have nanosHigh : timestamp.subsecond < nanosPerSecond := Int.emod_lt_of_pos _ (by decide)
  have date : (⟨timestamp.date.year.toNat, timestamp.date.month.toNat,
      timestamp.date.day.toNat⟩ : Date) = timestamp.date := by
    rw [Int.toNat_of_nonneg firstYear, Int.toNat_of_nonneg (by omega),
      Int.toNat_of_nonneg (by omega)]
  have clock (second : Nat) :
      second / 3600 * 3600 + second / 60 % 60 * 60 + second % 60 = second := by omega
  refine ⟨_, if_pos ⟨firstYear, lastYear⟩, ?_⟩
  rw [read?_fields (by omega) (by omega) (by omega) (by omega) (by omega) (by omega) (by omega)
    small, date, ofFields?, if_pos ⟨shown, by omega, by omega⟩, if_pos (by omega), clock,
    Int.toNat_of_nonneg dayLow, Int.toNat_of_nonneg nanosLow, ofLocal_fields]

end UserDashboard.Time.Timestamp
