/-
This file proves that the calendar counts its days without a gap and without a day twice.

Both directions of the count go through a year that begins in March and a day of that year, and
the two functions are inverse to each other because each of them is inverse to the date that the
year and the day have. What needs an argument is the year of the era: it is found from the day by
one division, after the leap days have been taken out with three others.
-/

import UserDashboard.Time.Calendar

namespace UserDashboard.Time.Date

/-! ### The days of an era -/

/-- The years of an era that begin in March, with the days that they have. The leap day is the
last of its year, and the last year of a century has one only at the end of the era. -/
structure InEra (yearOfEra dayOfYear : Int) : Prop where
  first : 0 ≤ yearOfEra
  last : yearOfEra ≤ 399
  low : 0 ≤ dayOfYear
  high : dayOfYear ≤ 365
  leap : dayOfYear = 365 → yearOfEra % 4 = 3 ∧ (yearOfEra % 100 = 99 → yearOfEra = 399)

/-- The day of the era on which a day of one of its years falls. -/
def dayOfEra (yearOfEra dayOfYear : Int) : Int :=
  yearOfEra * 365 + yearOfEra / 4 - yearOfEra / 100 + dayOfYear

variable {era yearOfEra dayOfYear : Int}

/-- The whole centuries, fours and single years before a year of an era. -/
theorem InEra.exists_cycles (held : InEra yearOfEra dayOfYear) :
    ∃ century four single, yearOfEra = 100 * century + 4 * four + single ∧
      (0 ≤ century ∧ century ≤ 3) ∧ (0 ≤ four ∧ four ≤ 24) ∧ (0 ≤ single ∧ single ≤ 3) ∧
      (dayOfYear ≤ 364 ∨ dayOfYear = 365 ∧ single = 3 ∧ (four ≤ 23 ∨ century = 3)) ∧
      dayOfEra yearOfEra dayOfYear = 36524 * century + 1461 * four + 365 * single + dayOfYear := by
  obtain ⟨first, last, low, high, leap⟩ := held
  refine ⟨yearOfEra / 100, yearOfEra % 100 / 4, yearOfEra % 4, by omega, by omega, by omega,
    by omega, by omega, ?_⟩
  unfold dayOfEra
  omega

theorem InEra.dayOfEra_bounds (held : InEra yearOfEra dayOfYear) :
    0 ≤ dayOfEra yearOfEra dayOfYear ∧ dayOfEra yearOfEra dayOfYear < 146097 := by
  obtain ⟨century, four, single, -, ofCentury, ofFour, ofSingle, leap, dayIs⟩ := held.exists_cycles
  have low := held.low
  omega

/-- The divisions that find the year of a day in its era. The first takes the leap days out, the
second puts those back that the centuries lack, and the third counts the last day of the era,
which the second counts as one century too many. -/
theorem InEra.yearOfEra_eq (held : InEra yearOfEra dayOfYear) {day : Int}
    (same : dayOfEra yearOfEra dayOfYear = day) :
    (day - day / 1460 + day / 36524 - day / 146096) / 365 = yearOfEra := by
  obtain ⟨century, four, single, yearIs, ofCentury, ofFour, ofSingle, leap, dayIs⟩ :=
    held.exists_cycles
  obtain ⟨-, -, low, -, -⟩ := held
  rw [same] at dayIs
  have centuries : day / 36524 - day / 146096 = century := by
    by_cases lastDay : day = 146096
    · omega
    · have century : day / 36524 = century := by omega
      omega
  -- The leap days before the day are those of the whole fours before it, or one more.
  have leapDays : day / 1460 = 25 * century + four ∧ dayOfYear ≤ 364 ∨
      day / 1460 = 25 * century + four + 1 ∧ 0 < dayOfYear := by
    have rest : day - 1460 * (25 * century + four) =
        24 * century + four + 365 * single + dayOfYear := by omega
    omega
  omega

/-- Every day of an era falls in one of its years. -/
theorem exists_inEra {day : Int} (low : 0 ≤ day) (high : day < 146097) :
    ∃ yearOfEra dayOfYear,
      InEra yearOfEra dayOfYear ∧ dayOfEra yearOfEra dayOfYear = day := by
  obtain ⟨century, centuryIs⟩ : ∃ century, century = min (day / 36524) 3 := ⟨_, rfl⟩
  obtain ⟨four, fourIs⟩ : ∃ four, four = min ((day - 36524 * century) / 1461) 24 := ⟨_, rfl⟩
  obtain ⟨single, singleIs⟩ :
      ∃ single, single = min ((day - 36524 * century - 1461 * four) / 365) 3 := ⟨_, rfl⟩
  obtain ⟨rest, restIs⟩ :
      ∃ rest, rest = day - 36524 * century - 1461 * four - 365 * single := ⟨_, rfl⟩
  have divided : day / 36524 = century ∨ day / 36524 = 4 ∧ century = 3 := by omega
  have ofCentury : 0 ≤ century ∧ century ≤ 3 := by omega
  have ofFour : 0 ≤ four ∧ four ≤ 24 := by omega
  have ofSingle : 0 ≤ single ∧ single ≤ 3 := by omega
  have ofRest : 0 ≤ rest ∧ rest ≤ 365 := by omega
  have fours : (100 * century + 4 * four + single) / 4 = 25 * century + four := by omega
  have hundreds : (100 * century + 4 * four + single) / 100 = century := by omega
  refine ⟨100 * century + 4 * four + single, rest,
    ⟨by omega, by omega, ofRest.1, ofRest.2, by omega⟩, ?_⟩
  unfold dayOfEra
  omega

/-! ### The date on a day of a year -/

/-- The date on a day of a year that begins in March. -/
def ofYear (era yearOfEra dayOfYear : Int) : Date :=
  let month := (5 * dayOfYear + 2) / 153
  let year := yearOfEra + era * 400
  { year := if month < 10 then year else year + 1
    month := if month < 10 then month + 3 else month - 9
    day := dayOfYear - (153 * month + 2) / 5 + 1 }

theorem ofDays_eq_ofYear (held : InEra yearOfEra dayOfYear) :
    ofDays (era * 146097 + dayOfEra yearOfEra dayOfYear - 719468) =
      ofYear era yearOfEra dayOfYear := by
  obtain ⟨low, high⟩ := held.dayOfEra_bounds
  have eraOf : (era * 146097 + dayOfEra yearOfEra dayOfYear - 719468 + 719468) / 146097 = era := by
    omega
  have dayOf : era * 146097 + dayOfEra yearOfEra dayOfYear - 719468 + 719468 - era * 146097 =
      dayOfEra yearOfEra dayOfYear := by omega
  have rest : dayOfEra yearOfEra dayOfYear -
      (365 * yearOfEra + yearOfEra / 4 - yearOfEra / 100) = dayOfYear := by
    unfold dayOfEra
    omega
  simp only [ofDays, eraOf, dayOf, held.yearOfEra_eq rfl, rest, ofYear]

theorem toDays_ofYear (held : InEra yearOfEra dayOfYear) :
    (ofYear era yearOfEra dayOfYear).toDays =
      era * 146097 + dayOfEra yearOfEra dayOfYear - 719468 := by
  obtain ⟨first, last, low, high, -⟩ := held
  have months : 0 ≤ (5 * dayOfYear + 2) / 153 ∧ (5 * dayOfYear + 2) / 153 ≤ 11 := by omega
  simp only [ofYear]
  generalize (5 * dayOfYear + 2) / 153 = month at months
  -- January and February are the last months of the year that began in March.
  by_cases early : month < 10
  · have notLate : ¬ month + 3 ≤ 2 := by omega
    have eraOf : (yearOfEra + era * 400) / 400 = era := by omega
    have yearOf : yearOfEra + era * 400 - era * 400 = yearOfEra := by omega
    simp only [toDays, if_pos early, if_neg notLate, eraOf, yearOf, Int.add_sub_cancel, dayOfEra]
    omega
  · have late : month - 9 ≤ 2 := by omega
    have eraOf : (yearOfEra + era * 400) / 400 = era := by omega
    have yearOf : yearOfEra + era * 400 - era * 400 = yearOfEra := by omega
    simp only [toDays, if_neg early, if_pos late, Int.add_sub_cancel, Int.sub_add_cancel, eraOf,
      yearOf, dayOfEra]
    omega

theorem exists?_ofYear (held : InEra yearOfEra dayOfYear) :
    (ofYear era yearOfEra dayOfYear).exists? = true := by
  obtain ⟨first, last, low, high, leap⟩ := held
  have months : 0 ≤ (5 * dayOfYear + 2) / 153 ∧ (5 * dayOfYear + 2) / 153 ≤ 11 := by omega
  simp only [exists?, ofYear, daysInMonth, isLeap, Bool.and_eq_true, decide_eq_true_eq]
  grind

theorem exists?_iff {date : Date} :
    date.exists? = true ↔ 1 ≤ date.month ∧ date.month ≤ 12 ∧ 1 ≤ date.day ∧
      date.day ≤ daysInMonth date.year date.month := by
  simp [exists?, and_assoc]

theorem daysInMonth_le (year month : Int) : daysInMonth year month ≤ 31 := by
  unfold daysInMonth
  split
  · split <;> decide
  · split <;> decide

/-- Every date that exists is the date on a day of a year. -/
theorem exists_ofYear_eq {date : Date} (shown : date.exists? = true) :
    ∃ era yearOfEra dayOfYear,
      InEra yearOfEra dayOfYear ∧ ofYear era yearOfEra dayOfYear = date := by
  obtain ⟨year, month, day⟩ := date
  obtain ⟨firstMonth, lastMonth, firstDay, lastDay⟩ := exists?_iff.mp shown
  simp only [daysInMonth, isLeap] at firstMonth lastMonth firstDay lastDay
  by_cases late : month ≤ 2
  · refine ⟨(year - 1) / 400, (year - 1) % 400, (153 * (month + 9) + 2) / 5 + day - 1, ?_, ?_⟩
    · constructor <;> grind
    · have held : (5 * ((153 * (month + 9) + 2) / 5 + day - 1) + 2) / 153 = month + 9 := by
        grind
      simp only [ofYear, held, Date.mk.injEq]
      omega
  · refine ⟨year / 400, year % 400, (153 * (month - 3) + 2) / 5 + day - 1, ?_, ?_⟩
    · constructor <;> grind
    · have held : (5 * ((153 * (month - 3) + 2) / 5 + day - 1) + 2) / 153 = month - 3 := by
        grind
      simp only [ofYear, held, Date.mk.injEq]
      omega

/-! ### The count and the dates -/

/-- Every numbered day is the day of a year. -/
theorem exists_days_eq (days : Int) :
    ∃ era yearOfEra dayOfYear, InEra yearOfEra dayOfYear ∧
      era * 146097 + dayOfEra yearOfEra dayOfYear - 719468 = days := by
  have low : 0 ≤ (days + 719468) % 146097 := by omega
  have high : (days + 719468) % 146097 < 146097 := by omega
  obtain ⟨yearOfEra, dayOfYear, held, same⟩ := exists_inEra low high
  exact ⟨(days + 719468) / 146097, yearOfEra, dayOfYear, held, by omega⟩

theorem toDays_ofDays (days : Int) : (ofDays days).toDays = days := by
  obtain ⟨era, yearOfEra, dayOfYear, held, rfl⟩ := exists_days_eq days
  rw [ofDays_eq_ofYear held, toDays_ofYear held]

theorem exists?_ofDays (days : Int) : (ofDays days).exists? = true := by
  obtain ⟨era, yearOfEra, dayOfYear, held, rfl⟩ := exists_days_eq days
  rw [ofDays_eq_ofYear held]
  exact exists?_ofYear held

theorem ofDays_toDays {date : Date} (shown : date.exists? = true) :
    ofDays date.toDays = date := by
  obtain ⟨era, yearOfEra, dayOfYear, held, rfl⟩ := exists_ofYear_eq shown
  rw [toDays_ofYear held, ofDays_eq_ofYear held]

/-! ### The order of days and years -/

/-- The days before a year that begins in March. -/
def daysBefore (year : Int) : Int :=
  365 * year + year / 4 - year / 100 + year / 400

/-- A year later is at least three hundred and sixty-five days later. -/
theorem daysBefore_lt {first second : Int} (later : first < second) :
    daysBefore first + 365 ≤ daysBefore second := by
  have leaps (year : Int) : year / 4 - year / 100 + year / 400 =
      24 * (year / 100) + year % 100 / 4 + year / 100 / 4 := by omega
  have firstLeaps := leaps first
  have secondLeaps := leaps second
  unfold daysBefore
  by_cases century : first / 100 = second / 100
  · omega
  · omega

theorem days_eq_daysBefore (held : InEra yearOfEra dayOfYear) :
    era * 146097 + dayOfEra yearOfEra dayOfYear - 719468 =
      daysBefore (yearOfEra + era * 400) + dayOfYear - 719468 := by
  obtain ⟨first, last, -, -, -⟩ := held
  unfold dayOfEra daysBefore
  omega

/-- The years are told apart by their first days. -/
theorem le_year_ofDays_iff {year days : Int} :
    year ≤ (ofDays days).year ↔ (Date.mk year 1 1).toDays ≤ days := by
  obtain ⟨era, yearOfEra, dayOfYear, held, rfl⟩ := exists_days_eq days
  have low := held.low
  have high := held.high
  have newYear : (Date.mk year 1 1).toDays = daysBefore (year - 1) + 306 - 719468 := by
    simp only [toDays, daysBefore]
    omega
  rw [ofDays_eq_ofYear held, newYear, days_eq_daysBefore held]
  simp only [ofYear]
  rcases Int.lt_trichotomy (year - 1) (yearOfEra + era * 400) with before | same | after
  · have := daysBefore_lt before
    split <;> omega
  · rw [same]
    split <;> omega
  · have := daysBefore_lt after
    split <;> omega

/-! ### The order of dates -/

/-- The day on which a month begins in a year that begins in March. -/
def monthStart (month : Int) : Int :=
  (153 * (if month ≤ 2 then month + 9 else month - 3) + 2) / 5

theorem toDays_eq (date : Date) :
    date.toDays = daysBefore (if date.month ≤ 2 then date.year - 1 else date.year) +
      monthStart date.month + date.day - 719469 := by
  simp only [toDays, daysBefore, monthStart]
  split <;> omega

/-- From March on a month is no longer than it takes to a later one. -/
theorem daysInMonth_le_of_march {year month later : Int} (march : 3 ≤ month)
    (ordered : month < later) (last : later ≤ 12) :
    monthStart month + daysInMonth year month ≤ monthStart later := by
  have one : month = 3 ∨ month = 4 ∨ month = 5 ∨ month = 6 ∨ month = 7 ∨ month = 8 ∨ month = 9 ∨
      month = 10 ∨ month = 11 := by omega
  have summer : ¬later ≤ 2 := by omega
  rcases one with rfl | rfl | rfl | rfl | rfl | rfl | rfl | rfl | rfl <;>
    simp [daysInMonth, monthStart, summer] <;> omega

/-- The months before March belong to the year before, which ends with February. -/
theorem daysInMonth_le_of_winter {year month : Int} (first : 1 ≤ month) (winter : month ≤ 2) :
    daysBefore (year - 1) + monthStart month + daysInMonth year month ≤ daysBefore year := by
  have either : month = 1 ∨ month = 2 := by omega
  rcases either with rfl | rfl
  · have january : monthStart 1 + daysInMonth year 1 = 337 := rfl
    have longer := daysBefore_lt (show year - 1 < year by omega)
    omega
  · have february : monthStart 2 = 337 := rfl
    rw [february]
    simp only [daysInMonth, isLeap, daysBefore, if_true]
    grind

/-- A date of a later year falls on a later day. -/
theorem toDays_lt_of_year {first second : Date} (shownFirst : first.exists? = true)
    (shownSecond : second.exists? = true) (later : first.year < second.year) :
    first.toDays < second.toDays := by
  have before : ¬second.year ≤ (ofDays first.toDays).year := by
    rw [ofDays_toDays shownFirst]
    omega
  have since : second.year ≤ (ofDays second.toDays).year :=
    Int.le_of_eq (congrArg Date.year (ofDays_toDays shownSecond)).symm
  rw [le_year_ofDays_iff] at before since
  omega

/-- So does one of a later month of the same year. -/
theorem toDays_lt_of_month {first second : Date} (shownFirst : first.exists? = true)
    (shownSecond : second.exists? = true) (same : first.year = second.year)
    (later : first.month < second.month) : first.toDays < second.toDays := by
  obtain ⟨firstMonth, -, -, lastDay⟩ := exists?_iff.mp shownFirst
  obtain ⟨-, lastMonth, firstDay, -⟩ := exists?_iff.mp shownSecond
  have starts : 0 ≤ monthStart second.month := by
    simp only [monthStart]
    split <;> omega
  rw [toDays_eq, toDays_eq, ← same]
  by_cases march : second.month ≤ 2
  · -- Both months end the year that began in March before, and the earlier one is January.
    have january : first.month = 1 := by omega
    have february : second.month = 2 := by omega
    rw [january] at lastDay ⊢
    rw [february]
    have length : monthStart 1 + daysInMonth first.year 1 = monthStart 2 := rfl
    simp only [Int.reduceLE, if_true]
    omega
  · by_cases winter : first.month ≤ 2
    · have ends : daysBefore (first.year - 1) + monthStart first.month +
          daysInMonth first.year first.month ≤ daysBefore first.year :=
        daysInMonth_le_of_winter firstMonth winter
      rw [if_pos winter, if_neg march]
      omega
    · have fits : monthStart first.month + daysInMonth first.year first.month ≤
          monthStart second.month := daysInMonth_le_of_march (by omega) later lastMonth
      rw [if_neg winter, if_neg march]
      omega

/-- Whether a date comes before another one. -/
def Earlier (first second : Date) : Prop :=
  first.year < second.year ∨ first.year = second.year ∧
    (first.month < second.month ∨ first.month = second.month ∧ first.day < second.day)

/-- The days are in the order of their dates. -/
theorem Earlier.toDays_lt {first second : Date} (held : first.Earlier second)
    (shownFirst : first.exists? = true) (shownSecond : second.exists? = true) :
    first.toDays < second.toDays := by
  rcases held with year | ⟨sameYear, month | ⟨sameMonth, day⟩⟩
  · exact toDays_lt_of_year shownFirst shownSecond year
  · exact toDays_lt_of_month shownFirst shownSecond sameYear month
  · rw [toDays_eq, toDays_eq, sameYear, sameMonth]
    omega

end UserDashboard.Time.Date
