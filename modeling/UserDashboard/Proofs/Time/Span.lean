/-
This file proves that a length of time is read as it was written.

What is written is a sum of terms, the largest unit first: numbers of units, each below what makes
up the next larger unit, without those that are zero. A term is read off the front of a text up to
the blank that follows it, and adds as much as it stands for. So a sum of terms is read as their
total as long as no partial total outgrows the limit of 64 bits for the seconds, and the terms of a
length of time have itself for their total.
-/

import UserDashboard.Proofs.Number.Digits
import UserDashboard.Time.Span

namespace UserDashboard.Time.Span

open Number Text

/-! ### Numbers before a unit -/

/-- A letter of a unit is neither a digit nor a blank. -/
theorem plain_of_isUnitLetter {c : Char} (letter : isUnitLetter c) :
    digit? c = none ∧ isBlank c = false := by
  have code : 65 ≤ c.toNat ∧ c.toNat ≤ 122 ∨ c.toNat = 181 := by
    simp only [isUnitLetter, Bool.or_eq_true, Bool.and_eq_true, decide_eq_true_eq, beq_iff_eq,
      Char.le_def, UInt32.le_iff_toNat_le] at letter
    rcases letter with (⟨low, high⟩ | ⟨low, high⟩) | rfl
    · have low : 97 ≤ c.toNat := low
      have high : c.toNat ≤ 122 := high
      omega
    · have low : 65 ≤ c.toNat := low
      have high : c.toNat ≤ 90 := high
      omega
    · decide
  constructor
  · have later : ¬c ≤ '9' := fun high => by
      have high : c.toNat ≤ 57 := high
      omega
    simp [digit?, later]
  · simp only [isBlank, Bool.or_eq_false_iff, Bool.and_eq_false_iff, decide_eq_false_iff_not,
      beq_eq_false_iff_ne]
    omega

theorem readValue?_digitChar {before digit : Nat} (single : digit < 10)
    (fits : before * 10 + digit ≤ nat64Max) (rest : List Char) :
    readValue? before (digit.digitChar :: rest) = readValue? (before * 10 + digit) rest := by
  simp only [readValue?, digit?_digitChar digit single]
  rw [if_neg (Nat.not_lt.mpr fits)]

/-- The digits of a number are read as this number. -/
theorem readValue?_toDigits {value : Nat} (small : value ≤ nat64Max) (rest : List Char) :
    readValue? 0 (Nat.toDigits 10 value ++ rest) = readValue? value rest := by
  induction value using Nat.strongRecOn generalizing rest with
  | ind value inductionHypothesis =>
    by_cases single : value < 10
    · rw [Nat.toDigits_of_lt_base single, List.singleton_append,
        readValue?_digitChar single (by omega), Nat.zero_mul, Nat.zero_add]
    · have split : value / 10 * 10 + value % 10 = value := Nat.div_add_mod' value 10
      rw [Nat.toDigits_of_base_le (by decide) (by omega), List.append_assoc,
        inductionHypothesis (value / 10) (by omega) (by omega), List.singleton_append,
        readValue?_digitChar (by omega) (by omega), split]

/-- A number is read up to the unit after it. -/
theorem readValue?_unit (value : Nat) {c : Char} (letter : isUnitLetter c) (rest : List Char) :
    readValue? value (c :: rest) = some (value, none, c :: rest) := by
  obtain ⟨noDigit, noBlank⟩ := plain_of_isUnitLetter letter
  simp [readValue?, noDigit, noBlank, letter]

theorem exists_first_digit (value : Nat) :
    ∃ digit < 10, ∃ others, Nat.toDigits 10 value = digit.digitChar :: others := by
  induction value using Nat.strongRecOn with
  | ind value inductionHypothesis =>
    by_cases single : value < 10
    · exact ⟨value, single, [], Nat.toDigits_of_lt_base single⟩
    · obtain ⟨digit, below, others, first⟩ := inductionHypothesis (value / 10) (by omega)
      refine ⟨digit, below, others ++ [(value % 10).digitChar], ?_⟩
      rw [Nat.toDigits_of_base_le (by decide) (by omega), first, List.cons_append]

theorem not_isBlank_digitChar : ∀ digit < 10, isBlank digit.digitChar = false := by
  decide

/-! ### Terms -/

/-- A number of units. -/
structure Term where
  /-- The number. -/
  count : Nat
  /-- The unit. -/
  measure : Measure

/-- How a unit is written after a number. The long ones have a plural. -/
def Measure.written (count : Nat) : Measure → String
  | .nanosecond => "ns"
  | .microsecond => "us"
  | .millisecond => "ms"
  | .second => "s"
  | .minute => "m"
  | .hour => "h"
  | .day => if count > 1 then "days" else "day"
  | .week => if count > 1 then "weeks" else "week"
  | .month => if count > 1 then "months" else "month"
  | .year => if count > 1 then "years" else "year"

/-- Every spelling of a unit is found by it, and is made of letters. -/
theorem Measure.of_spelling : ∀ measure ∈ all, ∀ spelling ∈ measure.spellings,
    ofSpelling? spelling = some measure ∧ spelling.toList ≠ [] ∧
      spelling.toList.all isUnitLetter := by
  decide

theorem Measure.written_mem (measure : Measure) (count : Nat) :
    measure.written count ∈ measure.spellings := by
  cases measure with
  | day | week | month | year =>
    simp only [written]
    split <;> simp [spellings]
  | _ => simp [written, spellings]

/-- A unit is read as it is written. -/
theorem Measure.of_written (measure : Measure) (count : Nat) :
    ofSpelling? (measure.written count) = some measure ∧
      (measure.written count).toList ≠ [] ∧
      ∀ c ∈ (measure.written count).toList, isUnitLetter c := by
  have known : measure ∈ all := by cases measure <;> decide
  obtain ⟨found, filled, letters⟩ := of_spelling measure known _ (measure.written_mem count)
  exact ⟨found, filled, List.all_eq_true.mp letters⟩

/-- The nanoseconds in a unit. -/
def Measure.nanos (measure : Measure) : Nat :=
  measure.size.1 * nanosPerSecond + measure.size.2

namespace Term

/-- The nanoseconds that a term stands for. -/
def nanos (term : Term) : Nat :=
  term.count * term.measure.nanos

/-- A term as it is written. -/
def text (term : Term) : String :=
  s!"{term.count}{term.measure.written term.count}"

theorem toList_text (term : Term) :
    term.text.toList =
      Nat.toDigits 10 term.count ++ (term.measure.written term.count).toList := by
  simp only [text, Nat.toString_eq_ofList_toDigits, String.toList_append, String.toList_ofList]
  rfl

/-- A term is written as a digit, and at least one character after it. -/
theorem exists_first (term : Term) :
    ∃ digit < 10, ∃ second later, term.text.toList = digit.digitChar :: second :: later := by
  obtain ⟨digit, single, others, first⟩ := exists_first_digit term.count
  obtain ⟨-, filled, -⟩ := term.measure.of_written term.count
  obtain ⟨second, later, rest⟩ := List.exists_cons_of_ne_nil
    (List.append_ne_nil_of_right_ne_nil others filled)
  exact ⟨digit, single, second, later, by rw [toList_text, first, List.cons_append, rest]⟩

/-- Whether a term is within its bounds: what is counted in nanoseconds makes up less than a
second, and what is counted in seconds fits 64 bits. -/
structure Bounded (term : Term) : Prop where
  subsecond : term.count * term.measure.size.2 < nanosPerSecond
  total : term.nanos < spanLimit

theorem Bounded.count_le {term : Term} (bounded : term.Bounded) : term.count ≤ nat64Max := by
  obtain ⟨subsecond, total⟩ := bounded
  simp only [nanos, Measure.nanos, spanLimit, nanosPerSecond, nat64Max] at subsecond total ⊢
  cases unit : term.measure <;> simp only [unit, Measure.size] at subsecond total <;> omega

/-- What follows a term: nothing, or a blank. -/
def Ends (rest : List Char) : Prop :=
  ∀ next ∈ rest.head?, isBlank next

theorem endsUnit_of_ends {rest : List Char} (ends : Ends rest) : endsUnit rest := by
  cases rest with
  | nil => rfl
  | cons next later => simp [endsUnit, ends next rfl]

/-- A unit reaches up to what follows the term. -/
theorem span_unit {unit rest : List Char} (letters : ∀ c ∈ unit, isUnitLetter c)
    (ends : Ends rest) :
    (unit ++ rest).takeWhile isUnitLetter = unit ∧
      (unit ++ rest).dropWhile isUnitLetter = rest := by
  rw [List.takeWhile_append_of_pos letters, List.dropWhile_append_of_pos letters]
  cases rest with
  | nil => exact ⟨List.append_nil _, rfl⟩
  | cons next later =>
    have noLetter : ¬isUnitLetter next := fun letter => by
      have noBlank := (plain_of_isUnitLetter letter).2
      rw [ends next rfl] at noBlank
      cases noBlank
    rw [List.takeWhile_cons_of_neg noLetter, List.dropWhile_cons_of_neg noLetter]
    exact ⟨List.append_nil _, rfl⟩

/-- A term adds what it stands for. -/
theorem Bounded.extendByPart? {term : Term} (bounded : term.Bounded) (span : Span)
    (fits : span.nanos + term.nanos < spanLimit) :
    span.extendByPart? term.count none term.measure = some ⟨span.nanos + term.nanos, fits⟩ := by
  have below : span.subsecond < nanosPerSecond := Nat.mod_lt _ (by decide)
  obtain ⟨subsecond, total⟩ := bounded
  have parts : term.nanos = term.count * term.measure.size.1 * nanosPerSecond +
      term.count * term.measure.size.2 := by
    rw [nanos, Measure.nanos, Nat.mul_add, Nat.mul_assoc]
  have seconds : term.count * term.measure.size.1 ≤ nat64Max := by
    simp only [parts, spanLimit, nanosPerSecond, nat64Max] at total ⊢
    omega
  have nanos : term.count * term.measure.size.2 ≤ nat64Max := by
    simp only [nanosPerSecond, nat64Max] at subsecond ⊢
    omega
  have together : span.subsecond + term.count * term.measure.size.2 ≤ nat64Max := by
    simp only [nanosPerSecond, nat64Max] at below subsecond ⊢
    omega
  have sum : span.nanos + term.count * term.measure.size.1 * nanosPerSecond +
      term.count * term.measure.size.2 = span.nanos + term.nanos := by
    rw [parts, Nat.add_assoc]
  simp only [Span.extendByPart?, if_neg (Nat.not_lt.mpr nanos), extend?, seconds, together,
    and_self, if_true, sum, fits, dite_true, Option.bind_eq_bind, Option.bind_some]

/-- A term is read off the front of a text. -/
theorem Bounded.sumParts? {term : Term} (bounded : term.Bounded) (bound : Nat) (span : Span)
    (fits : span.nanos + term.nanos < spanLimit) {rest : List Char} (ends : Ends rest) :
    sumParts? (bound + 1) span (term.text.toList ++ rest) =
      Span.sumParts? bound ⟨span.nanos + term.nanos, fits⟩ rest := by
  obtain ⟨digit, single, others, first⟩ := exists_first_digit term.count
  obtain ⟨found, filled, letters⟩ := term.measure.of_written term.count
  obtain ⟨letter, later, unit⟩ := List.exists_cons_of_ne_nil filled
  have value : readValue? digit (others ++ ((term.measure.written term.count).toList ++ rest)) =
      some (term.count, none, (term.measure.written term.count).toList ++ rest) := by
    have all := readValue?_toDigits bounded.count_le
      ((term.measure.written term.count).toList ++ rest)
    rw [first, List.cons_append, readValue?_digitChar single (by simp only [nat64Max]; omega),
      Nat.zero_mul, Nat.zero_add] at all
    rw [all, unit]
    exact readValue?_unit _ (letters letter (unit ▸ List.mem_cons_self)) _
  obtain ⟨taken, left⟩ := span_unit letters ends
  have begins : trimStart (term.text.toList ++ rest) =
      digit.digitChar :: (others ++ ((term.measure.written term.count).toList ++ rest)) := by
    rw [toList_text, first, trimStart, List.append_assoc, List.cons_append,
      List.dropWhile_cons_of_neg (by simp [not_isBlank_digitChar digit single])]
  simp only [Span.sumParts?, begins, digit?_digitChar digit single, value, taken, left,
    String.ofList_toList, found, endsUnit_of_ends ends, if_true,
    bounded.extendByPart? span fits, Option.bind_eq_bind, Option.bind_some]

end Term

/-! ### Sums of terms -/

/-- The nanoseconds that terms stand for together. -/
def total (terms : List Term) : Nat :=
  (terms.map Term.nanos).sum

/-- Terms with blanks between them. -/
def joined (terms : List Term) : String :=
  " ".intercalate (terms.map Term.text)

variable {term : Term} {terms : List Term}

theorem total_cons (term : Term) (terms : List Term) :
    total (term :: terms) = term.nanos + total terms := by
  rw [total, List.map_cons, List.sum_cons, total]

/-- What follows a term in a sum. -/
def afterTerm (terms : List Term) : List Char :=
  if terms = [] then [] else ' ' :: (joined terms).toList

theorem toList_joined_cons (term : Term) (terms : List Term) :
    (joined (term :: terms)).toList = term.text.toList ++ afterTerm terms := by
  cases terms with
  | nil => simp [joined, afterTerm]
  | cons next rest => simp [joined, afterTerm]

theorem ends_afterTerm (terms : List Term) : Term.Ends (afterTerm terms) := by
  unfold afterTerm
  split
  · nofun
  · intro next same
    rw [← Option.some.inj same]
    decide

/-- Blanks before a term do not matter. -/
theorem sumParts?_afterTerm (bound : Nat) (span : Span) (terms : List Term) :
    sumParts? bound span (afterTerm terms) = sumParts? bound span (joined terms).toList := by
  unfold afterTerm
  split
  · rename_i empty
    rw [empty]
    rfl
  · cases bound with
    | zero => rfl
    | succ bound =>
      have lost : trimStart (' ' :: (joined terms).toList) = trimStart (joined terms).toList :=
        List.dropWhile_cons_of_pos (by decide)
      rw [sumParts?, sumParts?, lost]

/-- The first term of a sum is read before the others. -/
theorem sumParts?_joined_cons (bounded : term.Bounded) (span : Span)
    (fits : span.nanos + term.nanos < spanLimit) (bound : Nat) :
    sumParts? (bound + 1) span (joined (term :: terms)).toList =
      sumParts? bound ⟨span.nanos + term.nanos, fits⟩ (joined terms).toList := by
  rw [toList_joined_cons, bounded.sumParts? bound span fits (ends_afterTerm terms),
    sumParts?_afterTerm]

/-- A sum is read as its total. -/
theorem sumParts?_joined (bounded : ∀ term ∈ terms, term.Bounded) (span : Span)
    (fits : span.nanos + total terms < spanLimit) {bound : Nat} (enough : terms.length < bound) :
    ∃ sum, sumParts? bound span (joined terms).toList = some sum ∧
      sum.nanos = span.nanos + total terms := by
  induction terms generalizing span bound with
  | nil =>
    obtain ⟨bound, rfl⟩ := Nat.exists_eq_add_one.mpr enough
    exact ⟨span, rfl, rfl⟩
  | cons term terms inductionHypothesis =>
    obtain ⟨bound, rfl⟩ := Nat.exists_eq_add_one.mpr (Nat.zero_lt_of_lt enough)
    rw [total_cons, ← Nat.add_assoc] at fits ⊢
    have first : span.nanos + term.nanos < spanLimit := by omega
    rw [sumParts?_joined_cons (bounded term List.mem_cons_self) span first]
    exact inductionHypothesis (fun other later => bounded other (List.mem_cons_of_mem _ later))
      ⟨span.nanos + term.nanos, first⟩ fits (Nat.lt_of_succ_lt_succ enough)

/-! ### The terms of a length of time -/

/-- The terms of a length of time, those that are zero with the others. -/
def counts (span : Span) : List Term :=
  let withinYear := span.seconds % 31557600
  let withinMonth := withinYear % 2630016
  let withinDay := withinMonth % 86400
  [⟨span.seconds / 31557600, .year⟩, ⟨withinYear / 2630016, .month⟩,
    ⟨withinMonth / 86400, .day⟩, ⟨withinDay / 3600, .hour⟩, ⟨withinDay % 3600 / 60, .minute⟩,
    ⟨withinDay % 60, .second⟩, ⟨span.subsecond / 1000000, .millisecond⟩,
    ⟨span.subsecond / 1000 % 1000, .microsecond⟩, ⟨span.subsecond % 1000, .nanosecond⟩]

/-- The terms of a length of time. -/
def summands (span : Span) : List Term :=
  span.counts.filter fun term => term.count ≠ 0

/-- What is written of terms, those that are zero being left out. -/
theorem map_text_filter (terms : List Term) :
    (terms.filter fun term => term.count ≠ 0).map Term.text =
      terms.flatMap fun term => part term.count (term.measure.written term.count) := by
  induction terms with
  | nil => rfl
  | cons term terms inductionHypothesis =>
    rw [List.flatMap_cons, ← inductionHypothesis, part]
    by_cases none : term.count = 0
    · rw [List.filter_cons_of_neg (by simpa using none), if_pos none, List.nil_append]
    · rw [List.filter_cons_of_pos (by simpa using none), if_neg none, List.map_cons]
      rfl

theorem pluralPart_eq (count : Nat) :
    pluralPart count "year" = part count (Measure.year.written count) ∧
      pluralPart count "month" = part count (Measure.month.written count) ∧
      pluralPart count "day" = part count (Measure.day.written count) :=
  ⟨rfl, rfl, rfl⟩

theorem parts_eq (span : Span) : span.parts = span.summands.map Term.text := by
  rw [summands, map_text_filter]
  simp only [counts, List.flatMap_cons, List.flatMap_nil, List.append_nil, parts,
    pluralPart_eq, List.append_assoc]
  rfl

/-- The terms of a length of time have itself for their total. -/
theorem total_counts (span : Span) : total span.counts = span.nanos := by
  have long : Measure.year.nanos = 31557600 * 1000000000 ∧
      Measure.month.nanos = 2630016 * 1000000000 ∧ Measure.day.nanos = 86400 * 1000000000 ∧
      Measure.hour.nanos = 3600 * 1000000000 ∧ Measure.minute.nanos = 60 * 1000000000 := by decide
  have short : Measure.second.nanos = 1000000000 ∧ Measure.millisecond.nanos = 1000000 ∧
      Measure.microsecond.nanos = 1000 ∧ Measure.nanosecond.nanos = 1 := by decide
  have nothing : total [] = 0 := rfl
  have seconds : span.nanos = span.seconds * nanosPerSecond + span.subsecond := by
    rw [Span.seconds, Span.subsecond, Nat.div_add_mod']
  rw [seconds, nanosPerSecond]
  simp only [counts, total_cons, nothing, Term.nanos, long, short]
  omega

theorem total_summands (span : Span) : total span.summands = span.nanos := by
  have dropped (terms : List Term) : total (terms.filter fun term => term.count ≠ 0) = total terms := by
    induction terms with
    | nil => rfl
    | cons term terms inductionHypothesis =>
      by_cases none : term.count = 0
      · have nothing : term.nanos = 0 := by rw [Term.nanos, none, Nat.zero_mul]
        rw [List.filter_cons_of_neg (by simpa using none), inductionHypothesis, total_cons, nothing,
          Nat.zero_add]
      · rw [List.filter_cons_of_pos (by simpa using none), total_cons, total_cons,
          inductionHypothesis]
  rw [summands, dropped, total_counts]

theorem nanos_le_total (member : term ∈ terms) : term.nanos ≤ total terms := by
  induction terms with
  | nil => cases member
  | cons first rest inductionHypothesis =>
    rw [total_cons]
    rcases List.mem_cons.mp member with rfl | later
    · exact Nat.le_add_right _ _
    · exact Nat.le_trans (inductionHypothesis later) (Nat.le_add_left _ _)

theorem bounded_summands (span : Span) : ∀ term ∈ span.summands, term.Bounded := by
  have below : span.subsecond < nanosPerSecond := Nat.mod_lt _ (by decide)
  have subsecond : ∀ term ∈ span.counts, term.count * term.measure.size.2 < nanosPerSecond := by
    simp only [counts, List.forall_mem_cons, Measure.size, nanosPerSecond] at below ⊢
    refine ⟨?_, ?_, ?_, ?_, ?_, ?_, ?_, ?_, ?_, nofun⟩ <;> omega
  intro term member
  have counted : term ∈ span.counts := (List.mem_filter.mp member).1
  have part : term.nanos ≤ span.nanos := total_counts span ▸ nanos_le_total counted
  exact ⟨subsecond term counted, Nat.lt_of_le_of_lt part span.bounded⟩

/-- There are no more terms than characters. -/
theorem length_le_joined (terms : List Term) : terms.length ≤ (joined terms).toList.length := by
  induction terms with
  | nil => exact Nat.zero_le _
  | cons term terms inductionHypothesis =>
    obtain ⟨digit, -, second, later, first⟩ := term.exists_first
    have after : (joined terms).toList.length ≤ (afterTerm terms).length := by
      unfold afterTerm
      split
      · rename_i empty
        rw [empty]
        rfl
      · exact Nat.le_add_right _ 1
    rw [toList_joined_cons, first, List.length_append]
    simp only [List.length_cons]
    omega

theorem eq_of_nanos {first second : Span} (same : first.nanos = second.nanos) : first = second := by
  cases first
  cases second
  cases same
  rfl

/-- A length of time is read as it was written. -/
theorem read?_text (span : Span) : read? span.text = some span := by
  by_cases none : span.nanos = 0
  · obtain rfl : span = zero := eq_of_nanos none
    decide
  · have sum := total_summands span
    have text : span.text = joined span.summands := by
      rw [Span.text, if_neg none, parts_eq, joined]
    obtain ⟨term, rest, filled⟩ := List.exists_cons_of_ne_nil
      (fun empty => none (sum.symm.trans (congrArg total empty)) : span.summands ≠ [])
    obtain ⟨digit, single, second, later, first⟩ := term.exists_first
    have begins : span.text.toList = digit.digitChar :: second :: (later ++ afterTerm rest) := by
      rw [text, filled, toList_joined_cons, first]
      rfl
    have notBare : span.text ≠ "0" := fun bare => by
      have length := congrArg List.length begins
      rw [bare, List.length_cons, List.length_cons] at length
      cases length
    have noBlank : ¬isBlank digit.digitChar := by simp [not_isBlank_digitChar digit single]
    have fits : zero.nanos + total span.summands < spanLimit := by
      rw [sum]
      exact (Nat.zero_add _).symm ▸ span.bounded
    obtain ⟨read, summed, same⟩ := sumParts?_joined (bounded_summands span) zero fits
      (Nat.lt_succ_of_le (length_le_joined span.summands))
    have returned : read = span := eq_of_nanos (by rw [same, sum]; exact Nat.zero_add _)
    have notBlank : (trimStart span.text.toList).isEmpty = false := by
      rw [begins, trimStart, List.dropWhile_cons_of_neg noBlank]
      rfl
    rw [read?, if_neg notBare]
    simp only [notBlank, Bool.false_eq_true, if_false]
    rw [text, summed, returned]

end UserDashboard.Time.Span
