/-
This file says what trimming leaves of a text.

Blanks around a text are lost, and nothing else is. A text that begins and ends with something that
is no blank is left as it is, so every text stands between blanks around what trimming leaves of it.
-/

import UserDashboard.Text.Blank

namespace UserDashboard.Text

/-- Whether there is nothing but blanks in a text. -/
def IsBlanks (text : List Char) : Prop :=
  ∀ c ∈ text, isBlank c

instance (text : List Char) : Decidable (IsBlanks text) :=
  decidable_of_iff (text.all isBlank) List.all_eq_true

/-- Whether a text neither begins nor ends with a blank. -/
structure IsTrimmed (text : List Char) : Prop where
  first : ∀ c ∈ text.head?, ¬isBlank c
  last : ∀ c ∈ text.getLast?, ¬isBlank c

variable {text before after others : List Char}

theorem IsBlanks.reverse (blanks : IsBlanks text) : IsBlanks text.reverse :=
  fun c member => blanks c (List.mem_reverse.mp member)

theorem isBlanks_nil : IsBlanks [] :=
  nofun

/-! ### Blanks on one side -/

theorem trimStart_append_of_blanks (blanks : IsBlanks before) :
    trimStart (before ++ text) = trimStart text :=
  List.dropWhile_append_of_pos blanks

theorem trimEnd_append_of_blanks (blanks : IsBlanks after) :
    trimEnd (text ++ after) = trimEnd text := by
  rw [trimEnd, trimEnd, List.reverse_append, List.dropWhile_append_of_pos blanks.reverse]

theorem trimStart_of_blanks (blanks : IsBlanks text) : trimStart text = [] := by
  have all : trimStart (text ++ []) = trimStart [] := trimStart_append_of_blanks blanks
  rwa [List.append_nil] at all

/-- A text that begins with something that is no blank keeps its beginning. -/
theorem trimStart_eq_self (first : ∀ c ∈ text.head?, ¬isBlank c) : trimStart text = text := by
  cases text with
  | nil => rfl
  | cons c rest => exact List.dropWhile_cons_of_neg (first c rfl)

theorem trimEnd_eq_self (last : ∀ c ∈ text.getLast?, ¬isBlank c) : trimEnd text = text := by
  have backwards : trimStart text.reverse = text.reverse := by
    refine trimStart_eq_self fun c first => last c ?_
    rwa [List.head?_reverse] at first
  rw [trimEnd, ← trimStart, backwards, List.reverse_reverse]

/-- What was lost before a text are blanks, and what is left does not begin with one. -/
theorem exists_trimStart (text : List Char) :
    ∃ before, IsBlanks before ∧ text = before ++ trimStart text ∧
      ∀ c ∈ (trimStart text).head?, ¬isBlank c := by
  refine ⟨text.takeWhile isBlank, fun c lost => ?_, List.takeWhile_append_dropWhile.symm, ?_⟩
  · exact List.all_eq_true.mp List.all_takeWhile c lost
  · intro c first
    have kept := List.head?_dropWhile_not isBlank text
    rw [← trimStart, first] at kept
    simpa using kept

/-! ### Blanks on both sides -/

theorem trim_eq_self (trimmed : IsTrimmed text) : trim text = text := by
  rw [trim, trimStart_eq_self trimmed.first, trimEnd_eq_self trimmed.last]

/-- Every text is what trimming leaves of it with blanks around. -/
theorem exists_trim (text : List Char) :
    ∃ before after, IsBlanks before ∧ IsBlanks after ∧ text = before ++ trim text ++ after ∧
      IsTrimmed (trim text) := by
  obtain ⟨before, blanksBefore, cut, first⟩ := exists_trimStart text
  obtain ⟨lost, blanksLost, cutEnd, last⟩ := exists_trimStart (trimStart text).reverse
  have kept : trimStart text = trim text ++ lost.reverse := by
    rw [trim, trimEnd, ← trimStart, ← List.reverse_append, ← cutEnd, List.reverse_reverse]
  refine ⟨before, lost.reverse, blanksBefore, blanksLost.reverse, ?_, ?_, ?_⟩
  · rw [List.append_assoc, ← kept]
    exact cut
  · intro c begins
    refine first c ?_
    rw [kept, List.head?_append, begins]
    rfl
  · intro c ends
    refine last c ?_
    rw [trim, trimEnd, ← trimStart, List.getLast?_reverse] at ends
    exact ends

/-- Blanks around a text are lost. -/
theorem trim_append (blanksBefore : IsBlanks before) (blanksAfter : IsBlanks after)
    (text : List Char) : trim (before ++ text ++ after) = trim text := by
  obtain ⟨first, last, blanksFirst, blanksLast, cut, trimmed⟩ := exists_trim text
  have around : before ++ text ++ after = before ++ first ++ (trim text ++ (last ++ after)) := by
    conv => lhs; rw [cut]
    simp only [List.append_assoc]
  have blanksOut : IsBlanks (before ++ first) :=
    List.forall_mem_append.mpr ⟨blanksBefore, blanksFirst⟩
  have blanksEnd : IsBlanks (last ++ after) :=
    List.forall_mem_append.mpr ⟨blanksLast, blanksAfter⟩
  rw [around, trim, trimStart_append_of_blanks blanksOut]
  cases left : trim text with
  | nil => rw [List.nil_append, trimStart_of_blanks blanksEnd]; rfl
  | cons c rest =>
    rw [left] at trimmed
    have begins : trimStart (c :: rest ++ (last ++ after)) = c :: rest ++ (last ++ after) :=
      trimStart_eq_self fun other same => trimmed.first other same
    rw [begins, trimEnd_append_of_blanks blanksEnd, trimEnd_eq_self trimmed.last]

theorem trim_of_blanks (blanks : IsBlanks text) : trim text = [] := by
  have all := trim_append blanks isBlanks_nil []
  rw [List.append_nil, List.append_nil] at all
  exact all

theorem isTrimmed_iff : IsTrimmed text ↔ trim text = text := by
  refine ⟨trim_eq_self, fun same => ?_⟩
  obtain ⟨-, -, -, -, -, trimmed⟩ := exists_trim text
  rwa [same] at trimmed

/-- Of two texts, the first of which has a beginning and the second an end, what stands between is
kept. -/
theorem IsTrimmed.append (first : IsTrimmed text) (filled : text ≠ []) (between : List Char)
    (last : IsTrimmed others) (ended : others ≠ []) : IsTrimmed (text ++ between ++ others) where
  first c begins := by
    obtain ⟨head, rest, rfl⟩ := List.exists_cons_of_ne_nil filled
    exact first.first c begins
  last c ends := by
    rw [List.getLast?_append] at ends
    rw [List.getLast?_eq_some_getLast ended, Option.some_or] at ends
    exact last.last c ((List.getLast?_eq_some_getLast ended).trans ends)

end UserDashboard.Text
