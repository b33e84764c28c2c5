/-
This file proves that digits are read as the number they were written for.

A number written in a fixed width is the row of its lowest digits. The row is taken apart at its
end, where one digit comes off for each step of the width, and put together at its beginning,
where a reader starts.
-/

import Mathlib.Algebra.Order.Ring.Nat
import Mathlib.Data.List.Induction
import UserDashboard.Number.Integer

namespace UserDashboard.Number

variable {width value : Nat} {row : List Nat}

theorem digit?_digitChar : ∀ value < 10, digit? (Nat.digitChar value) = some value := by
  decide

theorem digit?_lt {c : Char} {value : Nat} (read : digit? c = some value) : value < 10 := by
  unfold digit? at read
  split at read
  next digit =>
    obtain ⟨-, high⟩ := (Bool.and_eq_true _ _).mp digit
    have high : c.toNat ≤ '9'.toNat := of_decide_eq_true high
    cases read
    simp only [Char.reduceToNat] at high ⊢
    omega
  next => cases read

/-! ### Rows of digits -/

theorem ofDigits_append_singleton (row : List Nat) (digit : Nat) :
    ofDigits (row ++ [digit]) = ofDigits row * 10 + digit := by
  rw [ofDigits, List.foldl_append]
  rfl

/-- A row of digits says a number below the power of ten that its length stands for. -/
theorem ofDigits_lt (digits : ∀ digit ∈ row, digit < 10) : ofDigits row < 10 ^ row.length := by
  induction row using List.reverseRecOn with
  | nil => exact Nat.one_pos
  | append_singleton row digit inductionHypothesis =>
    have rest := inductionHypothesis fun digit member => digits digit (by simp [member])
    have last := digits digit (by simp)
    rw [ofDigits_append_singleton, List.length_append, List.length_singleton, Nat.pow_succ]
    omega

/-- The row of the lowest digits of a number. -/
def decimals : Nat → Nat → List Nat
  | 0, _ => []
  | width + 1, value => decimals width (value / 10) ++ [value % 10]

theorem length_decimals (width value : Nat) : (decimals width value).length = width := by
  induction width generalizing value with
  | zero => rfl
  | succ width inductionHypothesis =>
    rw [decimals, List.length_append, inductionHypothesis, List.length_singleton]

theorem lt_ten_of_mem_decimals {digit : Nat} (member : digit ∈ decimals width value) :
    digit < 10 := by
  induction width generalizing value with
  | zero => cases member
  | succ width inductionHypothesis =>
    rcases List.mem_append.mp member with earlier | last
    · exact inductionHypothesis earlier
    · rw [List.mem_singleton.mp last]
      exact Nat.mod_lt _ (by decide)

theorem ofDigits_decimals (small : value < 10 ^ width) :
    ofDigits (decimals width value) = value := by
  induction width generalizing value with
  | zero => exact (Nat.lt_one_iff.mp small).symm
  | succ width inductionHypothesis =>
    rw [Nat.pow_succ] at small
    rw [decimals, ofDigits_append_singleton, inductionHypothesis (by omega)]
    omega

/-- A number in a fixed width is written as the row of its lowest digits. -/
theorem padded_eq_decimals (small : value < 10 ^ (width + 1)) :
    padded (width + 1) value = (decimals (width + 1) value).map Nat.digitChar := by
  induction width generalizing value with
  | zero =>
    have single : value < 10 := small
    rw [padded, digits, Nat.toDigits_of_lt_base single, decimals, Nat.mod_eq_of_lt single]
    rfl
  | succ width inductionHypothesis =>
    have rest : value / 10 < 10 ^ (width + 1) := by
      rw [Nat.pow_succ] at small
      omega
    rw [decimals, List.map_append, ← inductionHypothesis rest, padded, padded, digits, digits]
    by_cases single : value < 10
    · rw [Nat.toDigits_of_lt_base single, Nat.div_eq_of_lt single, Nat.mod_eq_of_lt single]
      simp [List.replicate_succ']
    · rw [Nat.toDigits_of_base_le (by decide) (by omega)]
      simp

theorem mapM_digit?_map (small : ∀ digit ∈ row, digit < 10) :
    (row.map Nat.digitChar).mapM digit? = some row := by
  induction row with
  | nil => rfl
  | cons digit row inductionHypothesis =>
    rw [List.map_cons, List.mapM_cons, digit?_digitChar digit (small digit (by simp)),
      inductionHypothesis fun digit member => small digit (by simp [member])]
    rfl

theorem readNat?_padded (positive : 0 < width) (small : value < 10 ^ width) :
    readNat? (padded width value) = some value := by
  obtain ⟨width, rfl⟩ := Nat.exists_eq_add_one.mpr positive
  have filled : ((decimals (width + 1) value).map Nat.digitChar).isEmpty = false := by
    simp [decimals]
  rw [padded_eq_decimals small, readNat?, filled, if_neg Bool.false_ne_true,
    mapM_digit?_map fun _ => lt_ten_of_mem_decimals, Option.map_some, ofDigits_decimals small]

theorem length_padded (positive : 0 < width) (small : value < 10 ^ width) :
    (padded width value).length = width := by
  obtain ⟨width, rfl⟩ := Nat.exists_eq_add_one.mpr positive
  rw [padded_eq_decimals small, List.length_map, length_decimals]

theorem mapM_digit?_eq_some {characters : List Char} (read : characters.mapM digit? = some row) :
    row.length = characters.length ∧ ∀ digit ∈ row, digit < 10 := by
  induction characters generalizing row with
  | nil =>
    cases read
    exact ⟨rfl, by simp⟩
  | cons c characters inductionHypothesis =>
    rw [List.mapM_cons] at read
    obtain ⟨digit, first, rest⟩ := Option.bind_eq_some_iff.mp read
    obtain ⟨others, readOthers, same⟩ := Option.bind_eq_some_iff.mp rest
    cases same
    obtain ⟨sameLength, small⟩ := inductionHypothesis readOthers
    refine ⟨by simp [sameLength], ?_⟩
    simpa using ⟨digit?_lt first, small⟩

theorem readNat?_lt {characters : List Char} (read : readNat? characters = some value) :
    value < 10 ^ characters.length := by
  unfold readNat? at read
  split at read
  · cases read
  · obtain ⟨row, readRow, rfl⟩ := Option.map_eq_some_iff.mp read
    obtain ⟨sameLength, small⟩ := mapM_digit?_eq_some readRow
    rw [← sameLength]
    exact ofDigits_lt small

end UserDashboard.Number
