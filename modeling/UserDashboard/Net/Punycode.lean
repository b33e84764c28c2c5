/-
This file writes the labels of domain names in the 37 characters that name servers know.

The ASCII characters of a label come first. The others follow in the order of their numbers, each
as the distance that the writer has to go from the one before, counted over all places of the
label. Distances are written in digits of base 36 whose thresholds adapt to the sizes seen so far,
so that neighbouring characters cost few digits.
-/

import UserDashboard.Text.Fields

namespace UserDashboard.Net.Punycode

open Text

/-! ### Digits -/

/-- The character of a digit below 36. -/
def digitChar (digit : Nat) : Char :=
  if digit < 26 then Char.ofNat (97 + digit) else Char.ofNat (22 + digit)

/-- The digit of a character. -/
def digit? (c : Char) : Option Nat :=
  let code := (small c).toNat
  if 97 ≤ code ∧ code ≤ 122 then some (code - 97)
  else if 48 ≤ code ∧ code ≤ 57 then some (code - 22)
  else none

/-- The threshold of a digit: the last digit of a distance is below its threshold. -/
def threshold (place bias : Nat) : Nat :=
  if place ≤ bias then 1 else if bias + 26 ≤ place then 26 else place - bias

theorem threshold_bounds (place bias : Nat) : 1 ≤ threshold place bias ∧ threshold place bias ≤ 26 := by
  unfold threshold
  split
  · omega
  · split <;> omega

/-- How often a distance can be divided by 35 until it is small, in steps of one place. -/
def shrink (distance place : Nat) : Nat × Nat :=
  if 455 < distance then shrink (distance / 35) (place + 36) else (distance, place)
termination_by distance

/-- The bias after a distance, for a label that is `count` characters long by then. -/
def adapt (distance count : Nat) (first : Bool) : Nat :=
  let scaled := if first then distance / 700 else distance / 2
  let (rest, place) := shrink (scaled + scaled / count) 0
  place + 36 * rest / (rest + 38)

/-! ### Writing -/

/-- A distance in digits. -/
def distanceDigits (bias place distance : Nat) : List Char :=
  let limit := threshold place bias
  if distance < limit then [digitChar distance]
  else
    digitChar (limit + (distance - limit) % (36 - limit)) ::
      distanceDigits bias (place + 36) ((distance - limit) / (36 - limit))
termination_by distance
decreasing_by
  have bounds := threshold_bounds place bias
  have shorter := Nat.div_le_self (distance - threshold place bias) (36 - threshold place bias)
  omega

/-- What has been written, and where the writer stands. -/
structure Writer where
  /-- The digits so far, the last first. -/
  written : List Char
  /-- The distance gone since the last digit. -/
  distance : Nat
  /-- The bias of the next distance. -/
  bias : Nat
  /-- The characters handled so far. -/
  handled : Nat

/-- Goes past one character of the label, while characters of number `code` are written. -/
def Writer.pass (basics code : Nat) (writer : Writer) (c : Char) : Writer :=
  if c.toNat < code then { writer with distance := writer.distance + 1 }
  else if c.toNat = code then
    { written := (distanceDigits writer.bias 36 writer.distance).reverse ++ writer.written
      distance := 0
      bias := adapt writer.distance (writer.handled + 1) (writer.handled == basics)
      handled := writer.handled + 1 }
  else writer

/-- The numbers of characters in order, without repetitions. -/
def codes (label : List Char) : List Nat :=
  ((label.map Char.toNat).mergeSort (· ≤ ·)).eraseDups

/-- A label in the alphabet of name servers. -/
def encode (label : List Char) : List Char :=
  let basics := label.filter (·.toNat < 128)
  let start : Writer := ⟨[], 0, 72, basics.length⟩
  let step := fun (state : Nat × Writer) code =>
    let (next, writer) := state
    let writer := { writer with
      distance := writer.distance + (code - next) * (writer.handled + 1) }
    let writer := label.foldl (Writer.pass basics.length code) writer
    (code + 1, { writer with distance := writer.distance + 1 })
  let (_, writer) := (codes (label.filter (128 ≤ ·.toNat))).foldl step (128, start)
  basics ++ (if basics.isEmpty then [] else ['-']) ++ writer.written.reverse

/-! ### Reading -/

/-- Reads a distance: its sum with `total` and what follows it, which is shorter. -/
def distance? (bias place weight total : Nat) :
    (digits : List Char) → Option { read : Nat × List Char // read.2.length < digits.length }
  | [] => none
  | c :: rest =>
    match digit? c with
    | none => none
    | some digit =>
      let limit := threshold place bias
      if digit < limit then some ⟨(total + digit * weight, rest), by simp⟩
      else
        (distance? bias (place + 36) (weight * (36 - limit)) (total + digit * weight) rest).map
          fun read => ⟨read.1, by have shorter := read.2; simp only [List.length_cons]; omega⟩

/-- Reads the characters after the ASCII ones into their places. -/
def place? (bias code index : Nat) (label : List Char) (digits : List Char) :
    Option (List Char) :=
  match digits with
  | [] => some label
  | c :: rest =>
    match distance? bias 36 1 index (c :: rest) with
    | none => none
    | some ⟨(total, after), _⟩ =>
      let count := label.length + 1
      let code := code + total / count
      if code.isValidChar then
        place? (adapt (total - index) count (index == 0)) code (total % count + 1)
          (label.insertIdx (total % count) (Char.ofNat code)) after
      else none
termination_by digits.length
decreasing_by assumption

/-- The label that is written so. -/
def decode? (written : List Char) : Option (List Char) :=
  let digits := (written.reverse.takeWhile (· ≠ '-')).reverse
  let basics := written.take (written.length - digits.length - 1)
  if basics.all (·.toNat < 128) then place? 72 128 0 basics digits else none

end UserDashboard.Net.Punycode
