/-
This file cuts text at a separator and puts the pieces together again.

Every separator ends a piece, so there is always one piece more than there are separators, and
pieces can be empty.
-/
namespace UserDashboard.Text

/-- The pieces between the separators. -/
def fields (separator : Char) : List Char → List (List Char)
  | [] => [[]]
  | c :: rest =>
    if c = separator then [] :: fields separator rest
    else
      match fields separator rest with
      | [] => [[c]]
      | first :: others => (c :: first) :: others

/-- There is always a piece. -/
theorem fields_ne_nil (separator : Char) (characters : List Char) :
    fields separator characters ≠ [] := by
  cases characters with
  | nil => simp [fields]
  | cons c rest =>
    simp only [fields]
    split
    · simp
    · split <;> simp

/-- Pieces put together with a separator between them. -/
def joined (separator : Char) : List (List Char) → List Char
  | [] => []
  | [piece] => piece
  | piece :: rest => piece ++ separator :: joined separator rest

/-- The text before the first separator and the text after it, if there is one. -/
def cutFirst? (separator : Char) : List Char → Option (List Char × List Char)
  | [] => none
  | c :: rest =>
    if c = separator then some ([], rest)
    else (cutFirst? separator rest).map fun (before, after) => (c :: before, after)

/-- A capital letter of the Latin alphabet made small. -/
def small (c : Char) : Char :=
  if 'A' ≤ c ∧ c ≤ 'Z' then Char.ofNat (c.toNat + 32) else c

/-- A text with the capital letters of the Latin alphabet made small. -/
def smallText (text : String) : String :=
  String.ofList (text.toList.map small)

end UserDashboard.Text
