/-
This file says which characters count as blank and how text is trimmed.

Identifiers, credentials and bearer schemes are all read after trimming, and they arrive from
people and from other services, so the class is Unicode's `White_Space` property and not the
four ASCII blanks. Two characters that look blank are deliberately outside it: the zero-width
space U+200B and the byte-order mark U+FEFF carry no `White_Space` property.
-/
namespace UserDashboard.Text

/-- Unicode's `White_Space` property. -/
def isBlank (c : Char) : Bool :=
  let code := c.toNat
  (0x09 ≤ code && code ≤ 0x0D) || code == 0x20 || code == 0x85 || code == 0xA0 ||
    code == 0x1680 || (0x2000 ≤ code && code ≤ 0x200A) || code == 0x2028 || code == 0x2029 ||
    code == 0x202F || code == 0x205F || code == 0x3000

/-- The characters without the blanks before them. -/
def trimStart (characters : List Char) : List Char :=
  characters.dropWhile isBlank

/-- The characters without the blanks after them. -/
def trimEnd (characters : List Char) : List Char :=
  (characters.reverse.dropWhile isBlank).reverse

/-- The characters without the blanks on either side. -/
def trim (characters : List Char) : List Char :=
  trimEnd (trimStart characters)

/-- A text without the blanks on either side. -/
def trimText (text : String) : String :=
  String.ofList (trim text.toList)

/-- What is left of a text after a given beginning, or nothing if it begins otherwise. -/
def afterBeginning? : List Char → List Char → Option (List Char)
  | [], characters => some characters
  | _ :: _, [] => none
  | expected :: beginning, c :: rest => if c = expected then afterBeginning? beginning rest else none

/-- A text is cut after `beginning` exactly when it starts with it. -/
theorem afterBeginning?_eq_some_iff {beginning characters rest : List Char} :
    afterBeginning? beginning characters = some rest ↔ characters = beginning ++ rest := by
  induction beginning generalizing characters with
  | nil => simp [afterBeginning?]
  | cons expected beginning ih =>
    cases characters with
    | nil => simp [afterBeginning?]
    | cons c characters =>
      by_cases same : c = expected
      · simp [afterBeginning?, same, ih]
      · simp [afterBeginning?, same]

end UserDashboard.Text
