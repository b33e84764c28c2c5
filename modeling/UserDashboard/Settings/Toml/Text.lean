/-
This file reads the names and texts of a settings file.

A text stands between quotes, or between three of them when it goes over several lines. Between
double quotes a backslash begins an escape, between single ones it means itself. A line break
right after three opening quotes is not part of the text, and one or two quotes may stand right
before three closing ones. A name is a text on one line or a word of letters, digits, hyphens and
underscores.
-/

import UserDashboard.Number.Integer

namespace UserDashboard.Settings.Toml

open Number

/-! ### Blanks and comments -/

/-- Whether a character is a blank inside a line. -/
def isBlank (c : Char) : Bool :=
  c = ' ' || c = '\t'

/-- The characters after the blanks. -/
def skipBlanks (characters : List Char) : List Char :=
  characters.dropWhile isBlank

/-- Whether a character may not stand in a file except as part of a line break. -/
def isControl (c : Char) : Bool :=
  (c.toNat < 32 && c ≠ '\t') || c.toNat = 127

/-- What follows a line break. -/
def afterLine? : List Char → Option (List Char)
  | '\n' :: rest => some rest
  | '\r' :: '\n' :: rest => some rest
  | _ => none

/-- The rest of a line that is a comment up to its end, from the line break on. -/
def skipCommentText? : List Char → Option (List Char)
  | [] => some []
  | c :: rest =>
    if (afterLine? (c :: rest)).isSome then some (c :: rest)
    else if isControl c then none
    else skipCommentText? rest

/-- The characters after blanks and a comment. -/
def skipComment? (characters : List Char) : Option (List Char) :=
  match skipBlanks characters with
  | '#' :: rest => skipCommentText? rest
  | rest => some rest

/-- The characters after the rest of a line that holds nothing more. -/
def endLine? (characters : List Char) : Option (List Char) := do
  match ← skipComment? characters with
  | [] => some []
  | rest => afterLine? rest

/-! ### Texts -/

/-- The character of a number. -/
def character? (code : Nat) : Option Char :=
  if code.isValidChar then some (Char.ofNat code) else none

/-- The character of a number in hexadecimal digits. -/
def coded? (count : Nat) (characters : List Char) : Option (Char × List Char) := do
  let values ← (characters.take count).mapM hexDigit?
  if values.length = count then
    some (← character? (ofHexDigits values), characters.drop count)
  else none

/-- The character of an escape, whose backslash has been read, and what follows it. -/
def escape? : List Char → Option (Char × List Char)
  | 'b' :: rest => some ('\x08', rest)
  | 't' :: rest => some ('\t', rest)
  | 'n' :: rest => some ('\n', rest)
  | 'f' :: rest => some ('\x0c', rest)
  | 'r' :: rest => some ('\r', rest)
  | '"' :: rest => some ('"', rest)
  | '\\' :: rest => some ('\\', rest)
  | 'u' :: rest => coded? 4 rest
  | 'U' :: rest => coded? 8 rest
  | _ => none

/-- A text up to its closing quote. The bound is on the number of its characters. -/
def line? (quote : Char) : Nat → List Char → Option (List Char × List Char)
  | 0, _ => none
  | _, [] => none
  | bound + 1, c :: rest =>
    if c = quote then some ([], rest)
    else if isControl c then none
    else if c = '\\' ∧ quote = '"' then do
      let (escaped, rest) ← escape? rest
      let (text, rest) ← line? quote bound rest
      some (escaped :: text, rest)
    else do
      let (text, rest) ← line? quote bound rest
      some (c :: text, rest)

/-- Whether a character is a blank or belongs to a line break. -/
def isGap (c : Char) : Bool :=
  isBlank c || c = '\n' || c = '\r'

/-- A text over several lines up to its three closing quotes. The bound is on the number of its
characters. -/
def lines? (quote : Char) : Nat → List Char → Option (List Char × List Char)
  | 0, _ => none
  | _, [] => none
  | bound + 1, c :: rest =>
    if [quote, quote, quote].isPrefixOf (c :: rest) then
      let count := min 5 ((c :: rest).takeWhile (· = quote)).length
      some (List.replicate (count - 3) quote, (c :: rest).drop count)
    else
      match afterLine? (c :: rest) with
      | some rest => do
        let (text, rest) ← lines? quote bound rest
        some ('\n' :: text, rest)
      | none =>
        if isControl c then none
        else if c = '\\' ∧ quote = '"' then
          if (afterLine? (skipBlanks rest)).isSome then lines? quote bound (rest.dropWhile isGap)
          else do
            let (escaped, rest) ← escape? rest
            let (text, rest) ← lines? quote bound rest
            some (escaped :: text, rest)
        else do
          let (text, rest) ← lines? quote bound rest
          some (c :: text, rest)

/-- A text that begins with a quote. -/
def text? (characters : List Char) : Option (List Char × List Char) :=
  match characters with
  | a :: rest =>
    if a = '"' ∨ a = '\'' then
      if [a, a, a].isPrefixOf characters then
        let inside := characters.drop 3
        let inside := (afterLine? inside).getD inside
        lines? a (inside.length + 1) inside
      else line? a (rest.length + 1) rest
    else none
  | [] => none

/-! ### Names -/

/-- Whether a character may stand in a name without quotes. -/
def isWordCharacter (c : Char) : Bool :=
  ('a' ≤ c && c ≤ 'z') || ('A' ≤ c && c ≤ 'Z') || ('0' ≤ c && c ≤ '9') || c = '_' || c = '-'

/-- A name. -/
def name? (characters : List Char) : Option (String × List Char) :=
  match characters with
  | c :: rest =>
    if c = '"' ∨ c = '\'' then do
      let (name, rest) ← line? c (rest.length + 1) rest
      some (String.ofList name, rest)
    else
      let word := characters.takeWhile isWordCharacter
      if word.isEmpty then none
      else some (String.ofList word, characters.dropWhile isWordCharacter)
  | [] => none

/-- Names with points between them, and blanks around the points. The bound is on their number. -/
def names? : Nat → List Char → Option (List String × List Char)
  | 0, _ => none
  | bound + 1, characters => do
    let (name, rest) ← name? characters
    match skipBlanks rest with
    | '.' :: rest =>
      let (names, rest) ← names? bound (skipBlanks rest)
      some (name :: names, rest)
    | rest => some ([name], rest)

end UserDashboard.Settings.Toml
