/-
This file adds the entries of a file to the variables of the environment.

An entry is a name, an equals sign and a value. It takes a line, or several if a quotation is open
where a line ends. A value can hold quotations, escaped characters and the values of other
variables. What the environment says goes before what the file says, and entries after the first
one that cannot be read do not count.
-/

import UserDashboard.Text.Blank

namespace UserDashboard.Settings.EnvironmentFile

open Text

/-! ### Where entries end -/

/-- What is open at some place of an entry. -/
inductive Opening where
  /-- Nothing. -/
  | nothing
  /-- A remark can begin here. -/
  | blank
  /-- A character is escaped. -/
  | escape
  /-- A quotation in single marks. -/
  | single
  /-- A quotation in single marks, in which a character is escaped. -/
  | singleEscape
  /-- A quotation in double marks. -/
  | double
  /-- A quotation in double marks, in which a character is escaped. -/
  | doubleEscape
  deriving DecidableEq

/-- What is open after a character that stands outside of quotations. -/
def Opening.outside : Char → Opening
  | '\\' => .escape
  | '"' => .double
  | '\'' => .single
  | _ => .nothing

/-- What is open after a character, unless it begins a remark. Only the first of several blanks
can have a remark after it. -/
def Opening.after? : Opening → Char → Option Opening
  | .blank, '#' => none
  | .blank, c => some (outside c)
  | .nothing, c =>
    some (if isBlank c ∧ c ≠ '\n' ∧ c ≠ '\r' then .blank else outside c)
  | .escape, _ => some .nothing
  | .single, '\\' => some .singleEscape
  | .single, '\'' => some .nothing
  | .single, _ => some .single
  | .singleEscape, _ => some .single
  | .double, '\\' => some .doubleEscape
  | .double, '"' => some .nothing
  | .double, _ => some .double
  | .doubleEscape, _ => some .double

/-- A line up to a remark, with what is open at its end if there is none. -/
def scan (opening : Opening) : List Char → List Char × Option Opening
  | [] => ([], some opening)
  | c :: rest =>
    match opening.after? c with
    | none => ([], none)
    | some next =>
      let (before, last) := scan next rest
      (c :: before, last)

/-- The lines of a text, each with the break that ends it. -/
def lines : List Char → List (List Char)
  | [] => []
  | c :: rest =>
    if c = '\n' then [c] :: lines rest
    else
      match lines rest with
      | [] => [[c]]
      | line :: others => (c :: line) :: others

/-- The entries that lines make up, in front of which some characters of an entry stand already.
The last is nothing if the lines end while something is open. -/
def entries (begun : List Char) (opening : Opening) : List (List Char) → List (Option (List Char))
  | [] => if opening = .nothing then [] else [none]
  | line :: rest =>
    let all := begun ++ line
    if (trimStart all).head? = some '#' then some [] :: entries [] .nothing rest
    else
      match scan opening line with
      | (before, none) => some (begun ++ before) :: entries [] .nothing rest
      | (_, some .nothing) => some all :: entries [] .nothing rest
      | (_, some still) => entries all still rest

/-! ### Values -/

/-- What is being read at some place of a value. -/
inductive Reading where
  /-- The value itself. -/
  | plain
  /-- A quotation in single marks, in which nothing has a meaning of its own. -/
  | single
  /-- A quotation in double marks. -/
  | double
  /-- A character that was escaped, perhaps in double marks. -/
  | escape (quoted : Bool)
  /-- The name of a variable, perhaps in double marks. -/
  | name (begun : List Char) (quoted : Bool)
  /-- The name of a variable in braces, perhaps in double marks. -/
  | braced (begun : List Char) (quoted : Bool)
  /-- What follows the value. -/
  | done

/-- What is read on after something in double marks or outside of them. -/
def Reading.back (quoted : Bool) : Reading :=
  if quoted then .double else .plain

/-- The characters that a name in a value goes on with. Beyond ASCII it is whatever is not blank. -/
def isNameCharacter (c : Char) : Bool :=
  c.isAlphanum || (0x80 ≤ c.toNat && !isBlank c)

/-- What an escaped character stands for. -/
def escaped? : Char → Option Char
  | '\\' => some '\\'
  | '\'' => some '\''
  | '"' => some '"'
  | '$' => some '$'
  | ' ' => some ' '
  | 'n' => some '\n'
  | _ => none

/-- The value of a variable, which is empty if there is none. -/
def valueOf (environment : List (String × String)) (name : List Char) : List Char :=
  ((environment.lookup (String.ofList name.reverse)).getD "").toList

/-- Reads a value, with the values of variables in it. The character that ends a name outside of
braces belongs to the value as it is. -/
def value? (environment : List (String × String)) (reading : Reading) :
    List Char → Option (List Char)
  | [] =>
    match reading with
    | .plain | .escape false | .done => some []
    | .name begun false => some (valueOf environment begun)
    | _ => none
  | c :: rest =>
    match reading with
    | .plain =>
      match c with
      | '$' => value? environment (.name [] false) rest
      | '\'' => value? environment .single rest
      | '"' => value? environment .double rest
      | '\\' => value? environment (.escape false) rest
      | ' ' | '\t' => value? environment .done rest
      | c => (value? environment .plain rest).map (c :: ·)
    | .single =>
      if c = '\'' then value? environment .plain rest
      else (value? environment .single rest).map (c :: ·)
    | .double =>
      match c with
      | '$' => value? environment (.name [] true) rest
      | '"' => value? environment .plain rest
      | '\\' => value? environment (.escape true) rest
      | c => (value? environment .double rest).map (c :: ·)
    | .escape quoted =>
      match escaped? c with
      | some meant => (value? environment (.back quoted) rest).map (meant :: ·)
      | none => none
    | .name begun quoted =>
      if isNameCharacter c then value? environment (.name (c :: begun) quoted) rest
      else if c = '{' ∧ begun = [] then value? environment (.braced [] quoted) rest
      else if c = '$' then
        (value? environment (.name [] quoted) rest).map (valueOf environment begun ++ ·)
      else (value? environment (.back quoted) rest).map (valueOf environment begun ++ c :: ·)
    | .braced begun quoted =>
      if c = '}' then
        (value? environment (.back quoted) rest).map (valueOf environment begun ++ ·)
      else value? environment (.braced (c :: begun) quoted) rest
    | .done =>
      match c with
      | ' ' | '\t' => value? environment .done rest
      | '#' => some []
      | _ => none

/-! ### Entries -/

/-- A name at the beginning and what follows it. -/
def name? (characters : List Char) : Option (List Char × List Char) :=
  match characters with
  | c :: _ =>
    if c.isAlpha ∨ c = '_' then
      some (characters.span fun c => c.isAlphanum || c == '_' || c == '.')
    else none
  | [] => none

/-- What follows an equals sign, with blanks around it. -/
def afterEquals? (characters : List Char) : Option (List Char) :=
  match trimStart characters with
  | '=' :: rest => some (trimStart rest)
  | _ => none

/-- Reads a name and what follows its equals sign. The word `export` may stand before the name. -/
def assignment? (characters : List Char) : Option (List Char × List Char) := do
  let (name, rest) ← name? characters
  match afterEquals? rest with
  | some value => some (name, value)
  | none =>
    if name = "export".toList then
      let (name, rest) ← name? (trimStart rest)
      some (name, ← afterEquals? rest)
    else none

/-- Reads an entry, which may hold nothing. -/
def content? (environment : List (String × String)) (characters : List Char) :
    Option (Option (String × String)) :=
  match trim characters with
  | [] | '#' :: _ => some none
  | characters => do
    let (name, rest) ← assignment? characters
    let value ← match rest with
      | [] | '#' :: _ => some []
      | rest => value? environment .plain rest
    some (some (String.ofList name, String.ofList value))

/-- Adds entries to some variables, up to one that cannot be read, and tells whether all of them
could be. -/
def add (environment : List (String × String)) :
    List (Option (List Char)) → List (String × String) × Bool
  | [] => (environment, true)
  | characters :: rest =>
    match characters.bind (content? environment) with
    | none => (environment, false)
    | some none => add environment rest
    | some (some (name, value)) =>
      if (environment.lookup name).isSome then add environment rest
      else add (environment ++ [(name, value)]) rest

/-- Adds the entries of a file to some variables. A mark of the order of octets in front of the
entries is skipped. -/
def extend (environment : List (String × String)) (text : String) : List (String × String) × Bool :=
  let characters := match text.toList with
    | '\uFEFF' :: rest => rest
    | characters => characters
  add environment (entries [] .nothing (lines characters))

end UserDashboard.Settings.EnvironmentFile
