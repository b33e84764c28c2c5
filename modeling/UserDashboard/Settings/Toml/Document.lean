/-
This file reads a settings file as a table of values.

A file is a sequence of lines that each give a value to a member or open a table. A table may be
opened once, and only if it was not made by giving values to members inside it; a member may be
given a value once; a table written in one line is complete. Tables that are only on the way to
others may still be opened. A list of tables grows by one each time it is opened, and the newest
of its tables is the one that is meant.
-/

import UserDashboard.Settings.Toml.Scalar
import UserDashboard.Settings.Toml.Text

namespace UserDashboard.Settings.Toml

/-! ### Tables while they grow -/

/-- How a table came about. -/
inductive Origin where
  /-- It is on the way to a table that was opened. -/
  | passed
  /-- It is on the way to a member that was given a value. -/
  | dotted
  /-- It was opened itself. -/
  | opened
  deriving DecidableEq

/-- What a name stands for while a file is read. -/
inductive Node where
  /-- A value that is complete. -/
  | value (value : Value)
  /-- A table. -/
  | table (origin : Origin) (members : List (String × Node))
  /-- A list of tables, the newest first. -/
  | tables (newest : List (List (String × Node)))

/-- What a name stands for in a table. -/
def find? (name : String) : List (String × Node) → Option Node
  | [] => none
  | (other, node) :: rest => if other = name then some node else find? name rest

/-- A table in which a name stands for something else than before. -/
def put (name : String) (node : Node) : List (String × Node) → List (String × Node)
  | [] => [(name, node)]
  | (other, kept) :: rest =>
    if other = name then (name, node) :: rest else (other, kept) :: put name node rest

/-- Gives a value to a member, which has none yet. Tables on the way must not have been opened, and
the last of them must have come about in the same manner. -/
def give? (value : Value) (inside : Bool) (origin : Origin) :
    List String → List (String × Node) → Option (List (String × Node))
  | [], _ => none
  | [name], members =>
    if (inside ∧ origin ≠ .dotted) ∨ (find? name members).isSome then none
    else some (put name (.value value) members)
  | name :: path, members =>
    match find? name members with
    | none => (give? value true .dotted path []).map fun inner =>
        put name (.table .dotted inner) members
    | some (.table .opened _) => none
    | some (.table origin inner) => (give? value true origin path inner).map fun inner =>
        put name (.table origin inner) members
    | some (.tables (newest :: older)) => (give? value true .opened path newest).map fun newest =>
        put name (.tables (newest :: older)) members
    | some _ => none

/-- Changes the table that a path leads to, making those on the way that are missing. -/
def within? (change : List (String × Node) → Option (List (String × Node))) :
    List String → List (String × Node) → Option (List (String × Node))
  | [], members => change members
  | name :: path, members =>
    match find? name members with
    | none => (within? change path []).map fun inner => put name (.table .passed inner) members
    | some (.table origin inner) => (within? change path inner).map fun inner =>
        put name (.table origin inner) members
    | some (.tables (newest :: older)) => (within? change path newest).map fun newest =>
        put name (.tables (newest :: older)) members
    | some _ => none

/-- Opens a table that was not opened before. -/
def openTable? (name : String) (members : List (String × Node)) : Option (List (String × Node)) :=
  match find? name members with
  | none => some (put name (.table .opened []) members)
  | some (.table .passed inner) => some (put name (.table .opened inner) members)
  | some _ => none

/-- Opens one more table of a list. -/
def openItem? (name : String) (members : List (String × Node)) : Option (List (String × Node)) :=
  match find? name members with
  | none => some (put name (.tables [[]]) members)
  | some (.tables tables) => some (put name (.tables ([] :: tables)) members)
  | some _ => none

mutual

/-- The value that a name stands for at the end. -/
def Node.toValue : Node → Value
  | .value value => value
  | .table _ members => .table (membersToValues members)
  | .tables newest => .list (tablesToValues newest).reverse

/-- The values that names stand for at the end. -/
def membersToValues : List (String × Node) → List (String × Value)
  | [] => []
  | (name, node) :: rest => (name, node.toValue) :: membersToValues rest

/-- The tables of a list at the end. -/
def tablesToValues : List (List (String × Node)) → List Value
  | [] => []
  | members :: rest => .table (membersToValues members) :: tablesToValues rest

end

/-! ### Values -/

/-- The characters after blanks, line breaks and comments. The bound is on the number of lines. -/
def skipLines? : Nat → List Char → Option (List Char)
  | 0, _ => none
  | bound + 1, characters => do
    let rest ← skipComment? characters
    match afterLine? rest with
    | some rest => skipLines? bound rest
    | none => some rest

mutual

/-- A value and what follows it. The bound is on the number of parts it is made of. -/
def value? : Nat → List Char → Option (Value × List Char)
  | 0, _ => none
  | bound + 1, characters =>
    match characters with
    | '[' :: rest => do
      let (items, rest) ← items? bound rest
      some (.list items, rest)
    | c :: rest =>
      if c = '"' ∨ c = '\'' then do
        let (text, rest) ← text? (c :: rest)
        some (.text (String.ofList text), rest)
      else if c.toNat = 0x7B then
        match skipBlanks rest with
        | closing :: after =>
          if closing.toNat = 0x7D then some (.table [], after)
          else do
            let (members, rest) ← inline? bound [] (closing :: after)
            some (.table (membersToValues members), rest)
        | [] => none
      else scalar? (c :: rest)
    | [] => none

/-- The items of a list up to its closing bracket. -/
def items? : Nat → List Char → Option (List Value × List Char)
  | 0, _ => none
  | bound + 1, characters => do
    match ← skipLines? (characters.length + 1) characters with
    | ']' :: rest => some ([], rest)
    | rest =>
      let (item, rest) ← value? bound rest
      match ← skipLines? (rest.length + 1) rest with
      | ',' :: rest =>
        let (items, rest) ← items? bound rest
        some (item :: items, rest)
      | ']' :: rest => some ([item], rest)
      | _ => none

/-- The members of a table in one line up to its closing brace. -/
def inline? : Nat → List (String × Node) → List Char → Option (List (String × Node) × List Char)
  | 0, _, _ => none
  | bound + 1, members, characters => do
    let (names, rest) ← names? (characters.length + 1) (skipBlanks characters)
    match rest with
    | '=' :: rest =>
      let (value, rest) ← value? bound (skipBlanks rest)
      let members ← give? value false .opened names members
      match skipBlanks rest with
      | ',' :: rest => inline? bound members rest
      | closing :: rest => if closing.toNat = 0x7D then some (members, rest) else none
      | [] => none
    | _ => none

end

/-! ### Files -/

/-- A header: the path of the table that it opens, whether that is one of a list, and the rest of
its line. -/
def header? (characters : List Char) : Option (List String × Bool × List Char) := do
  let (isItem, rest) := match characters with
    | '[' :: rest => (true, rest)
    | rest => (false, rest)
  let (names, rest) ← names? (rest.length + 1) (skipBlanks rest)
  match isItem, rest with
  | false, ']' :: rest => some (names, false, rest)
  | true, ']' :: ']' :: rest => some (names, true, rest)
  | _, _ => none

/-- Opens the table of a header. -/
def openAt? (isItem : Bool) (path : List String) (root : List (String × Node)) :
    Option (List (String × Node)) := do
  let name ← path.getLast?
  within? (if isItem then openItem? name else openTable? name) path.dropLast root

/-- Reads lines into a table, of which the one at `current` is open. The bound is on the number of
lines. -/
def lines : Nat → List String → List (String × Node) → List Char → Option (List (String × Node))
  | 0, _, _, _ => none
  | bound + 1, current, root, characters => do
    match ← skipComment? characters with
    | [] => some root
    | '[' :: rest =>
      let (path, isItem, rest) ← header? rest
      let root ← openAt? isItem path root
      lines bound path root (← endLine? rest)
    | c :: rest =>
      match afterLine? (c :: rest) with
      | some rest => lines bound current root rest
      | none =>
        let (names, rest) ← names? (rest.length + 2) (c :: rest)
        match rest with
        | '=' :: rest =>
          let rest := skipBlanks rest
          let (value, rest) ← value? (rest.length + 1) rest
          let root ← within? (give? value false .opened names) current root
          lines bound current root (← endLine? rest)
        | _ => none

/-- Reads a file as a table of values. A mark of the byte order at its beginning means nothing. -/
def read? (text : String) : Option (List (String × Value)) :=
  let characters := match text.toList with
    | '\uFEFF' :: rest => rest
    | characters => characters
  (lines (characters.length + 1) [] [] characters).map membersToValues

end UserDashboard.Settings.Toml
