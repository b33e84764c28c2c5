/-
This file holds the JSON values that every exchange of the service is made of.

A value is what a text of the strict grammar denotes, with two decisions built in. Numbers are
told apart by how they may be used: a number written without a point or an exponent that fits 64
bits is an integer, every other one is a binary number. And a part that can be skipped but not
used is one value of its own, `unreadable`: a string that is no Unicode text, a number beyond the
largest binary one, an object with a name that is no Unicode text. A reader that needs such a part
refuses it, a reader that passes over it never notices. A reader that tries such a part and goes on
without it can do so only if it was at the end of the part when it found out.

Members keep the order they were written in, and a name may occur more than once: whether that is
allowed is for the reader of the object to say.
-/

import UserDashboard.Number.Binary64

namespace UserDashboard

open Number

/-- A JSON value. -/
inductive Json where
  | null
  | bool (value : Bool)
  | integer (value : Int)
  | real (value : Binary64)
  | string (text : String)
  | array (items : List Json)
  | object (members : List (String × Json))
  /-- A part that may be skipped but not used, and whether that is found out at its end. -/
  | unreadable (atEnd : Bool)
  deriving Inhabited

namespace Json

/-- A whole number that is not negative. -/
def nat (value : Nat) : Json :=
  .integer value

/-- Null, or a value. -/
def ofOption {α : Type} (encode : α → Json) : Option α → Json
  | none => .null
  | some value => encode value

/-- A member that is left out when there is no value for it. -/
def member? {α : Type} (name : String) (encode : α → Json) : Option α → List (String × Json)
  | none => []
  | some value => [(name, encode value)]

/-! ### Values read as plain data -/

/-- The deepest nesting that is read as plain data. -/
def deepest : Nat := 127

/-- The members with a new one in its place by name, replacing one of the same name. -/
def insertSorted (name : String) (value : Json) : List (String × Json) → List (String × Json)
  | [] => [(name, value)]
  | (other, kept) :: rest =>
    if name = other then (name, value) :: rest
    else if name < other then (name, value) :: (other, kept) :: rest
    else (other, kept) :: insertSorted name value rest

mutual

/-- A value read as plain data: nothing in it may be unreadable, it may not nest deeper than
`depth`, the last member of a name counts, and members are ordered by name. -/
def plain? (depth : Nat) : Json → Option Json
  | .array items =>
    match depth with
    | 0 => none
    | depth + 1 => (plainItems? depth items).map .array
  | .object members =>
    match depth with
    | 0 => none
    | depth + 1 => (plainMembers? depth [] members).map .object
  | .unreadable _ => none
  | scalar => some scalar

/-- The items of an array, each read as plain data. -/
def plainItems? (depth : Nat) : List Json → Option (List Json)
  | [] => some []
  | item :: items => do
    let first ← plain? depth item
    let rest ← plainItems? depth items
    some (first :: rest)

/-- The members of an object, each read as plain data, put in order after those of `sorted`. -/
def plainMembers? (depth : Nat) (sorted : List (String × Json)) :
    List (String × Json) → Option (List (String × Json))
  | [] => some sorted
  | (name, value) :: members => do
    let value ← plain? depth value
    plainMembers? depth (insertSorted name value sorted) members

end

/-- The value of the last member of a name. -/
def lookup? (name : String) : List (String × Json) → Option Json
  | [] => none
  | (other, value) :: rest =>
    match lookup? name rest with
    | some later => some later
    | none => if other = name then some value else none

/-- The value of a member of an object, and null where there is none. -/
def get (json : Json) (name : String) : Json :=
  match json with
  | .object members => (lookup? name members).getD .null
  | _ => .null

end Json

end UserDashboard
