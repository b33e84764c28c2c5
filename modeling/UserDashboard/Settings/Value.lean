/-
This file holds the values that settings are written with, before anything is known about what
they are for.

Settings come from a file and from the environment, one laid over the other. Tables are laid over
each other member by member, every other value takes the place of what was there. A member is
addressed by a path of names and positions, and whatever stands in the way of a path is replaced.

A value is taken for what is wanted of it: texts for numbers, numbers and truth values for texts.
-/

import UserDashboard.Json.Basic
import UserDashboard.Number.Integer
import UserDashboard.Number.Shortest
import UserDashboard.Text.Fields

namespace UserDashboard.Settings

open Number Text

/-! ### Values -/

/-- A number with a fraction, or what is written in place of one. -/
inductive Amount where
  | finite (value : Binary64)
  | infinite (negative : Bool)
  | undefined
  deriving DecidableEq

namespace Amount

/-- The amount as text. -/
def text : Amount → String
  | .finite value => value.plainText
  | .infinite false => "inf"
  | .infinite true => "-inf"
  | .undefined => "NaN"

/-- The nearest natural number of 64 bits, zero for what is no number. -/
def nat64 : Amount → Nat
  | .finite value => min value.roundedInt.toNat nat64Max
  | .infinite false => nat64Max
  | .infinite true => 0
  | .undefined => 0

end Amount

/-- A value that settings are written with. -/
inductive Value where
  | absent
  | flag (value : Bool)
  | whole (value : Int)
  | amount (value : Amount)
  | text (written : String)
  | list (items : List Value)
  | table (members : List (String × Value))
  deriving Inhabited

namespace Value

/-- The value of a member of a table. -/
def member? (name : String) : List (String × Value) → Option Value
  | [] => none
  | (other, value) :: rest => if other = name then some value else member? name rest

/-- A table with the value of one member replaced. -/
def setMember (name : String) (change : Option Value → Value) :
    List (String × Value) → List (String × Value)
  | [] => [(name, change none)]
  | (other, value) :: rest =>
    if other = name then (name, change (some value)) :: rest
    else (other, value) :: setMember name change rest

/-! ### Values laid over others -/

/-- The members of a value, none if it is no table. -/
def members : Value → List (String × Value)
  | .table members => members
  | _ => []

/-- The items of a value, none if it is no list. -/
def items : Value → List Value
  | .list items => items
  | _ => []

mutual

/-- A value laid over what was there. -/
def laidOver (below : Value) : Value → Value
  | .table members => .table (membersOver below.members members)
  | value => value

/-- Members laid over others of the same names. -/
def membersOver (below : List (String × Value)) : List (String × Value) → List (String × Value)
  | [] => below
  | (name, value) :: rest =>
    membersOver (setMember name (fun kept => laidOver (kept.getD .absent) value) below) rest

end

/-- A step of a path. -/
inductive Step where
  | name (name : String)
  | position (index : Nat)
  deriving DecidableEq

/-- A list with the value at a position replaced, filled up where it is too short. -/
def setItem (index : Nat) (change : Option Value → Value) (items : List Value) : List Value :=
  let filled := items ++ List.replicate (index + 1 - items.length) .absent
  filled.modify index fun item => change (some item)

/-- A value with another one laid over the place that a path leads to. -/
def setAt (value : Value) : List Step → Value → Value
  | [], below => laidOver below value
  | .name name :: path, below =>
    .table (setMember name (fun kept => setAt value path (kept.getD .absent)) below.members)
  | .position index :: path, below =>
    .list (setItem index (fun kept => setAt value path (kept.getD .absent)) below.items)

/-! ### Paths -/

/-- Whether a character may stand in a name of a path. -/
def isNameCharacter (c : Char) : Bool :=
  ('a' ≤ c && c ≤ 'z') || ('A' ≤ c && c ≤ 'Z') || c.isDigit || c = '_' || c = '-'

/-- The positions in brackets that follow a name, `digits` being those of an open bracket, the last
first. -/
def positions? (digits : Option (List Char)) : List Char → Option (List Step)
  | [] => if digits.isNone then some [] else none
  | c :: rest =>
    match digits with
    | none => if c = '[' then positions? (some []) rest else none
    | some digits =>
      if c = ']' then do
        let index ← readNat? digits.reverse
        some (.position index :: (← positions? none rest))
      else positions? (some (c :: digits)) rest

/-- The steps of one piece of a path: a name with positions in brackets after it. -/
def pieceSteps? (piece : List Char) : Option (List Step) := do
  let name := piece.takeWhile isNameCharacter
  if name.isEmpty then none
  else some (.name (String.ofList name) :: (← positions? none (piece.dropWhile isNameCharacter)))

/-- Reads a path. A text that is none is the name of a single member. -/
def readPath (text : String) : List Step :=
  match (fields '.' text.toList).mapM pieceSteps? with
  | some steps => steps.flatten
  | none => [.name text]

/-- Members laid over a table, each at the path that its name spells. -/
def overlay (below : Value) (members : List (String × Value)) : Value :=
  members.foldl (fun table (name, value) => setAt value (readPath name) table) below

/-! ### What is wanted of a value -/

/-- The text of a value that has one. -/
def text? : Value → Option String
  | .text written => some written
  | .flag value => some (toString value)
  | .whole value => some (toString value)
  | .amount value => some value.text
  | _ => none

/-- The natural number of 64 bits that a value stands for. -/
def nat64? : Value → Option Nat
  | .whole value => if 0 ≤ value ∧ value ≤ nat64Max then some value.toNat else none
  | .flag value => some value.toNat
  | .amount value => some value.nat64
  | .text written =>
    if ["true", "on", "yes"].contains (smallText written) then some 1
    else if ["false", "off", "no"].contains (smallText written) then some 0
    else
      let digits := match written.toList with
        | '+' :: digits => digits
        | digits => digits
      (readNat? digits).bind fun value => if value ≤ nat64Max then some value else none
  | _ => none

/-- The low 16 bits of the natural number that a value stands for. -/
def nat16? (value : Value) : Option Nat :=
  value.nat64?.map (· % 65536)

/-- The name of a choice: a text, or the name of a table's only member. -/
def choice? : Value → Option String
  | .text name => some name
  | .table [(name, _)] => some name
  | _ => none

/-- The fields of a record: the members of a table, or the items of a list in the order of the
fields. -/
def fields? (names : List String) : Value → Option (String → Option Value)
  | .table members => some fun name => member? name members
  | .list items => some fun name => member? name (names.zip items)
  | _ => none

/-! ### Values from other forms -/

/-- The amount that a JSON number becomes. -/
def ofReal (value : Binary64) : Value :=
  .amount (.finite value)

mutual

/-- A value from JSON. A whole number that needs more than 64 bits with a sign becomes an
amount. -/
def ofJson : Json → Value
  | .null => .absent
  | .bool value => .flag value
  | .integer value =>
    if int64Min ≤ value ∧ value ≤ int64Max then .whole value
    else ((Binary64.nearest? (value < 0) value.natAbs 1).map ofReal).getD .absent
  | .real value => ofReal value
  | .string written => .text written
  | .array items => .list (ofItems items)
  | .object members => .table (ofMembers members)
  | .unreadable _ => .absent

/-- Values from the items of a JSON array. -/
def ofItems : List Json → List Value
  | [] => []
  | item :: items => ofJson item :: ofItems items

/-- Members from those of a JSON object. -/
def ofMembers : List (String × Json) → List (String × Value)
  | [] => []
  | (name, value) :: members => (name, ofJson value) :: ofMembers members

end

end Value

end UserDashboard.Settings
