/-
This file reads JSON values into the domain's types.

A record can be written in two forms. As an object, its members stand in any order, names it does
not know are passed over unread, and a known name may occur only once. As an array, its fields
stand in the order the record lists them, none may follow the last, and only fields that have a
default may be missing at the end. A field that may be null is no exception to that last rule: its
absence is understood in an object only.
-/

import UserDashboard.Json.Basic
import UserDashboard.Number.Integer

namespace UserDashboard.Json

open Number

/-! ### Scalars -/

/-- An integer in a range. -/
def readInteger? (low high : Int) : Json → Option Int
  | .integer value => if low ≤ value ∧ value ≤ high then some value else none
  | _ => none

/-- An integer of 64 bits with a sign. -/
def readInt64? : Json → Option Int :=
  readInteger? int64Min int64Max

/-- An integer of 64 bits without a sign. -/
def readNat64? (json : Json) : Option Nat :=
  (readInteger? 0 nat64Max json).map Int.toNat

/-- An integer of 16 bits without a sign. -/
def readNat16? (json : Json) : Option Nat :=
  (readInteger? 0 65535 json).map Int.toNat

/-- A binary number, which may be written as an integer. -/
def readReal? : Json → Option Binary64
  | .real value => some value
  | .integer value => Binary64.nearest? (value < 0) value.natAbs 1
  | _ => none

/-- A text. -/
def readText? : Json → Option String
  | .string text => some text
  | _ => none

/-- A truth value. -/
def readBool? : Json → Option Bool
  | .bool value => some value
  | _ => none

/-- A list of values of one kind. -/
def readList? {α : Type} (read : Json → Option α) : Json → Option (List α)
  | .array items => items.mapM read
  | _ => none

/-- Null, or a value. -/
def readNullable? {α : Type} (read : Json → Option α) : Json → Option (Option α)
  | .null => some none
  | json => (read json).map some

/-! ### Records -/

/-- The name of a field, and the other names it may have in an object. -/
structure FieldName where
  /-- The field's own name. -/
  name : String
  /-- Other names for it. -/
  aliases : List String

instance : Coe String FieldName := ⟨fun name => ⟨name, []⟩⟩

/-- Whether a member's name is one of a field's names. -/
def FieldName.accepts (field : FieldName) (name : String) : Bool :=
  field.name == name || field.aliases.contains name

/-- The fields of a record that were present, under their own names. -/
structure Record where
  /-- Whether the record was written as an array. -/
  positional : Bool
  /-- The values present. -/
  present : List (String × Json)

/-- The known members of an object under their fields' own names, or nothing if one occurs
twice. -/
def collect? (fields : List FieldName) (present : List (String × Json)) :
    List (String × Json) → Option (List (String × Json))
  | [] => some present
  | (name, value) :: members =>
    match fields.find? (·.accepts name) with
    | none => collect? fields present members
    | some field =>
      if present.any (·.1 == field.name) then none
      else collect? fields ((field.name, value) :: present) members

/-- The fields of a record in either of its forms. -/
def record? (fields : List FieldName) : Json → Option Record
  | .object members => (collect? fields [] members).map (⟨false, ·⟩)
  | .array items =>
    if fields.length < items.length then none
    else some ⟨true, (fields.map (·.name)).zip items⟩
  | _ => none

namespace Record

/-- The value of a field, if it is present. -/
def value? (record : Record) (name : String) : Option Json :=
  (record.present.find? (·.1 == name)).map (·.2)

/-- A field that has to be present. -/
def required {α : Type} (record : Record) (name : String) (read : Json → Option α) : Option α := do
  read (← record.value? name)

/-- A field that may be null, or absent from an object. -/
def nullable {α : Type} (record : Record) (name : String) (read : Json → Option α) :
    Option (Option α) :=
  match record.value? name with
  | some value => readNullable? read value
  | none => if record.positional then none else some none

/-- A field with a value to take where it is absent. -/
def defaulted {α : Type} (record : Record) (name : String) (default : α)
    (read : Json → Option α) : Option α :=
  match record.value? name with
  | some value => read value
  | none => some default

end Record

/-! ### Choices without content -/

/-- The name of a choice: a text, or an object whose only member has that name and is null. -/
def readChoice? : Json → Option String
  | .string name => some name
  | .object [(name, .null)] => some name
  | _ => none

end UserDashboard.Json
