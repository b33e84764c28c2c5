/-
This file says who a request acts for.

An account is known by a number. Its text is read with blanks around it and with either sign, and
what could not be read is kept as it was written, so that the message can show it. An identity is
what a verified credential says about the account, and never holds the credential itself.
-/

import UserDashboard.Json.Record
import UserDashboard.Text.Blank

namespace UserDashboard

open Number Text

/-- The number of an account. -/
structure SubjectId where
  /-- The number. -/
  value : Int64
  deriving DecidableEq, Repr

/-- A text that names no account. -/
structure InvalidSubject where
  /-- The text as it was written. -/
  text : String
  deriving DecidableEq

/-- What is said about a text that names no account. -/
def InvalidSubject.message (invalid : InvalidSubject) : String :=
  "Invalid subject id: " ++ invalid.text

namespace SubjectId

/-- Reads the number of an account, with blanks around it. -/
def read (text : String) : Except InvalidSubject SubjectId :=
  match readInt? int64Min int64Max (trim text.toList) with
  | some value => .ok ⟨Int64.ofInt value⟩
  | none => .error ⟨text⟩

/-- The number as text. -/
def text (subject : SubjectId) : String :=
  toString subject.value.toInt

/-- The number as JSON. -/
def toJson (subject : SubjectId) : Json :=
  .integer subject.value.toInt

/-- Reads the number from JSON. -/
def ofJson? (json : Json) : Option SubjectId :=
  (json.readInt64?).map fun value => ⟨Int64.ofInt value⟩

end SubjectId

/-- What a verified credential says about an account. -/
structure Identity where
  /-- The account. -/
  subject : SubjectId
  /-- Its address. -/
  email : String
  /-- The name it shows to others. -/
  displayName : String
  deriving DecidableEq, Repr

namespace Identity

/-- An identity as JSON. -/
def toJson (identity : Identity) : Json :=
  .object [("userId", identity.subject.toJson), ("email", .string identity.email),
    ("nickname", .string identity.displayName)]

/-- Reads an identity from JSON. -/
def ofJson? (json : Json) : Option Identity := do
  let record ← json.record? ["userId", "email", "nickname"]
  let subject ← record.required "userId" SubjectId.ofJson?
  let email ← record.required "email" Json.readText?
  let displayName ← record.required "nickname" Json.readText?
  some ⟨subject, email, displayName⟩

end Identity

end UserDashboard
