/-
This file reads the names of media types.

A media type is a type and a subtype with a slash between them, and parameters after semicolons. A
plus sign divides a subtype into its own name and the form that it is written in; of several plus
signs the last one does. A body is JSON when its media type says so by its name or by its form.
-/

import UserDashboard.Http.Request

namespace UserDashboard.Http

open Text

/-- A media type without its parameters. -/
structure MediaType where
  /-- The type. -/
  kind : String
  /-- The subtype, without its form. -/
  subtype : String
  /-- The form that is written after a plus sign. -/
  form : Option String
  deriving DecidableEq

namespace MediaType

/-- Whether a character may stand in the name of a type. -/
def isNameCharacter (c : Char) : Bool :=
  Request.isWordCharacter c && c ≠ '*'

/-- Whether a character may stand between quotes. -/
def isQuotedCharacter (c : Char) : Bool :=
  c.toNat ≥ 32 && c.toNat ≠ 127

/-- What follows the value of a parameter: nothing, or the text after a semicolon. -/
def afterValue? (characters : List Char) : Option (List Char) :=
  match characters.dropWhile (· = ' ') with
  | [] => some []
  | ';' :: rest => some rest
  | _ => none

/-- What follows a parameter that begins after a semicolon, blanks before it being passed over. -/
def afterParameter? (characters : List Char) : Option (List Char) :=
  match characters.dropWhile (· = ' ') with
  | [] => some []
  | characters => do
    let name := characters.takeWhile isNameCharacter
    let value ← afterBeginning? ['='] (characters.dropWhile isNameCharacter)
    if name.isEmpty then none
    else
      match value with
      | '"' :: quoted => do
        let inside := quoted.takeWhile fun c => c ≠ '"'
        let rest ← afterBeginning? ['"'] (quoted.drop inside.length)
        if inside.isEmpty ∨ ¬inside.all isQuotedCharacter then none else afterValue? rest
      | _ =>
        match value.takeWhile isNameCharacter, value.dropWhile isNameCharacter with
        | _, [] => some []
        | _ :: _, ';' :: rest => some rest
        | _, _ => none

/-- Whether a text is a list of parameters. The bound is on the number of characters. -/
def areParameters : Nat → List Char → Bool
  | _, [] => true
  | 0, _ => false
  | bound + 1, characters => (afterParameter? characters).any (areParameters bound)

/-- A subtype and the form it is written in. -/
def splitForm (subtype : List Char) : List Char × Option (List Char) :=
  match subtype with
  | [] => ([], none)
  | first :: others =>
    match cutFirst? '+' others.reverse with
    | some (form, name) => (first :: name.reverse, some form.reverse)
    | none => (subtype, none)

/-- Reads a media type. -/
def read? (text : String) : Option MediaType := do
  let (kind, rest) ← cutFirst? '/' text.toList
  let subtype := rest.takeWhile isNameCharacter
  let parameters ← match rest.drop subtype.length with
    | [] => some []
    | ';' :: parameters => if subtype.isEmpty then none else some parameters
    | _ => none
  if kind.isEmpty ∨ ¬kind.all isNameCharacter ∨ ¬areParameters parameters.length parameters then
    none
  else
    let (name, form) := splitForm subtype
    some ⟨smallText (String.ofList kind), smallText (String.ofList name),
      form.map fun form => smallText (String.ofList form)⟩

/-- Whether a media type says that a body is JSON. -/
def isJson (mediaType : MediaType) : Bool :=
  mediaType.kind = "application" && (mediaType.subtype = "json" || mediaType.form = some "json")

end MediaType

/-- Whether a request says that its body is JSON. -/
def Request.saysJson (request : Request) : Bool :=
  match (request.header? "content-type").bind visibleText? with
  | some text => (MediaType.read? text).any MediaType.isJson
  | none => false

end UserDashboard.Http
