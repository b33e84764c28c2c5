/-
This file says how settings are read, whatever they are written in.

Settings are written as JSON, which is taken at its word, or as the values of a file and the
environment, which are taken for what is wanted of them. The sections of the settings are read the
same way from both: a section has fields, and a field that is not there has a value all the same.
-/

import UserDashboard.Credential.Algorithm
import UserDashboard.Json.Times
import UserDashboard.Settings.Value

namespace UserDashboard.Settings

open Credential Time

/-- How the values of one form are read. -/
structure Form (V : Type) where
  /-- The fields of a section that are there. -/
  fields? : List String → V → Option (String → Option V)
  /-- A text. -/
  text? : V → Option String
  /-- A natural number of 16 bits. -/
  nat16? : V → Option Nat
  /-- A natural number of 64 bits. -/
  nat64? : V → Option Nat
  /-- The name of a choice. -/
  choice? : V → Option String

/-- JSON as a form. -/
def Form.json : Form Json where
  fields? names json := (json.record? (names.map fun name => ⟨name, []⟩)).map fun record =>
    record.value?
  text? := Json.readText?
  nat16? := Json.readNat16?
  nat64? := Json.readNat64?
  choice? := Json.readChoice?

/-- Values of a file and the environment as a form. -/
def Form.values : Form Value where
  fields? := Value.fields?
  text? := Value.text?
  nat16? := Value.nat16?
  nat64? := Value.nat64?
  choice? := Value.choice?

namespace Form

variable {V : Type}

/-- A field of a section, which has a value all the same if it is not there. -/
def field {α : Type} (section? : String → Option V) (name : String) (default : α)
    (read : V → Option α) : Option α :=
  match section? name with
  | some value => read value
  | none => some default

/-- A port. -/
def port? (form : Form V) (value : V) : Option UInt16 :=
  (form.nat16? value).map UInt16.ofNat

/-- A count. -/
def count? (form : Form V) (value : V) : Option UInt64 :=
  (form.nat64? value).map UInt64.ofNat

/-- A length of time. -/
def span? (form : Form V) (value : V) : Option Span := do
  Span.read? (← form.text? value)

/-- An algorithm to sign tokens with. -/
def algorithm? (form : Form V) (value : V) : Option Algorithm := do
  Algorithm.ofName? (← form.choice? value)

end Form

end UserDashboard.Settings
