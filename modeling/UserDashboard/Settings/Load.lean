/-
This file loads the settings of the service.

They come from a file, if there is one, over which the environment is laid, and have to be usable.
The last part of a file's name says what it is written in. Files in TOML and in JSON are read; other
notations that the service knows, such as YAML and RON, are left out here.
-/

import UserDashboard.Json.Reader
import UserDashboard.Settings.Environment
import UserDashboard.Settings.Service
import UserDashboard.Settings.Toml.Document

namespace UserDashboard.Settings

open Text

/-- Why settings were not loaded. -/
inductive LoadError where
  /-- The file cannot be read. -/
  | unreadable
  /-- Some value cannot be taken for what is wanted of it. -/
  | unfit
  /-- The settings cannot be used. -/
  | unusable (error : SettingsError)
  deriving DecidableEq

/-- What is said about it. -/
def LoadError.message : LoadError → String
  | .unreadable => "config build error"
  | .unfit => "config deserialize error"
  | .unusable error => error.message

/-- The file that is used unless another one is named. -/
def defaultFile : String := "carrot.toml"

/-- What follows the last point in the last part of a file's name, unless the point is the first of
its characters. -/
def extension? (name : String) : Option String :=
  let last := ((fields '/' name.toList).getLast?.getD [])
  match cutFirst? '.' last.reverse with
  | some (extension, before) =>
    if before.isEmpty then none else some (String.ofList extension.reverse)
  | none => none

/-- Reads a file in TOML or JSON as a table of values. What is in other notations is not known here,
and a file in one of them counts as one that cannot be read. -/
def readFile? (name text : String) : Option (List (String × Value)) :=
  match extension? name with
  | some "toml" => Toml.read? text
  | some "json" =>
    match (Json.parse? text).bind (Json.plain? Json.deepest) with
    | some (.object members) => some (Value.ofMembers members)
    | _ => none
  | _ => none

/-- Loads the settings from a file, of which nothing is said if it does not exist, and from the
variables of the environment. -/
def load (file : Option (String × String)) (environment : List (String × String)) :
    Except LoadError ServiceSettings := do
  let members ← match file with
    | none => .ok []
    | some (name, text) =>
      match readFile? name text with
      | some members => .ok members
      | none => .error .unreadable
  let below := Value.overlay (.table []) members
  let values := Value.overlay below (Environment.settings environment)
  match ServiceSettings.read? Form.values values with
  | none => .error .unfit
  | some settings =>
    match settings.check with
    | .ok () => .ok settings
    | .error error => .error (.unusable error)

end UserDashboard.Settings
