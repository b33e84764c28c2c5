/-
This file is the command line of the service.

It gathers what the program finds around it, starts the service, and tells what came of it. Where
the service would go on to wait for connections, the program ends: connections are brought to the
core of the service by whoever has them.
-/

import UserDashboard.Service.Launch
import UserDashboard.Text.Utf8

namespace UserDashboard.CommandLine

open Service

/-- What is found under the name of a file. -/
def findFile (name : String) : IO Found := do
  try
    return .text (← IO.FS.readFile name)
  catch
    | .noFileOrDirectory .. => return .nothing
    | _ => return .unreadable

/-- What is found under a name in this folder or, if there is no text, in the nearest of some
number of folders above it. -/
def findAbove : Nat → String → IO Found
  | 0, name => findFile name
  | folders + 1, name => do
    match ← findFile name with
    | .text content => return .text content
    | _ => findAbove folders ("../" ++ name)

/-- The variables of the environment, as the system lists them. -/
def environment : IO (List (String × String)) := do
  let listed ← try IO.FS.readBinFile "/proc/self/environ" catch _ => pure ByteArray.empty
  let entries := (Text.textOfOctets? listed.toList).getD ""
  return (Text.fields (Char.ofNat 0) entries.toList).filterMap fun entry =>
    (Text.cutFirst? '=' entry).map fun (name, value) => (String.ofList name, String.ofList value)

/-- Starts the service and ends with the code that says how it went. -/
def run (arguments : List String) : IO UInt32 := do
  let folder ← IO.currentDir
  let surroundings : Surroundings IO := {
    arguments
    environment := ← environment
    entries := findAbove folder.components.length ".env"
    find := findFile
    machine := .unconnected }
  let launch ← surroundings.launch
  for message in launch.messages do IO.println message.line
  for complaint in launch.complaints do IO.eprintln complaint
  return UInt32.ofNat (launch.outcome.code?.getD 0)

end UserDashboard.CommandLine

/-- The program. -/
def main (arguments : List String) : IO UInt32 :=
  UserDashboard.CommandLine.run arguments
