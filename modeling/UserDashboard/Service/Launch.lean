/-
This file launches the service from the command line.

Variables of the environment are completed by a file of entries, settings are loaded from the file
that an argument or a variable names, and the service is put together and listens. What goes wrong
on the way is complained about: settings that cannot be used end the program with a code of their
own, a machine that does not let the service listen ends it as if it had been stopped.
-/

import UserDashboard.Service.Journal
import UserDashboard.Service.Server
import UserDashboard.Settings.EnvironmentFile
import UserDashboard.Settings.Load

namespace UserDashboard.Service

open Settings

/-! ### What a program finds -/

/-- What is found under the name of a file. -/
inductive Found where
  /-- Nothing. -/
  | nothing
  /-- Something that is no text. -/
  | unreadable
  /-- A text. -/
  | text (content : String)
  deriving DecidableEq

/-- What the program finds when it is started. Looking for files is left open, so that it can be
done in a folder or in a list. -/
structure Surroundings (m : Type → Type) where
  /-- The arguments. -/
  arguments : List String
  /-- The variables of the environment. -/
  environment : List (String × String)
  /-- The file of entries that completes the variables. -/
  entries : m Found
  /-- What is found under a name. -/
  find : String → m Found
  /-- The machine. -/
  machine : Machine

/-! ### Where settings come from -/

/-- What named the file of the settings. -/
inductive Source where
  | argument
  | environment
  | custom
  deriving DecidableEq

/-- What it is called in messages. -/
def Source.text : Source → String
  | .argument => "CLI argument (--config)"
  | .environment => "environment variable (CARROT_CONFIG)"
  | .custom => "default"

/-- The argument after the first that asks for one. -/
def namedFile? : List String → Option String
  | "--config" :: name :: _ => some name
  | _ :: rest => namedFile? rest
  | [] => none

/-- The file of the settings and what named it: an argument, else a variable that is not empty,
else custom. -/
def settingsFile (arguments : List String) (environment : List (String × String)) :
    String × Source :=
  match namedFile? arguments with
  | some name => (name, .argument)
  | none =>
    match (environment.lookup "CARROT_CONFIG").filter (· ≠ "") with
    | some name => (name, .environment)
    | none => (Settings.defaultFile, .custom)

/-- Loads the settings from what is found under a name and from the variables. -/
def loadFound (name : String) (environment : List (String × String)) :
    Found → Except LoadError ServiceSettings
  | .nothing => Settings.load none environment
  | .unreadable => .error .unreadable
  | .text content => Settings.load (some (name, content)) environment

/-! ### What comes of it -/

/-- How far the program came. -/
inductive Outcome where
  /-- The settings cannot be used. -/
  | refused
  /-- The machine does not let the service listen. -/
  | stopped
  /-- The service listens. -/
  | listening (server : Server)

/-- The code with which the program ends, unless it goes on. -/
def Outcome.code? : Outcome → Option Nat
  | .refused => some 2
  | .stopped => some 0
  | .listening _ => none

/-- What comes of starting the program. -/
structure Launch where
  /-- What it complains about. -/
  complaints : List String := []
  /-- The messages that are told. -/
  messages : List Message := []
  /-- How far it came. -/
  outcome : Outcome

/-- A service that has been loaded listens, if the machine lets it. -/
def Server.launch (server : Server) (machine : Machine) (filter : Filter) : Launch :=
  match server.listen machine with
  | .ok () =>
    let message : Message :=
      ⟨.info, "carrot_server::server", "listening on " ++ server.address.text⟩
    { messages := [message].filter filter.tells, outcome := .listening server }
  | .error fault =>
    let message : Message := ⟨.info, "carrot_server::observability", "Tracing shut down"⟩
    { complaints := ["Server error: " ++ fault.message]
      messages := [message].filter filter.tells
      outcome := .stopped }

/-- Starts the service with settings that were loaded. -/
def launchLoaded (machine : Machine) (asked : Option String) (name : String) (source : Source)
    (settings : ServiceSettings) : Launch :=
  let loaded : Message :=
    ⟨.info, "carrot_server", "Configuration loaded path=" ++ name ++ " source=" ++ source.text⟩
  let messages := [loaded].filter (Filter.ofSettings asked "info").tells
  match Server.build settings none with
  | .error error =>
    { complaints := ["Server initialization failed: " ++ error.message], messages,
      outcome := .refused }
  | .ok server =>
    let launch := server.launch machine (Filter.ofSettings asked settings.logging.level)
    { launch with messages := messages ++ launch.messages }

namespace Surroundings

variable {m : Type → Type} [Monad m]

/-- The variables with the entries of the file that completes them, and whether all entries could
be read. -/
def completed (surroundings : Surroundings m) : m (List (String × String) × Bool) := do
  match ← surroundings.entries with
  | .text content => return EnvironmentFile.extend surroundings.environment content
  | _ => return (surroundings.environment, true)

/-- Starts the service with some variables. -/
def start (surroundings : Surroundings m) (environment : List (String × String)) : m Launch := do
  let (name, source) := settingsFile surroundings.arguments environment
  match loadFound name environment (← surroundings.find name) with
  | .error error =>
    return { complaints := ["Configuration error: " ++ error.message], outcome := .refused }
  | .ok settings =>
    return launchLoaded surroundings.machine (environment.lookup "RUST_LOG") name source settings

/-- Starts the program. -/
def launch (surroundings : Surroundings m) : m Launch := do
  let (environment, readable) ← surroundings.completed
  let launch ← surroundings.start environment
  let complaints := if readable then [] else ["Warning: Failed to load .env file"]
  return { launch with complaints := complaints ++ launch.complaints }

end Surroundings

end UserDashboard.Service
