/-
This file holds all settings of the service.

Settings are read field by field and checked as a whole, section by section in a fixed order, and
the first fault found is the one that is reported.
-/

import UserDashboard.Net.Address
import UserDashboard.Settings.Auth
import UserDashboard.Settings.Catalog
import UserDashboard.Settings.Dashboard

namespace UserDashboard.Settings

open Catalog Dashboard Net Time

/-! ### Where the service listens and what it tells -/

/-- Where the service listens. -/
structure ServerSettings where
  /-- The host. -/
  host : String := "0.0.0.0"
  /-- The port. -/
  port : UInt16 := 8081
  /-- The milliseconds that work in the background has to stop. -/
  graceMillis : UInt64 := 5000
  deriving DecidableEq

namespace ServerSettings

/-- The names of the fields. -/
def fields : List String :=
  ["host", "port", "shutdown_grace_ms"]

/-- Reads the settings. -/
def read? {V : Type} (form : Form V) (value : V) : Option ServerSettings := do
  let field ← form.fields? fields value
  let default : ServerSettings := {}
  some {
    host := ← Form.field field "host" default.host form.text?
    port := ← Form.field field "port" default.port form.port?
    graceMillis := ← Form.field field "shutdown_grace_ms" default.graceMillis form.count? }

/-- The settings as JSON. -/
def toJson (settings : ServerSettings) : Json :=
  .object [("host", .string settings.host), ("port", .nat settings.port.toNat),
    ("shutdown_grace_ms", .nat settings.graceMillis.toNat)]

/-- The address to listen on. A host that is no address stands for all of the machine's own. -/
def address (settings : ServerSettings) : SocketAddress :=
  ⟨(IpAddress.read? settings.host.toList).getD .unspecified, settings.port⟩

end ServerSettings

/-- What the service tells about its work. -/
structure LoggingSettings where
  /-- The least important kind of messages that is told. -/
  level : String := "info"
  deriving DecidableEq

namespace LoggingSettings

/-- Reads the settings. -/
def read? {V : Type} (form : Form V) (value : V) : Option LoggingSettings := do
  let field ← form.fields? ["level"] value
  let default : LoggingSettings := {}
  some { level := ← Form.field field "level" default.level form.text? }

/-- The settings as JSON. -/
def toJson (settings : LoggingSettings) : Json :=
  .object [("level", .string settings.level)]

/-- The names of the levels. -/
def levels : List String :=
  ["trace", "debug", "info", "warn", "error", "off"]

end LoggingSettings

/-! ### All of them -/

/-- Why some settings cannot be used. -/
inductive SettingsError where
  /-- There is no port to listen on. -/
  | noPort
  /-- Work in the background has no time to stop. -/
  | noGrace
  /-- There is no such level of messages. -/
  | level
  /-- Credentials cannot be verified. -/
  | auth (error : AuthSettingsError)
  /-- The catalog cannot be asked. -/
  | catalog (error : CatalogError)
  /-- Dashboards cannot be put together. -/
  | dashboard (error : DashboardError)
  deriving DecidableEq

/-- What is said about it. -/
def SettingsError.message : SettingsError → String
  | .noPort => "server.port must be > 0"
  | .noGrace => "server.shutdown_grace_ms must be > 0"
  | .level =>
    let quoted := LoggingSettings.levels.map fun level => "\"" ++ level ++ "\""
    "logging.level must be one of [" ++ ", ".intercalate quoted ++ "]"
  | .auth error => "auth config error: " ++ error.message
  | .catalog error => "catalog config error: " ++ error.message
  | .dashboard error => "dashboard config error: " ++ error.message

/-- All settings of the service. -/
structure ServiceSettings where
  /-- Where it listens. -/
  server : ServerSettings := {}
  /-- What it tells. -/
  logging : LoggingSettings := {}
  /-- How credentials are verified. -/
  auth : AuthSettings := {}
  /-- How the catalog is asked. -/
  catalog : CatalogSettings := {}
  /-- How dashboards are put together. -/
  dashboard : DashboardSettings := {}
  deriving DecidableEq

namespace ServiceSettings

/-- The names of the sections. -/
def sections : List String :=
  ["server", "logging", "auth", "catalog", "dashboard"]

/-- Reads the settings. -/
def read? {V : Type} (form : Form V) (value : V) : Option ServiceSettings := do
  let part ← form.fields? sections value
  some {
    server := ← Form.field part "server" {} (ServerSettings.read? form)
    logging := ← Form.field part "logging" {} (LoggingSettings.read? form)
    auth := ← Form.field part "auth" {} (AuthSettings.read? form)
    catalog := ← Form.field part "catalog" {} (CatalogSettings.read? form)
    dashboard := ← Form.field part "dashboard" {} (DashboardSettings.read? form) }

/-- The settings as JSON. -/
def toJson (settings : ServiceSettings) : Json :=
  .object [("server", settings.server.toJson), ("logging", settings.logging.toJson),
    ("auth", settings.auth.toJson), ("catalog", settings.catalog.toJson),
    ("dashboard", settings.dashboard.toJson)]

/-- Whether the settings can be used. -/
def check (settings : ServiceSettings) : Except SettingsError Unit := do
  if settings.server.port = 0 then throw .noPort
  if settings.server.graceMillis = 0 then throw .noGrace
  if ¬LoggingSettings.levels.contains (Text.smallText settings.logging.level) then throw .level
  settings.auth.check.mapError .auth
  settings.catalog.check.mapError .catalog
  settings.dashboard.check.mapError .dashboard

end ServiceSettings

end UserDashboard.Settings
