/-
This file holds the settings by which credentials are verified and remembered.
-/

import UserDashboard.Settings.Form

namespace UserDashboard.Settings

open Credential Time

/-! ### What can be wrong -/

/-- What is wrong with a setting. -/
inductive SettingFault where
  /-- The secret is too short. -/
  | shortSecret (octets : Nat)
  /-- What has to be positive is zero. -/
  | zero (name : String)
  /-- A fault reported by someone else. -/
  | reported (detail : String)
  deriving DecidableEq

/-- The least octets of a secret. -/
def leastSecret : Nat := 32

/-- What is said about it. -/
def SettingFault.message : SettingFault → String
  | .shortSecret octets =>
    "auth.secret must be at least " ++ toString leastSecret ++ " bytes, got " ++ toString octets
  | .zero name => name ++ " must be > 0"
  | .reported detail => detail

/-- Why credentials cannot be verified with some settings. -/
inductive AuthSettingsError where
  /-- A setting is missing. -/
  | missing (name : String)
  /-- A setting cannot be used. -/
  | invalid (fault : SettingFault)
  deriving DecidableEq

/-- What is said about it. -/
def AuthSettingsError.message : AuthSettingsError → String
  | .missing name => "Missing required configuration: " ++ name
  | .invalid fault => "Invalid configuration value: " ++ fault.message

/-! ### The settings -/

/-- How credentials are verified and remembered. -/
structure AuthSettings where
  /-- The secret that tokens are signed with. -/
  secret : String := ""
  /-- The algorithm that they are signed with. -/
  algorithm : Algorithm := .hs256
  /-- The scheme that may stand before a token. -/
  scheme : String := "Bearer "
  /-- How long a verified token is remembered. -/
  cacheTtl : Span := .ofSeconds 300
  /-- How often what is out of date is dropped. -/
  sweepInterval : Span := .ofSeconds 60
  /-- How many tokens are remembered. -/
  maxEntries : UInt64 := 10000
  deriving DecidableEq

namespace AuthSettings

/-- The names of the fields. -/
def fields : List String :=
  ["secret", "algorithm", "bearer_prefix", "cache_ttl", "sweep_interval", "max_entries"]

/-- Reads the settings. -/
def read? {V : Type} (form : Form V) (value : V) : Option AuthSettings := do
  let field ← form.fields? fields value
  let default : AuthSettings := {}
  some {
    secret := ← Form.field field "secret" default.secret form.text?
    algorithm := ← Form.field field "algorithm" default.algorithm form.algorithm?
    scheme := ← Form.field field "bearer_prefix" default.scheme form.text?
    cacheTtl := ← Form.field field "cache_ttl" default.cacheTtl form.span?
    sweepInterval := ← Form.field field "sweep_interval" default.sweepInterval form.span?
    maxEntries := ← Form.field field "max_entries" default.maxEntries form.count? }

/-- The settings as JSON. -/
def toJson (settings : AuthSettings) : Json :=
  .object [("secret", .string settings.secret), ("algorithm", settings.algorithm.toJson),
    ("bearer_prefix", .string settings.scheme), ("cache_ttl", settings.cacheTtl.toJson),
    ("sweep_interval", settings.sweepInterval.toJson),
    ("max_entries", .nat settings.maxEntries.toNat)]

/-- Whether the settings can be used. -/
def check (settings : AuthSettings) : Except AuthSettingsError Unit :=
  let octets := settings.secret.utf8ByteSize
  if octets = 0 then .error (.missing "auth.secret")
  else if octets < leastSecret then .error (.invalid (.shortSecret octets))
  else if settings.cacheTtl.nanos = 0 then .error (.invalid (.zero "auth.cache_ttl"))
  else if settings.sweepInterval.nanos = 0 then .error (.invalid (.zero "auth.sweep_interval"))
  else if settings.maxEntries = 0 then .error (.invalid (.zero "auth.max_entries"))
  else .ok ()

end AuthSettings

end UserDashboard.Settings
