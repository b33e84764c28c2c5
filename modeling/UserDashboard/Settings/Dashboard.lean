/-
This file holds the settings by which dashboards are put together and remembered.
-/

import UserDashboard.Dashboard.Error
import UserDashboard.Settings.Form

namespace UserDashboard.Settings

open Dashboard Time

/-- How dashboards are put together and remembered. -/
structure DashboardSettings where
  /-- How long a refresh may take. -/
  deadline : Span := .ofSeconds 3
  /-- How long a dashboard is remembered. -/
  snapshotTtl : Span := .ofSeconds 300
  /-- How many listings and records of activity a dashboard shows. -/
  recentLimit : UInt64 := 5
  /-- How many dashboards are remembered. -/
  maxEntries : UInt64 := 10000
  deriving DecidableEq

namespace DashboardSettings

/-- The names of the fields. -/
def fields : List String :=
  ["deadline", "snapshot_ttl", "recent_limit", "max_entries"]

/-- Reads the settings. -/
def read? {V : Type} (form : Form V) (value : V) : Option DashboardSettings := do
  let field ← form.fields? fields value
  let default : DashboardSettings := {}
  some {
    deadline := ← Form.field field "deadline" default.deadline form.span?
    snapshotTtl := ← Form.field field "snapshot_ttl" default.snapshotTtl form.span?
    recentLimit := ← Form.field field "recent_limit" default.recentLimit form.count?
    maxEntries := ← Form.field field "max_entries" default.maxEntries form.count? }

/-- The settings as JSON. -/
def toJson (settings : DashboardSettings) : Json :=
  .object [("deadline", settings.deadline.toJson), ("snapshot_ttl", settings.snapshotTtl.toJson),
    ("recent_limit", .nat settings.recentLimit.toNat),
    ("max_entries", .nat settings.maxEntries.toNat)]

/-- Whether the settings can be used. -/
def check (settings : DashboardSettings) : Except DashboardError Unit :=
  if settings.deadline.nanos = 0 then .error (.configuration (.zero "dashboard.deadline"))
  else if settings.snapshotTtl.nanos = 0 then
    .error (.configuration (.zero "dashboard.snapshot_ttl"))
  else if settings.maxEntries = 0 then .error (.configuration (.zero "dashboard.max_entries"))
  else .ok ()

end DashboardSettings

end UserDashboard.Settings
