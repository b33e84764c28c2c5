/-
This file holds the dashboard of an account as it was at one moment.

Until there is one, a placeholder stands in for it, which says that it is loading.
-/

import UserDashboard.Catalog.Statistics
import UserDashboard.Dashboard.Activity

namespace UserDashboard.Dashboard

open Catalog Time

/-- A dashboard. -/
structure Snapshot where
  /-- What the catalog counts for the account. -/
  statistics : Statistics
  /-- Its newest listings. -/
  listings : List Listing
  /-- Its newest activity. -/
  activity : List Activity
  /-- When it was put together. -/
  generatedAt : Timestamp
  /-- Whether it stands in for a dashboard that is still to come. -/
  loading : Bool
  /-- What is shown in the meantime. -/
  message : Option String
  deriving DecidableEq

namespace Snapshot

/-- What a placeholder shows. -/
def placeholderMessage : String := "Loading dashboard data..."

/-- The dashboard that stands in at a moment. -/
def placeholder (now : Moment) : Snapshot :=
  ⟨.zero, [], [], .utc now, true, some placeholderMessage⟩

/-- The dashboard made of what was found out. -/
def assemble (statistics : Statistics) (listings : List Listing) (activity : List Activity)
    (generatedAt : Timestamp) : Snapshot :=
  ⟨statistics, listings, activity, generatedAt, false, none⟩

/-- Reads a dashboard from JSON. -/
def ofJson? (json : Json) : Option Snapshot := do
  let record ← json.record? ["stats", "recentListings", "recentActivity", "generatedAt", "loading",
    "message"]
  let statistics ← record.required "stats" Statistics.ofJson?
  let listings ← record.required "recentListings" (Json.readList? Listing.ofJson?)
  let activity ← record.required "recentActivity" (Json.readList? Activity.ofJson?)
  let generatedAt ← record.required "generatedAt" Timestamp.ofJson?
  let loading ← record.required "loading" Json.readBool?
  let message ← record.defaulted "message" none (Json.readNullable? Json.readText?)
  some ⟨statistics, listings, activity, generatedAt, loading, message⟩

/-- A dashboard as JSON, unless one of its timestamps cannot be written. -/
def toJson? (snapshot : Snapshot) : Option Json := do
  let activity ← snapshot.activity.mapM Activity.toJson?
  let generatedAt ← snapshot.generatedAt.toJson?
  some (.object ([("stats", snapshot.statistics.toJson),
    ("recentListings", .array (snapshot.listings.map Listing.toJson)),
    ("recentActivity", .array activity), ("generatedAt", generatedAt),
    ("loading", .bool snapshot.loading)] ++ Json.member? "message" .string snapshot.message))

end Snapshot

end UserDashboard.Dashboard
