/-
This file says why a dashboard could not be refreshed.

A refresh needs all its fetches to be answered in time. It fails for the first of them that was
not, when its deadline passes before all have ended, or because it was cancelled.
-/

import UserDashboard.Time.Span

namespace UserDashboard.Dashboard

open Time

/-- The fetches of a refresh. -/
inductive FetchKind where
  | statistics
  | listings
  | activity
  deriving DecidableEq, Repr

/-- The name of a fetch in messages. -/
def FetchKind.name : FetchKind → String
  | .statistics => "statistics"
  | .listings => "recent_listings"
  | .activity => "recent_activity"

/-- What is wrong with the catalog. -/
inductive UpstreamFault where
  /-- A fetch was not answered in time. -/
  | fellBack (fetch : FetchKind)
  /-- A fetch broke off, and this was reported of it. -/
  | crashed (fetch : FetchKind) (report : String)
  /-- A fault reported by someone else. -/
  | reported (detail : String)
  deriving DecidableEq

/-- What is said about the fault. -/
def UpstreamFault.message : UpstreamFault → String
  | .fellBack fetch => fetch.name ++ " fell back to defaults"
  | .crashed fetch report => fetch.name ++ " task failed: " ++ report
  | .reported detail => detail

/-- What is wrong with the configuration of dashboards. -/
inductive DashboardFault where
  /-- What has to be positive is zero. -/
  | zero (name : String)
  /-- A fault reported by someone else. -/
  | reported (detail : String)
  deriving DecidableEq

/-- What is said about the fault. -/
def DashboardFault.message : DashboardFault → String
  | .zero name => name ++ " must be > 0"
  | .reported detail => detail

/-- Why there is no dashboard. -/
inductive DashboardError where
  /-- The catalog did not answer, or not well. -/
  | upstreamUnavailable (fault : UpstreamFault)
  /-- The deadline passed. -/
  | aggregationTimeout (deadline : Span)
  /-- The refresh was cancelled. -/
  | cancelled
  /-- The configuration cannot be used. -/
  | configuration (fault : DashboardFault)
  deriving DecidableEq

/-- What is said about it. -/
def DashboardError.message : DashboardError → String
  | .upstreamUnavailable fault => "Upstream unavailable: " ++ fault.message
  | .aggregationTimeout deadline =>
    "Aggregation timed out after " ++ toString deadline.millis ++ "ms"
  | .cancelled => "Refresh cancelled"
  | .configuration fault => "Configuration error: " ++ fault.message

end UserDashboard.Dashboard
