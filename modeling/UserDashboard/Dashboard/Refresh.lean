/-
This file holds the refreshes of dashboards.

A refresh runs three fetches side by side. It is over when all have ended, when its deadline passes
first, or when it cannot go on. Fetches that have not ended by then are left behind and end by
themselves, because the refresh they belong to counts as cancelled.
-/

import UserDashboard.Catalog.Fetch
import UserDashboard.Dashboard.Error
import UserDashboard.Dashboard.Snapshot

namespace UserDashboard.Dashboard

open Catalog Time

/-- How a fetch of a refresh ended. -/
inductive Ending (α : Type) where
  /-- It came to something. -/
  | outcome (outcome : Outcome α)
  /-- It was cancelled. -/
  | cancelled
  /-- It broke off. -/
  | crashed
  deriving DecidableEq

/-- Where a fetch of a refresh stands. -/
inductive Fetch (α : Type) where
  /-- It has not called the catalog yet. -/
  | unstarted
  /-- It waits for the catalog. -/
  | waiting
  /-- It has ended. -/
  | ended (ending : Ending α)
  deriving DecidableEq

/-- How a fetch has ended, if it has. -/
def Fetch.ending? {α : Type} : Fetch α → Option (Ending α)
  | .ended ending => some ending
  | _ => none

/-- Whether a fetch has ended. -/
def Fetch.hasEnded {α : Type} (fetch : Fetch α) : Bool :=
  fetch.ending?.isSome

/-- The end of a fetch whose call ended, with what it does to an answer. -/
def Ending.ofCall {α β : Type} (default : β) (work : α → Option β) (result : CallResult α) :
    Ending β :=
  match result.outcome? default work with
  | some came => .outcome came
  | none => .crashed

/-- The value of a fetch that ended well, and else why the refresh fails. If the fetch broke off
that says what was reported of it. -/
def Ending.settle {α : Type} (kind : FetchKind) (report : String) :
    Ending α → Except DashboardError α
  | .outcome (.fresh value) => .ok value
  | .outcome (.fallback _) => .error (.upstreamUnavailable (.fellBack kind))
  | .cancelled => .error .cancelled
  | .crashed => .error (.upstreamUnavailable (.crashed kind report))

/-- The fetches of a refresh, and when it began. -/
structure Run where
  /-- When it began. -/
  startedAt : Moment
  /-- The fetch of the statistics. -/
  statistics : Fetch Statistics
  /-- The fetch of the newest listings. -/
  listings : Fetch (List Listing)
  /-- The fetch of the activity. -/
  activity : Fetch (List Activity)

namespace Run

/-- Three fetches that are still to begin. -/
def start (now : Moment) : Run :=
  ⟨now, .unstarted, .unstarted, .unstarted⟩

/-- Whether all fetches have ended. -/
def allEnded (run : Run) : Bool :=
  run.statistics.hasEnded && run.listings.hasEnded && run.activity.hasEnded

/-- The dashboard that the fetches come to once all have ended, and else why there is none. The
first fetch that did not end well gives the reason, with what is reported of each that broke off. -/
def result? (run : Run) (reports : FetchKind → String) : Option (Except DashboardError Snapshot) :=
  match run.statistics.ending?, run.listings.ending?, run.activity.ending? with
  | some statistics, some listings, some activity => some do
    let statistics ← statistics.settle .statistics (reports .statistics)
    let listings ← listings.settle .listings (reports .listings)
    let activity ← activity.settle .activity (reports .activity)
    .ok (Snapshot.assemble statistics listings activity (.utc run.startedAt))
  | _, _, _ => none

/-- Whether a fetch has not called the catalog yet. -/
def isUnstarted (run : Run) : FetchKind → Bool
  | .statistics => run.statistics = .unstarted
  | .listings => run.listings = .unstarted
  | .activity => run.activity = .unstarted

/-- Whether a fetch waits for the catalog. -/
def isWaiting (run : Run) : FetchKind → Bool
  | .statistics => run.statistics = .waiting
  | .listings => run.listings = .waiting
  | .activity => run.activity = .waiting

/-- The fetches, one of which now waits for the catalog. -/
def call (run : Run) : FetchKind → Run
  | .statistics => { run with statistics := .waiting }
  | .listings => { run with listings := .waiting }
  | .activity => { run with activity := .waiting }

/-- The fetches, one of which was cancelled. -/
def abandon (run : Run) : FetchKind → Run
  | .statistics => { run with statistics := .ended .cancelled }
  | .listings => { run with listings := .ended .cancelled }
  | .activity => { run with activity := .ended .cancelled }

end Run

/-- Where a refresh stands. -/
inductive Stage where
  /-- It has not begun. -/
  | scheduled
  /-- It waits for its fetches. -/
  | fetching (run : Run)
  /-- It is over, but not all of its fetches have ended. -/
  | lingering (run : Run)

/-- A refresh of an account's dashboard. -/
structure Refresh where
  /-- Its number. -/
  id : Nat
  /-- The account. -/
  subject : SubjectId
  /-- Whether it was cancelled. -/
  cancelled : Bool
  /-- Where it stands. -/
  stage : Stage

/-- The fetches of a refresh that has begun. -/
def Refresh.run? (refresh : Refresh) : Option Run :=
  match refresh.stage with
  | .scheduled => none
  | .fetching run => some run
  | .lingering run => some run

/-- The refresh with its fetches changed. -/
def Refresh.withRun (refresh : Refresh) (change : Run → Run) : Refresh :=
  { refresh with
    stage := match refresh.stage with
      | .scheduled => .scheduled
      | .fetching run => .fetching (change run)
      | .lingering run => .lingering (change run) }

/-- Whether a refresh is over and all of its fetches have ended. -/
def Refresh.isDone (refresh : Refresh) : Bool :=
  match refresh.stage with
  | .lingering run => run.allEnded
  | _ => false

end UserDashboard.Dashboard
