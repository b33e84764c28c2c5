/-
This file holds the refreshing of dashboards as a system of small steps.

Whoever reads a dashboard gets what is remembered, or a placeholder, and in that case a refresh is
scheduled unless one is in flight. A refresh is in flight from when it is scheduled until it is
over or the account is invalidated; the flight table has at most one refresh for each account. When
all its fetches were answered in time it writes the dashboard, provided it is still the one in
flight and was not cancelled. In all other cases it writes nothing.

A step is an operation of a caller, the passing of time, or one thing that a refresh or one of its
fetches does next. The steps of different refreshes may follow each other in any order. What a step
makes known is given with it.
-/

import UserDashboard.Dashboard.Event
import UserDashboard.Dashboard.Feed
import UserDashboard.Dashboard.Refresh
import UserDashboard.Dashboard.SnapshotCache

namespace UserDashboard.Dashboard

open Catalog Time

/-- Dashboards and the refreshes under way. -/
structure Aggregation where
  /-- The moment. -/
  now : Moment
  /-- How many listings and records a dashboard shows. -/
  recentLimit : Nat
  /-- How long a refresh may take. -/
  deadline : Span
  /-- What is reported of each fetch of a refresh if it breaks off. It is not settled here: it tells
  which task that was, as numbered by whoever runs it. -/
  reports : Nat → FetchKind → String
  /-- The dashboards that are remembered. -/
  snapshots : SnapshotCache
  /-- The number of the next refresh. -/
  nextId : Nat
  /-- The number of the refresh in flight for each account that has one. -/
  flights : List (SubjectId × Nat)
  /-- The refreshes that are not over, and those with fetches that have not ended. -/
  refreshes : List Refresh

namespace Aggregation

/-- No dashboards and no refreshes. -/
def new (now : Moment) (recentLimit : Nat) (deadline : Span)
    (reports : Nat → FetchKind → String) (snapshots : SnapshotCache) : Aggregation :=
  ⟨now, recentLimit, deadline, reports, snapshots, 1, [], []⟩

/-! ### Parts of the state -/

/-- The number of the refresh in flight for an account. -/
def flight? (state : Aggregation) (subject : SubjectId) : Option Nat :=
  (state.flights.find? (·.1 = subject)).map (·.2)

/-- The refresh of a number. -/
def refresh? (state : Aggregation) (id : Nat) : Option Refresh :=
  state.refreshes.find? (·.id = id)

/-- The state with the refresh of a number changed. -/
def modify (state : Aggregation) (id : Nat) (change : Refresh → Refresh) : Aggregation :=
  { state with
    refreshes := state.refreshes.map fun refresh =>
      if refresh.id = id then change refresh else refresh }

/-- The state without refreshes that are over and whose fetches have ended. -/
def tidy (state : Aggregation) : Aggregation :=
  { state with refreshes := state.refreshes.filter fun refresh => !refresh.isDone }

/-- The state with no refresh in flight for an account. -/
def release (state : Aggregation) (subject : SubjectId) : Aggregation :=
  { state with flights := state.flights.filter (·.1 ≠ subject) }

/-- The state with no refresh in flight for the account of a refresh, if it is this one. -/
def releaseOwn (state : Aggregation) (refresh : Refresh) : Aggregation :=
  if state.flight? refresh.subject = some refresh.id then state.release refresh.subject else state

/-! ### Operations of callers -/

/-- Looks up the dashboard of an account. -/
def cached (state : Aggregation) (subject : SubjectId) : Option Snapshot × Aggregation :=
  let (found, snapshots) := state.snapshots.get state.now subject
  (found, { state with snapshots })

/-- Schedules a refresh for an account unless one is in flight, and gives its number if it did. A
number is used up in either case. -/
def schedule (state : Aggregation) (subject : SubjectId) : Option Nat × Aggregation :=
  let id := state.nextId
  let state := { state with nextId := id + 1 }
  match state.flight? subject with
  | some _ => (none, state)
  | none =>
    (some id, { state with
      flights := state.flights ++ [(subject, id)]
      refreshes := state.refreshes ++ [⟨id, subject, false, .scheduled⟩] })

/-- The dashboard of an account, or a placeholder after a refresh was scheduled. The number is that
of a refresh that was not in flight before. -/
def snapshot (state : Aggregation) (subject : SubjectId) :
    Snapshot × Option Nat × Aggregation :=
  match state.cached subject with
  | (some snapshot, state) => (snapshot, none, state)
  | (none, state) =>
    let (id, state) := state.schedule subject
    (.placeholder state.now, id, state)

/-- Forgets the dashboard of an account and cancels the refresh in flight for it. -/
def invalidate (state : Aggregation) (subject : SubjectId) : Aggregation :=
  let cancelled :=
    match state.flight? subject with
    | none => state
    | some id => (state.release subject).modify id ({ · with cancelled := true })
  { cancelled with snapshots := (cancelled.snapshots.invalidate subject).2 }

/-- Removes dashboards that are no longer live, and says how many. -/
def sweep (state : Aggregation) : Nat × Aggregation :=
  let (removed, snapshots) := state.snapshots.sweep state.now
  (removed, { state with snapshots })

/-! ### Steps of refreshes -/

/-- Lets a scheduled refresh begin. -/
def begin? (state : Aggregation) (id : Nat) : Option Aggregation :=
  match state.refresh? id with
  | some ⟨_, _, _, .scheduled⟩ =>
    some (state.modify id ({ · with stage := .fetching (.start state.now) }))
  | _ => none

/-- Lets a fetch call the catalog. -/
def call? (state : Aggregation) (id : Nat) (kind : FetchKind) : Option Aggregation :=
  match (state.refresh? id).bind Refresh.run? with
  | some run =>
    if run.isUnstarted kind then some (state.modify id (·.withRun (·.call kind))) else none
  | none => none

/-- Lets a fetch end because its refresh was cancelled. -/
def abandon? (state : Aggregation) (id : Nat) (kind : FetchKind) : Option Aggregation :=
  match state.refresh? id with
  | some refresh =>
    match refresh.run? with
    | some run =>
      if refresh.cancelled ∧ (run.isUnstarted kind ∨ run.isWaiting kind) then
        some (state.modify id (·.withRun (·.abandon kind))).tidy
      else none
    | none => none
  | none => none

/-- Lets the fetch of the statistics go on after its call ended. -/
def endStatistics? (state : Aggregation) (id : Nat) (result : CallResult Statistics) :
    Option Aggregation :=
  match (state.refresh? id).bind Refresh.run? with
  | some run =>
    if run.isWaiting .statistics then
      let ending := Ending.ofCall .zero some result
      some (state.modify id (·.withRun ({ · with statistics := .ended ending }))).tidy
    else none
  | none => none

/-- Lets the fetch of the newest listings go on after its call ended. -/
def endListings? (state : Aggregation) (id : Nat) (result : CallResult (List Listing)) :
    Option Aggregation :=
  match (state.refresh? id).bind Refresh.run? with
  | some run =>
    if run.isWaiting .listings then
      let newest := fun listings => some (recentListings state.recentLimit listings)
      let ending := Ending.ofCall [] newest result
      some (state.modify id (·.withRun ({ · with listings := .ended ending }))).tidy
    else none
  | none => none

/-- Lets the fetch of the activity go on after its call ended. -/
def endActivity? (state : Aggregation) (id : Nat) (result : CallResult (List Listing)) :
    Option Aggregation :=
  match (state.refresh? id).bind Refresh.run? with
  | some run =>
    if run.isWaiting .activity then
      let ending := Ending.ofCall [] (recentActivity? state.recentLimit (.utc run.startedAt)) result
      some (state.modify id (·.withRun ({ · with activity := .ended ending }))).tidy
    else none
  | none => none

/-- The milliseconds since a moment. -/
def elapsedSince (state : Aggregation) (startedAt : Moment) : Nat :=
  (state.now - startedAt).toNat / nanosPerMilli

/-- Writes the dashboard of a refresh whose fetches were all answered in time, if it is still in
flight and was not cancelled. When the clock cannot tell until when the dashboard would be
remembered the refresh breaks off: nothing is made known, and it stays in flight for ever. -/
def commit (state : Aggregation) (refresh : Refresh) (startedAt : Moment) (snapshot : Snapshot) :
    Aggregation × List Event :=
  if state.flight? refresh.subject = some refresh.id ∧ refresh.cancelled = false then
    match state.snapshots.put? state.now refresh.subject snapshot with
    | some (_, snapshots) =>
      (({ state with snapshots }).release refresh.subject,
        [.refreshed refresh.subject (state.elapsedSince startedAt)])
    | none => (state, [])
  else (state, [.refreshFailed refresh.subject DashboardError.cancelled.message])

/-- Gives up a refresh for a reason. -/
def fail (state : Aggregation) (refresh : Refresh) (error : DashboardError) :
    Aggregation × List Event :=
  (state.releaseOwn refresh, [.refreshFailed refresh.subject error.message])

/-- Lets a refresh end after all its fetches have ended. -/
def conclude? (state : Aggregation) (id : Nat) : Option (Aggregation × List Event) :=
  match state.refresh? id with
  | some refresh =>
    match refresh.stage with
    | .fetching run =>
      (run.result? (state.reports id)).map fun result =>
        let (state, events) :=
          match result with
          | .ok snapshot => state.commit refresh run.startedAt snapshot
          | .error error => state.fail refresh error
        ((state.modify id ({ · with stage := .lingering run })).tidy, events)
    | _ => none
  | none => none

/-- Gives up a refresh whose deadline has passed. What is left of it is cancelled. -/
def expire? (state : Aggregation) (id : Nat) : Option (Aggregation × List Event) :=
  match state.refresh? id with
  | some refresh =>
    match refresh.stage with
    | .fetching run =>
      if waitsUntil run.startedAt state.deadline ≤ state.now then
        let (state, events) := state.fail refresh (.aggregationTimeout state.deadline)
        some ((state.modify id ({ · with cancelled := true, stage := .lingering run })).tidy, events)
      else none
    | _ => none
  | none => none

/-! ### All steps -/

/-- What can happen next. -/
inductive Action where
  /-- Someone reads a dashboard. -/
  | snapshot (subject : SubjectId)
  /-- Someone looks a dashboard up. -/
  | cached (subject : SubjectId)
  /-- Someone asks for a refresh. -/
  | schedule (subject : SubjectId)
  /-- Someone invalidates an account. -/
  | invalidate (subject : SubjectId)
  /-- Dashboards that are no longer live are removed. -/
  | sweep
  /-- Time passes. -/
  | wait (nanos : Nat)
  /-- A refresh begins. -/
  | begin (id : Nat)
  /-- A fetch calls the catalog. -/
  | call (id : Nat) (kind : FetchKind)
  /-- A fetch ends because its refresh was cancelled. -/
  | abandon (id : Nat) (kind : FetchKind)
  /-- The fetch of the statistics goes on. -/
  | endStatistics (id : Nat) (result : CallResult Statistics)
  /-- The fetch of the newest listings goes on. -/
  | endListings (id : Nat) (result : CallResult (List Listing))
  /-- The fetch of the activity goes on. -/
  | endActivity (id : Nat) (result : CallResult (List Listing))
  /-- A refresh ends. -/
  | conclude (id : Nat)
  /-- A refresh is given up because its deadline has passed. -/
  | expire (id : Nat)

/-- The state after an action and what it makes known, if the action can happen. -/
def step? (state : Aggregation) : Action → Option (Aggregation × List Event)
  | .snapshot subject => some ((state.snapshot subject).2.2, [])
  | .cached subject => some ((state.cached subject).2, [])
  | .schedule subject => some ((state.schedule subject).2, [])
  | .invalidate subject => some (state.invalidate subject, [.invalidated subject])
  | .sweep => some (state.sweep.2, [])
  | .wait nanos => some ({ state with now := state.now + nanos }, [])
  | .begin id => (state.begin? id).map (·, [])
  | .call id kind => (state.call? id kind).map (·, [])
  | .abandon id kind => (state.abandon? id kind).map (·, [])
  | .endStatistics id result => (state.endStatistics? id result).map (·, [])
  | .endListings id result => (state.endListings? id result).map (·, [])
  | .endActivity id result => (state.endActivity? id result).map (·, [])
  | .conclude id => state.conclude? id
  | .expire id => state.expire? id

end Aggregation

end UserDashboard.Dashboard
