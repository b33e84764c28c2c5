/-
This file runs refreshes one step at a time against a scripted catalog.

Tasks that can go on wait in a queue and take their turns in the order in which they were woken. A
refresh wakes its fetches, a fetch that ends wakes its refresh, a cancelled refresh wakes the
fetches that wait. When nobody can go on, time passes until the next alarm; alarms for one moment
go off in the order in which they were set, so the deadline of a refresh comes before the timeouts
of its fetches. Everything that happens is a step of the aggregation, and what it makes known goes
to the channel.

Some things are left to chance, and a run brings them with it. A fetch looks at two things when it
is woken, whether its refresh was cancelled and how far its call is, and it may look at either first
and go by what it sees. And what is reported of a task that breaks off says which task that was.

The clock moves by whole milliseconds, as the timer does.
-/

import UserDashboard.Catalog.Scripted
import UserDashboard.Dashboard.Aggregation
import UserDashboard.Dashboard.Broadcast

namespace UserDashboard.Dashboard

open Catalog Time

/-- Something that takes its turn, and the account that it works for. -/
inductive Task where
  /-- A refresh. -/
  | refresh (id : Nat) (subject : SubjectId)
  /-- A fetch of a refresh. -/
  | fetch (id : Nat) (subject : SubjectId) (kind : FetchKind)
  deriving DecidableEq

/-- A call to the catalog that was made. -/
structure Call where
  /-- The refresh it was made for. -/
  id : Nat
  /-- The account that the catalog was asked about. -/
  subject : SubjectId
  /-- The fetch that waits for it. -/
  kind : FetchKind
  /-- How it goes. -/
  course : Course
  /-- What the fetch waits for. -/
  wait : Wait

/-- What is left to chance. -/
structure Chance where
  /-- For each account, whether a fetch whose refresh was cancelled looks at its call first: the
  next such fetch, the one after it, and so on. -/
  callFirst : SubjectId → Nat → Bool
  /-- What is reported of each fetch of a refresh if it breaks off. -/
  reports : Nat → FetchKind → String

/-- A fetch whose refresh was cancelled always looks at that first, and nothing is reported of one
that breaks off. -/
def Chance.plain : Chance :=
  ⟨fun _ _ => false, fun _ _ => ""⟩

/-- Refreshes, their catalog, and who is to go on when. -/
structure Runner where
  /-- The refreshes. -/
  state : Aggregation
  /-- Where events go. -/
  channel : Broadcast Event
  /-- The catalog. -/
  catalog : Scripted
  /-- How long a fetch waits. -/
  timeout : Span
  /-- The tasks that can go on. -/
  ready : List Task
  /-- The calls that fetches wait for. -/
  calls : List Call
  /-- The tasks that are woken later, and when. -/
  alarms : List (Moment × Task)
  /-- For each account, whether a fetch whose refresh was cancelled looks at its call first: the
  next such fetch, the one after it, and so on. -/
  callFirst : SubjectId → Nat → Bool

namespace Runner

/-- Refreshes of which none has been scheduled. -/
def new (state : Aggregation) (catalog : Scripted) (timeout : Span)
    (callFirst : SubjectId → Nat → Bool) : Runner :=
  ⟨state, .new, catalog, timeout, [], [], [], callFirst⟩

/-- The moment. -/
def now (runner : Runner) : Moment :=
  runner.state.now

/-- Takes a step, if it can be taken, and makes known what it makes known. -/
def act? (runner : Runner) (action : Aggregation.Action) : Option Runner :=
  (runner.state.step? action).map fun (state, events) =>
    { runner with
      state
      channel := events.foldl (fun channel event => (channel.send event).2) runner.channel }

/-- Takes a step that can always be taken. -/
def act (runner : Runner) (action : Aggregation.Action) : Runner :=
  (runner.act? action).getD runner

/-- Lets a task go on, once. -/
def wake (runner : Runner) (task : Task) : Runner :=
  if task ∈ runner.ready then runner else { runner with ready := runner.ready ++ [task] }

/-- Wakes a task at a moment. -/
def setAlarm (runner : Runner) (moment : Moment) (task : Task) : Runner :=
  { runner with alarms := runner.alarms ++ [(moment, task)] }

/-- The fetches of a refresh, in the order in which they take their turns. -/
def fetches (id : Nat) (subject : SubjectId) : List Task :=
  [.fetch id subject .statistics, .fetch id subject .listings, .fetch id subject .activity]

/-- Lets those fetches of a refresh go on that wait for the catalog. -/
def wakeWaiting (runner : Runner) (id : Nat) (subject : SubjectId) : Runner :=
  match (runner.state.refresh? id).bind Refresh.run? with
  | none => runner
  | some run =>
    ([.statistics, .listings, .activity].filter run.isWaiting).foldl
      (fun runner kind => runner.wake (.fetch id subject kind)) runner

/-! ### Turns -/

/-- Gives a refresh up if its deadline has passed. -/
def expire (runner : Runner) (id : Nat) (subject : SubjectId) : Runner :=
  match runner.act? (.expire id) with
  | some expired => expired.wakeWaiting id subject
  | none => runner

/-- The turn of a refresh: it begins, or ends, or is given up. -/
def turnOfRefresh (runner : Runner) (id : Nat) (subject : SubjectId) : Runner :=
  match runner.act? (.begin id) with
  | some begun =>
    (((fetches id subject).foldl wake begun).setAlarm (timesOut begun.now begun.state.deadline)
      (.refresh id subject)).expire id subject
  | none =>
    match runner.act? (.conclude id) with
    | some concluded => concluded
    | none => runner.expire id subject

/-- What a fetch does next that looks at its call, if the call or the timeout has ended. -/
def endingAction? (runner : Runner) (call : Call) : Option Aggregation.Action :=
  let statistics := runner.catalog.statistics.plan call.subject
  let listings := runner.catalog.listings.plan call.subject
  match call.kind with
  | .statistics =>
    (call.wait.poll? runner.now (statistics.ending call.course)).map (.endStatistics call.id)
  | .listings =>
    (call.wait.poll? runner.now (listings.ending call.course)).map (.endListings call.id)
  | .activity =>
    (call.wait.poll? runner.now (listings.ending call.course)).map (.endActivity call.id)

/-- Drops the call and the alarm of a fetch that has ended. -/
def forget (runner : Runner) (id : Nat) (subject : SubjectId) (kind : FetchKind) : Runner :=
  { runner with
    calls := runner.calls.filter fun call => ¬(call.id = id ∧ call.kind = kind)
    alarms := runner.alarms.filter fun alarm => alarm.2 ≠ .fetch id subject kind }

/-- Lets a fetch look at its call, and end if it can. -/
def finish (runner : Runner) (call : Call) : Runner :=
  match runner.endingAction? call with
  | some action =>
    ((runner.act action).forget call.id call.subject call.kind).wake (.refresh call.id call.subject)
  | none => runner

/-- Counts a call of a fetch. -/
def count (catalog : Scripted) : FetchKind → Scripted
  | .statistics => { catalog with statistics := catalog.statistics.called }
  | .listings => { catalog with listings := catalog.listings.called }
  | .activity => { catalog with listings := catalog.listings.called }

/-- How calls of a fetch go, and the time until one ends. -/
def courseOf (catalog : Scripted) (subject : SubjectId) : FetchKind → Course × Option Nat
  | .statistics =>
    ((catalog.statistics.plan subject).course, (catalog.statistics.plan subject).delay?)
  | .listings => ((catalog.listings.plan subject).course, (catalog.listings.plan subject).delay?)
  | .activity => ((catalog.listings.plan subject).course, (catalog.listings.plan subject).delay?)

/-- Lets a fetch call the catalog if it has not, and then look at its call. -/
def goOn (runner : Runner) (id : Nat) (subject : SubjectId) (kind : FetchKind) : Runner :=
  match runner.act? (.call id kind) with
  | some called =>
    let (course, delay) := courseOf runner.catalog subject kind
    let call : Call := ⟨id, subject, kind, course, .on runner.now delay runner.timeout⟩
    ({ called with
      catalog := count called.catalog kind
      calls := called.calls ++ [call] }.setAlarm call.wait.wakesAt (.fetch id subject kind)).finish
        call
  | none =>
    match runner.calls.find? fun call => call.id = id ∧ call.kind = kind with
    | some call => runner.finish call
    | none => runner

/-- Lets a fetch look whether its refresh was cancelled, and end if it was. -/
def giveUp (runner : Runner) (id : Nat) (subject : SubjectId) (kind : FetchKind) : Runner :=
  match runner.act? (.abandon id kind) with
  | some abandoned => (abandoned.forget id subject kind).wake (.refresh id subject)
  | none => runner

/-- Settles for an account what was left to chance, once. -/
def draw (runner : Runner) (subject : SubjectId) : Runner :=
  { runner with
    callFirst := fun other number =>
      runner.callFirst other (if other = subject then number + 1 else number) }

/-- The turn of a fetch. If its refresh was cancelled it is left to chance at which of the two it
looks first, the cancelling or its call. -/
def turnOfFetch (runner : Runner) (id : Nat) (subject : SubjectId) (kind : FetchKind) : Runner :=
  if (runner.act? (.abandon id kind)).isNone then runner.goOn id subject kind
  else if runner.callFirst subject 0 then
    ((runner.draw subject).goOn id subject kind).giveUp id subject kind
  else (runner.draw subject).giveUp id subject kind

/-- The turn of a task. -/
def turn (runner : Runner) : Task → Runner
  | .refresh id subject => runner.turnOfRefresh id subject
  | .fetch id subject kind => runner.turnOfFetch id subject kind

/-- Gives so many turns at most. -/
def turns : Nat → Runner → Runner
  | 0, runner => runner
  | bound + 1, runner =>
    match runner.ready with
    | [] => runner
    | task :: rest => turns bound ({ runner with ready := rest }.turn task)

/-- Gives turns until nobody can go on. A refresh takes at most six turns and its fetches take two
each before it is done. -/
def settle (runner : Runner) : Runner :=
  turns (runner.ready.length + 12 * runner.state.refreshes.length) runner

/-! ### Time -/

/-- The first moment of an alarm. -/
def nextAlarm? : List (Moment × Task) → Option Moment
  | [] => none
  | (moment, _) :: rest =>
    match nextAlarm? rest with
    | none => some moment
    | some other => some (min moment other)

/-- Lets time pass up to a moment. -/
def waitUntil (runner : Runner) (moment : Moment) : Runner :=
  runner.act (.wait (moment - runner.now).toNat)

/-- Lets the alarms go off whose moment has come. -/
def ring (runner : Runner) : Runner :=
  let (due, later) := runner.alarms.partition fun (moment, _) => moment ≤ runner.now
  due.foldl (fun runner (_, task) => runner.wake task) { runner with alarms := later }

/-- Lets time pass up to a moment, with so many alarms on the way at most. -/
def runUntil (target : Moment) : Nat → Runner → Runner
  | 0, runner => (runner.waitUntil target).ring.settle
  | bound + 1, runner =>
    match nextAlarm? runner.alarms with
    | some moment =>
      if moment ≤ target then runUntil target bound (runner.waitUntil moment).ring.settle
      else runner.waitUntil target
    | none => runner.waitUntil target

/-- Lets time pass up to a moment. Everything due on the way happens at its own moment. -/
def reach (runner : Runner) (moment : Moment) : Runner :=
  let settled := runner.settle
  settled.runUntil moment settled.alarms.length

/-- Lets so many nanoseconds pass, or what the timer makes of them. -/
def sleep (runner : Runner) (nanos : Nat) : Runner :=
  runner.reach (runner.now + waking nanos)

/-! ### Operations of callers -/

/-- The dashboard of an account, or a placeholder after a refresh was scheduled. -/
def snapshot (runner : Runner) (subject : SubjectId) : Snapshot × Runner :=
  let (snapshot, scheduled, _) := runner.state.snapshot subject
  let runner := runner.act (.snapshot subject)
  (snapshot, match scheduled with
    | some id => runner.wake (.refresh id subject)
    | none => runner)

/-- Looks up the dashboard of an account. -/
def cached (runner : Runner) (subject : SubjectId) : Option Snapshot × Runner :=
  ((runner.state.cached subject).1, runner.act (.cached subject))

/-- Schedules a refresh for an account unless one is in flight, and says whether it did. -/
def schedule (runner : Runner) (subject : SubjectId) : Bool × Runner :=
  let scheduled := (runner.state.schedule subject).1
  let runner := runner.act (.schedule subject)
  match scheduled with
  | some id => (true, runner.wake (.refresh id subject))
  | none => (false, runner)

/-- Forgets the dashboard of an account and cancels the refresh in flight for it. -/
def invalidate (runner : Runner) (subject : SubjectId) : Runner :=
  let flight := runner.state.flight? subject
  let runner := runner.act (.invalidate subject)
  match flight with
  | some id => runner.wakeWaiting id subject
  | none => runner

/-- Removes dashboards that are no longer live, and says how many. -/
def sweep (runner : Runner) : Nat × Runner :=
  (runner.state.sweep.1, runner.act .sweep)

/-- Asks the catalog for all listings of an account and waits for the answer. -/
def fetchListings (runner : Runner) (subject : SubjectId) (timeout : Span) :
    Option (Outcome (List Listing)) × Runner :=
  let plan := runner.catalog.listings.plan subject
  let wait := Wait.on runner.now plan.delay? timeout
  let called := { runner with catalog := count runner.catalog .listings }
  let waited := if wait.wakesAt ≤ runner.now then called else called.reach wait.wakesAt
  let ending := (waited.catalog.listings.plan subject).ending plan.course
  ((wait.poll? wait.wakesAt ending).bind (·.outcome? [] some), waited)

end Runner

end UserDashboard.Dashboard
