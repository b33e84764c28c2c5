/-
This file holds a catalog that follows a script.

It says for each kind of call and each account what the answer is, how long it takes and whether
there is one at all. How a call goes is settled when it is made; what it answers is read when it
ends, so a value that changes in between is answered as it then is.
-/

import UserDashboard.Catalog.Fetch
import UserDashboard.Catalog.Listing
import UserDashboard.Catalog.Statistics

namespace UserDashboard.Catalog

open Time

/-- How a call goes. -/
inductive Course where
  /-- It is answered. -/
  | answer
  /-- It fails. -/
  | fail
  /-- It never ends. -/
  | hang
  /-- It breaks off. -/
  | crash
  deriving DecidableEq, Repr

/-- How calls of one kind for an account go. -/
structure Plan (α : Type) where
  /-- The answer. -/
  value : α
  /-- How calls go. -/
  course : Course
  /-- The nanoseconds they take. -/
  delay : Nat

namespace Plan

variable {α : Type}

/-- The time until a call ends, if it does. -/
def delay? (plan : Plan α) : Option Nat :=
  match plan.course with
  | .hang => none
  | _ => some plan.delay

/-- The end of a call that went some course, as the plan now stands. -/
def ending (plan : Plan α) : Course → CallResult α
  | .answer => .answered plan.value
  | .fail => .failed
  | .hang => .timedOut
  | .crash => .crashed

/-- A fetch that begins at a moment and that nothing interferes with: when it is woken, and what it
finds then. -/
def fetch (plan : Plan α) (now : Moment) (timeout : Span) : Moment × Option (CallResult α) :=
  let wait := Wait.on now plan.delay? timeout
  (wait.wakesAt, wait.poll? wait.wakesAt (plan.ending plan.course))

end Plan

/-- The script of one kind of call. -/
structure Script (α : Type) where
  /-- How calls for each account go. -/
  plan : SubjectId → Plan α
  /-- How many were made. -/
  calls : Nat

/-- The script after one more call. -/
def Script.called {α : Type} (script : Script α) : Script α :=
  { script with calls := script.calls + 1 }

/-- A catalog that follows a script. -/
structure Scripted where
  /-- The calls for statistics. -/
  statistics : Script Statistics
  /-- The calls for listings. -/
  listings : Script (List Listing)

/-- A catalog that knows nothing and says so at once. -/
def Scripted.new : Scripted :=
  ⟨⟨fun _ => ⟨.zero, .answer, 0⟩, 0⟩, ⟨fun _ => ⟨[], .answer, 0⟩, 0⟩⟩

end UserDashboard.Catalog
