/-
This file holds what is made known about dashboards.
-/

import UserDashboard.Identity

namespace UserDashboard.Dashboard

/-- Something that happened to the dashboard of an account. -/
inductive Event where
  /-- A refresh wrote it anew, so many milliseconds after it began. -/
  | refreshed (subject : SubjectId) (elapsed : Nat)
  /-- A refresh ended without a result. -/
  | refreshFailed (subject : SubjectId) (reason : String)
  /-- It was dropped. -/
  | invalidated (subject : SubjectId)
  deriving DecidableEq

/-- The account that the event is about. -/
def Event.subject : Event → SubjectId
  | .refreshed subject _ => subject
  | .refreshFailed subject _ => subject
  | .invalidated subject => subject

end UserDashboard.Dashboard
