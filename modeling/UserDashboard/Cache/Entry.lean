/-
This file holds the entries of the caches: a value, when it was stored, and when it stops being
live. An entry is no longer live at the very moment of its expiry.
-/

import UserDashboard.Time.Clock

namespace UserDashboard.Cache

open Time

/-- A stored value with the time it may be used. -/
structure Entry (V : Type) where
  /-- The value. -/
  value : V
  /-- When it was stored. -/
  createdAt : Moment
  /-- When it stops being live. -/
  expiresAt : Moment
  deriving DecidableEq

/-- Whether an entry is no longer live. -/
def Entry.isExpired {V : Type} (entry : Entry V) (now : Moment) : Bool :=
  entry.expiresAt ≤ now

/-- An entry is live exactly before its expiry. -/
theorem Entry.isExpired_eq_false_iff {V : Type} {entry : Entry V} {now : Moment} :
    entry.isExpired now = false ↔ now < entry.expiresAt := by
  simp [Entry.isExpired]

end UserDashboard.Cache
