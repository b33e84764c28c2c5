/-
This file remembers the dashboards of accounts. Placeholders are not remembered.
-/

import UserDashboard.Cache.ExpiringMap
import UserDashboard.Dashboard.Snapshot

namespace UserDashboard.Dashboard

open Cache Time

/-- The dashboards that are remembered. -/
structure SnapshotCache where
  /-- The dashboards by account. -/
  entries : ExpiringMap SubjectId Snapshot

namespace SnapshotCache

/-- A cache that remembers nothing yet. -/
def new (ttl : Span) (maxEntries : Nat) : SnapshotCache :=
  ⟨ExpiringMap.new ttl maxEntries⟩

/-- Looks up the dashboard of an account. -/
def get (cache : SnapshotCache) (now : Moment) (subject : SubjectId) :
    Option Snapshot × SnapshotCache :=
  let (found, entries) := cache.entries.get now subject
  (found, ⟨entries⟩)

/-- Remembers the dashboard of an account unless it is a placeholder, and says whether it did.
There is no answer when the clock cannot tell until when it would be remembered. -/
def put? (cache : SnapshotCache) (now : Moment) (subject : SubjectId) (snapshot : Snapshot) :
    Option (Bool × SnapshotCache) :=
  if snapshot.loading then some (false, cache)
  else (cache.entries.insert? now subject snapshot).map fun entries => (true, ⟨entries⟩)

/-- Forgets the dashboard of an account, and says whether there was one. -/
def invalidate (cache : SnapshotCache) (subject : SubjectId) : Bool × SnapshotCache :=
  let (removed, entries) := cache.entries.remove subject
  (removed, ⟨entries⟩)

/-- Forgets all dashboards. -/
def clear (cache : SnapshotCache) : SnapshotCache :=
  ⟨cache.entries.clear⟩

/-- Removes what is no longer live, and says how many entries that were. -/
def sweep (cache : SnapshotCache) (now : Moment) : Nat × SnapshotCache :=
  let (removed, entries) := cache.entries.purge now
  (removed, ⟨entries⟩)

/-- The name under which sweeps are reported. -/
def sweepName : String := "dashboard"

/-- What is reported at a moment. -/
def stats (cache : SnapshotCache) (now : Moment) : Stats :=
  cache.entries.stats now

end SnapshotCache

end UserDashboard.Dashboard
