/-
This file holds moments of the wall clock.

A moment is a number of nanoseconds since the beginning of 1970 in universal time. A timestamp is
a moment together with the distance from universal time at which it is told, so that a text that
was read can be written again as it was. The service's own timestamps are told in universal time.
-/

import UserDashboard.Time.Calendar

namespace UserDashboard.Time

/-- The number of nanoseconds in a second. -/
def nanosPerSecond : Nat := 1000000000

/-- The number of nanoseconds in a millisecond. -/
def nanosPerMilli : Nat := 1000000

/-- A moment, in nanoseconds since the beginning of 1970. -/
abbrev Moment := Int

/-- The moment that lies so many seconds and nanoseconds after the beginning of 1970. -/
def momentAt (seconds : Int) (nanos : Int) : Moment :=
  seconds * nanosPerSecond + nanos

/-- The first second of the year 9999 before the common era, before which there are no dates. -/
def firstSecond : Int := -377705116800

/-- The last second of the year 9999, after which there are no dates. -/
def lastSecond : Int := 253402300799

/-- A moment told at a distance from universal time. -/
structure Timestamp where
  /-- The moment. -/
  moment : Moment
  /-- The minutes by which the clock that tells it is ahead of universal time. -/
  offset : Int
  deriving DecidableEq, Repr

namespace Timestamp

/-- A moment told in universal time. -/
def utc (moment : Moment) : Timestamp :=
  ⟨moment, 0⟩

/-- The moment a number of minutes earlier, told at the same distance from universal time, if it is
not before all dates. -/
def minutesBefore? (timestamp : Timestamp) (minutes : Nat) : Option Timestamp :=
  let moment := timestamp.moment - minutes * 60 * nanosPerSecond
  if firstSecond * nanosPerSecond ≤ moment then some { timestamp with moment } else none

/-- The number of nanoseconds since the beginning of 1970 on the clock that tells the moment. -/
def localNanos (timestamp : Timestamp) : Int :=
  timestamp.moment + timestamp.offset * 60 * nanosPerSecond

/-- The seconds since the beginning of 1970 on the clock that tells the moment. -/
def localSeconds (timestamp : Timestamp) : Int :=
  timestamp.localNanos / nanosPerSecond

/-- The date on the clock that tells the moment. -/
def date (timestamp : Timestamp) : Date :=
  Date.ofDays (timestamp.localSeconds / 86400)

/-- The second of the day on the clock that tells the moment. -/
def secondOfDay (timestamp : Timestamp) : Int :=
  timestamp.localSeconds % 86400

/-- The nanoseconds into the second. -/
def subsecond (timestamp : Timestamp) : Int :=
  timestamp.localNanos % nanosPerSecond

end Timestamp

end UserDashboard.Time
