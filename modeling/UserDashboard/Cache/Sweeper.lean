/-
This file removes expired entries from a set of stores again and again.

A sweeper ticks once per period, the first time one period after it was started, and on each tick
sweeps every store. A tick that is noticed at most five milliseconds late counts as punctual, and
the next one is due a period after the moment it was due itself. One that is noticed later delays
all that follow: the next is due a period after it was noticed, so however far the clock jumps
there is one late sweep and no burst of them.

The clock moves by whole milliseconds, as the timer does, and a tick is noticed in the first one in
which it is not early.
-/

import UserDashboard.Cache.ExpiringMap

namespace UserDashboard.Cache

open Time

/-- A store whose expired entries can be removed. -/
class Sweepable (S : Type) where
  /-- Removes the expired entries, and says how many. -/
  sweep : Moment → S → Nat × S

instance {K V : Type} [DecidableEq K] : Sweepable (ExpiringMap K V) where
  sweep now map := map.purge now

/-- A store, and how often it was swept. -/
structure Swept (S : Type) where
  /-- The store. -/
  store : S
  /-- How often it was swept. -/
  sweeps : Nat

/-- Sweeps every store once, and says how many entries were removed in all. -/
def sweepAll {S : Type} [Sweepable S] (now : Moment) : List (Swept S) → Nat × List (Swept S)
  | [] => (0, [])
  | target :: targets =>
    let (removed, store) := Sweepable.sweep now target.store
    let (more, rest) := sweepAll now targets
    (removed + more, ⟨store, target.sweeps + 1⟩ :: rest)

/-- The nanoseconds by which a tick may be late and count as punctual. -/
def tolerance : Nat := 5 * nanosPerMilli

/-- When the next tick is due, and how long the periods are. -/
structure Ticker where
  /-- The length of a period. -/
  period : Span
  /-- When the next tick is due. -/
  due : Moment

/-- A ticker started at a moment, if the clock can tell when its first tick is due. -/
def Ticker.start? (period : Span) (now : Moment) : Option Ticker :=
  (later? now period).map fun due => ⟨period, due⟩

/-- The ticker after a tick that was noticed at a moment. -/
def Ticker.next (ticker : Ticker) (now : Moment) : Ticker :=
  { ticker with
    due := (if ticker.due + tolerance < now then now else ticker.due) + ticker.period.nanos }

/-- A sweeper that was started and can be stopped. -/
inductive Handle where
  /-- It waits for its next tick. -/
  | running (ticker : Ticker)
  /-- It has ended. -/
  | finished

/-- Stores, a clock, and the sweeper that was started last, if it has not been given up. -/
structure Sweeping (S : Type) where
  /-- The moment. -/
  now : Moment
  /-- The stores. -/
  targets : List (Swept S)
  /-- The sweeper. -/
  handle : Option Handle

namespace Sweeping

variable {S : Type} [Sweepable S]

/-- Starts a sweeper in place of the one before it, which stops. A period of no length cannot be
kept, nor one whose end the clock cannot tell, and such a sweeper ends at once. -/
def start (sweeping : Sweeping S) (period : Span) : Sweeping S :=
  { sweeping with
    handle := some (match Ticker.start? period sweeping.now with
      | some ticker => if period.nanos = 0 then .finished else .running ticker
      | none => .finished) }

/-- Whether the sweeper has ended. -/
def isFinished? (sweeping : Sweeping S) : Option Bool :=
  sweeping.handle.map fun
    | .running _ => false
    | .finished => true

/-- Sweeps every store now, and says how many entries were removed. -/
def sweepOnce (sweeping : Sweeping S) : Nat × Sweeping S :=
  let (removed, targets) := sweepAll sweeping.now sweeping.targets
  (removed, { sweeping with targets })

/-- Answers a tick now. -/
def tick (sweeping : Sweeping S) (ticker : Ticker) : Sweeping S :=
  { sweeping.sweepOnce.2 with handle := some (.running (ticker.next sweeping.now)) }

/-- Answers the ticks that are due now. Each tick moves the next one by a period; the bound is on
their number. -/
def settle : Nat → Sweeping S → Sweeping S
  | 0, sweeping => sweeping
  | bound + 1, sweeping =>
    match sweeping.handle with
    | some (.running ticker) =>
      if ticker.due ≤ sweeping.now then settle bound (sweeping.tick ticker) else sweeping
    | _ => sweeping

/-- A bound on the ticks that can be answered within a length of time: one for each period, and
those that the tolerance may add. -/
def tickBound (sweeping : Sweeping S) (nanos : Nat) : Nat :=
  match sweeping.handle with
  | some (.running ticker) => (nanos + tolerance) / ticker.period.nanos + 2
  | _ => 0

/-- Lets time pass up to a moment, each tick being answered when it is due. -/
def runUntil (target : Moment) : Nat → Sweeping S → Sweeping S
  | 0, sweeping => { sweeping with now := target }
  | bound + 1, sweeping =>
    match sweeping.handle with
    | some (.running ticker) =>
      let noticed := wakesAt sweeping.now ticker.due
      if noticed ≤ target then runUntil target bound ({ sweeping with now := noticed }.tick ticker)
      else { sweeping with now := target }
    | _ => { sweeping with now := target }

/-- Lets so many nanoseconds pass, or what the timer makes of them. -/
def sleep (sweeping : Sweeping S) (nanos : Nat) : Sweeping S :=
  sweeping.runUntil (sweeping.now + waking nanos) (sweeping.tickBound (waking nanos))

/-- Moves the clock by so many milliseconds in one step, after which the ticks that were passed are
answered. -/
def jump (sweeping : Sweeping S) (millis : Nat) : Sweeping S :=
  { sweeping with now := sweeping.now + (millis * nanosPerMilli : Nat) }.settle
    (sweeping.tickBound (millis * nanosPerMilli))

/-- Stops the sweeper and waits for it to end. It ends as soon as it can run, so no time at all is
the only grace that is too short for one that has not ended. -/
def shutdown (sweeping : Sweeping S) (grace : Nat) : Option Bool × Sweeping S :=
  (sweeping.handle.map fun
      | .running _ => 0 < grace
      | .finished => true,
    { sweeping with handle := none })

/-- Gives the sweeper up, which stops it. -/
def drop (sweeping : Sweeping S) : Sweeping S :=
  { sweeping with handle := none }

end Sweeping

end UserDashboard.Cache
