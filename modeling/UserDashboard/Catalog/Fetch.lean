/-
This file asks the catalog and waits no longer than a timeout.

A fetch that is answered in time is fresh. One that is not, because the call failed or took too
long, falls back to a default, so whoever asked always has a value and can tell what it is worth.
Each time it is woken it looks for the end of its call first and for that of its timeout second, so
a call that has ended by then was in time.
-/

import UserDashboard.Time.Clock

namespace UserDashboard.Catalog

open Time

/-! ### What a fetch comes to -/

/-- What a fetch comes to. -/
inductive Outcome (α : Type) where
  /-- The catalog's answer. -/
  | fresh (value : α)
  /-- A default in place of an answer. -/
  | fallback (value : α)
  deriving DecidableEq

namespace Outcome

variable {α : Type}

/-- Whether it is the catalog's answer. -/
def isFresh : Outcome α → Bool
  | .fresh _ => true
  | .fallback _ => false

/-- The value, whatever it is worth. -/
def value : Outcome α → α
  | .fresh value => value
  | .fallback value => value

/-- The catalog's answer, if it is one. -/
def fresh? : Outcome α → Option α
  | .fresh value => some value
  | .fallback _ => none

end Outcome

/-- How a call to the catalog ended for someone who waits no longer than a timeout. -/
inductive CallResult (α : Type) where
  /-- It was answered. -/
  | answered (value : α)
  /-- It failed. -/
  | failed
  /-- It took too long. -/
  | timedOut
  /-- It broke off, and whatever waited for it with it. -/
  | crashed
  deriving DecidableEq

/-- What a fetch makes of the end of its call, with what it does to an answer. Nothing comes of a
call that broke off, nor of an answer that cannot be worked on. -/
def CallResult.outcome? {α β : Type} (default : β) (work : α → Option β) :
    CallResult α → Option (Outcome β)
  | .answered value => (work value).map .fresh
  | .failed => some (.fallback default)
  | .timedOut => some (.fallback default)
  | .crashed => none

/-! ### Waiting -/

/-- What a fetch waits for. -/
structure Wait where
  /-- When its call ends, if it does. -/
  callEnds : Option Moment
  /-- When its timeout ends. -/
  givesUp : Moment
  deriving DecidableEq

namespace Wait

/-- How a fetch waits from now on for a call that ends after a delay, or never. -/
def on (now : Moment) (delay : Option Nat) (timeout : Span) : Wait :=
  ⟨delay.map fun delay => now + waking delay, timesOut now timeout⟩

/-- When the fetch is woken, which is when the first of the two ends. -/
def wakesAt (wait : Wait) : Moment :=
  match wait.callEnds with
  | some ends => min ends wait.givesUp
  | none => wait.givesUp

/-- What a fetch finds that looks how far it is, if it is over: first it looks for the end of its
call, and then for that of its timeout. -/
def poll? {α : Type} (wait : Wait) (now : Moment) (ended : CallResult α) : Option (CallResult α) :=
  if wait.callEnds.any (· ≤ now) then some ended
  else if wait.givesUp ≤ now then some .timedOut
  else none

end Wait

end UserDashboard.Catalog
