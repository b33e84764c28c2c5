/-
This file follows the task of a sweeper step by step, and whoever holds its handle.

The task waits for two things at once, its next tick and a change of the signal that comes from the
holder of its handle. When both have come it may answer either first. A sweep is one step, because
the task waits for nothing while it lasts.

The holder may give the handle up, which closes the signal, and a closed signal means stop as well.
Or it stops the sweeper: it sends the signal to stop, and waits for the task to end, but no longer
than a grace. A task that has not ended by then is aborted, and never takes another turn.

Tasks take their turns in any order, and as late as it pleases whoever runs them. The stores are
used by others all the while.
-/

import UserDashboard.Cache.Sweeper

namespace UserDashboard.Cache

open Time

/-! ### The signal -/

/-- What the holder of a handle tells the task. -/
structure Signal where
  /-- Whether it is to stop. -/
  stop : Bool
  /-- Whether the task has yet to see that. -/
  unseen : Bool
  /-- Whether nobody is left to tell it anything. -/
  closed : Bool
  deriving DecidableEq

namespace Signal

/-- Nothing has been told. -/
def quiet : Signal := ⟨false, false, false⟩

/-- Tells the task to stop. -/
def send (signal : Signal) : Signal :=
  { signal with stop := true, unseen := true }

/-- Gives up telling it anything. -/
def close (signal : Signal) : Signal :=
  { signal with closed := true }

/-- Whether a change of the signal means stop, if there is one. What was sent is seen before the
signal is found closed. -/
def change? (signal : Signal) : Option (Bool × Signal) :=
  if signal.unseen then some (signal.stop, { signal with unseen := false })
  else if signal.closed then some (true, signal)
  else none

end Signal

/-! ### The task and the handle -/

/-- How far the task of a sweeper has come. -/
inductive Stage where
  /-- It has not taken its first turn. -/
  | spawned (period : Span)
  /-- It waits for its next tick and for a change of the signal. -/
  | waiting (ticker : Ticker)
  /-- It has ended. -/
  | ended

namespace Stage

/-- Whether the task has ended. -/
def isEnded : Stage → Bool
  | .ended => true
  | .spawned _ | .waiting _ => false

/-- How far the first turn gets at a moment. A period of no length cannot be kept, nor one whose end
the clock cannot tell, and the task ends at once. -/
def first (now : Moment) (period : Span) : Stage :=
  match Ticker.start? period now with
  | some ticker => if period.nanos = 0 then .ended else .waiting ticker
  | none => .ended

end Stage

/-- What became of a handle. -/
inductive Holder where
  /-- Someone has it. -/
  | holding
  /-- Someone has stopped the sweeper, and waits for the task to end until a moment. -/
  | waiting (deadline : Moment)
  /-- Someone has stopped the sweeper, and knows whether the task ended in time. -/
  | answered (clean : Bool)
  /-- It was given up. -/
  | gone
  deriving DecidableEq

/-- Stores, a clock, the task of a sweeper, and its handle. -/
structure Supervision (S : Type) where
  /-- The moment. -/
  now : Moment
  /-- The stores. -/
  targets : List (Swept S)
  /-- How far the task has come. -/
  stage : Stage
  /-- Whether the task was aborted. -/
  aborted : Bool
  /-- What the task is told. -/
  signal : Signal
  /-- What became of the handle. -/
  holder : Holder

namespace Supervision

variable {S : Type}

/-- A sweeper that was just started. -/
def spawn (now : Moment) (targets : List (Swept S)) (period : Span) : Supervision S :=
  ⟨now, targets, .spawned period, false, .quiet, .holding⟩

/-! ### Turns of the task -/

/-- How far the task has come, if it can take a turn. -/
def turn? (state : Supervision S) : Option Stage :=
  if state.aborted then none else some state.stage

/-- Lets the task take its first turn. -/
def begin? (state : Supervision S) : Option (Supervision S) :=
  match state.turn? with
  | some (.spawned period) => some { state with stage := .first state.now period }
  | _ => none

/-- Lets the task answer a tick that is due. -/
def tick? [Sweepable S] (state : Supervision S) : Option (Supervision S) :=
  match state.turn? with
  | some (.waiting ticker) =>
    if ticker.due ≤ state.now then
      some { state with
        targets := (sweepAll state.now state.targets).2
        stage := .waiting (ticker.next state.now) }
    else none
  | _ => none

/-- Lets the task answer a change of the signal. -/
def heed? (state : Supervision S) : Option (Supervision S) :=
  match state.turn? with
  | some (.waiting ticker) =>
    state.signal.change?.map fun (stops, signal) =>
      { state with signal, stage := if stops then .ended else .waiting ticker }
  | _ => none

/-- Lets the task end that was aborted. -/
def cancel? (state : Supervision S) : Option (Supervision S) :=
  if state.aborted ∧ !state.stage.isEnded then some { state with stage := .ended } else none

/-! ### The holder of the handle -/

/-- The holder knows whether the task ended in time, and has no more use for the handle. -/
def answer (state : Supervision S) (clean : Bool) : Supervision S :=
  { state with signal := state.signal.close, holder := .answered clean }

/-- The holder looks whether the task has ended, and if not whether it has waited long enough. -/
def look (state : Supervision S) (deadline : Moment) : Supervision S × Option Bool :=
  if state.stage.isEnded then (state.answer true, some true)
  else if deadline ≤ state.now then ({ state.answer false with aborted := true }, some false)
  else ({ state with holder := .waiting deadline }, none)

/-- The holder stops the sweeper. -/
def shutdown? (state : Supervision S) (grace : Span) : Option (Supervision S × Option Bool) :=
  match state.holder with
  | .holding =>
    some (({ state with signal := state.signal.send }).look (waitsUntil state.now grace))
  | _ => none

/-- The holder looks again that has stopped the sweeper. -/
def look? (state : Supervision S) : Option (Supervision S × Option Bool) :=
  match state.holder with
  | .waiting deadline => some (state.look deadline)
  | _ => none

/-- The holder gives the handle up, whether or not it has stopped the sweeper. -/
def drop? (state : Supervision S) : Option (Supervision S) :=
  match state.holder with
  | .holding | .waiting _ => some { state with signal := state.signal.close, holder := .gone }
  | .answered _ | .gone => none

/-! ### All steps -/

/-- What can happen next. -/
inductive Action (S : Type) where
  /-- Someone uses a store, which becomes another. -/
  | use (index : Nat) (store : S)
  /-- Someone else sweeps. -/
  | sweep
  /-- Time passes. -/
  | wait (nanos : Nat)
  /-- The task takes its first turn. -/
  | begin
  /-- The task answers a tick. -/
  | tick
  /-- The task answers a change of the signal. -/
  | heed
  /-- The task ends because it was aborted. -/
  | cancel
  /-- The holder stops the sweeper. -/
  | shutdown (grace : Span)
  /-- The holder looks whether the task has ended. -/
  | look
  /-- The holder gives the handle up. -/
  | drop

/-- The state after an action, if it can happen, and what the holder knows then that has stopped the
sweeper. -/
def step? [Sweepable S] (state : Supervision S) : Action S → Option (Supervision S × Option Bool)
  | .use index store =>
    some ({ state with targets := state.targets.modify index ({ · with store }) }, none)
  | .sweep => some ({ state with targets := (sweepAll state.now state.targets).2 }, none)
  | .wait nanos => some ({ state with now := state.now + nanos }, none)
  | .begin => state.begin?.map (·, none)
  | .tick => state.tick?.map (·, none)
  | .heed => state.heed?.map (·, none)
  | .cancel => state.cancel?.map (·, none)
  | .shutdown grace => state.shutdown? grace
  | .look => state.look?
  | .drop => state.drop?.map (·, none)

end Supervision

end UserDashboard.Cache
