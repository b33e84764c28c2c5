/-
This file hands each event to every receiver that was there when it happened.

A channel remembers the newest events, as many as its capacity, which is the next power of two
above the number asked for. A receiver that takes its events too late has lost the oldest: it is
told how many it skipped, and then gets the newest ones the channel still holds.
-/
namespace UserDashboard.Dashboard

/-- Events, and how far each receiver has read. -/
structure Broadcast (E : Type) where
  /-- How many events are remembered. -/
  capacity : Nat
  /-- How many events were sent. -/
  sent : Nat
  /-- The newest events, the oldest of them first. -/
  recent : List E
  /-- For each receiver the number of the event it takes next, and nothing once it has left. -/
  receivers : List (Option Nat)

/-- What a receiver takes. -/
inductive Received (E : Type) where
  /-- An event. -/
  | event (event : E)
  /-- Events that were lost because the receiver came too late. -/
  | lagged (skipped : Nat)
  deriving DecidableEq

/-- The smallest power of two that is not below a number. The first argument bounds the search. -/
def powerAbove : Nat → Nat → Nat → Nat
  | 0, power, _ => power
  | bound + 1, power, number => if number ≤ power then power else powerAbove bound (2 * power) number

namespace Broadcast

variable {E : Type}

/-- A channel without receivers. There is no channel that remembers nothing. -/
def new? (capacity : Nat) : Option (Broadcast E) :=
  if capacity = 0 then none else some ⟨powerAbove 64 1 capacity, 0, [], []⟩

/-- A channel with the usual capacity. -/
def new : Broadcast E :=
  ⟨256, 0, [], []⟩

/-- The number of receivers that have not left. -/
def receiverCount (channel : Broadcast E) : Nat :=
  channel.receivers.countP Option.isSome

/-- Adds a receiver for the events from now on, and gives its number. -/
def subscribe (channel : Broadcast E) : Nat × Broadcast E :=
  (channel.receivers.length, { channel with receivers := channel.receivers ++ [some channel.sent] })

/-- Lets a receiver leave. -/
def unsubscribe (channel : Broadcast E) (receiver : Nat) : Broadcast E :=
  { channel with receivers := channel.receivers.set receiver none }

/-- Sends an event, and says how many receivers there were. With none it is forgotten. -/
def send (channel : Broadcast E) (event : E) : Nat × Broadcast E :=
  let count := channel.receiverCount
  if count = 0 then (0, channel)
  else
    let recent := channel.recent ++ [event]
    (count, { channel with
      sent := channel.sent + 1
      recent := recent.drop (recent.length - channel.capacity) })

/-- Takes all that a receiver has not taken yet, or nothing if it has left. -/
def drain (channel : Broadcast E) (receiver : Nat) : Option (List (Received E)) × Broadcast E :=
  match channel.receivers[receiver]?.join with
  | none => (none, channel)
  | some position =>
    let pending := channel.sent - position
    let lost := pending - channel.capacity
    let events := channel.recent.drop (channel.recent.length - pending)
    (some ((if lost = 0 then [] else [.lagged lost]) ++ events.map .event),
      { channel with receivers := channel.receivers.set receiver (some channel.sent) })

end Broadcast

end UserDashboard.Dashboard
