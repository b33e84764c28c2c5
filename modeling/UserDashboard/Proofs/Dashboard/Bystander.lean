/-
This file proves that an account is a bystander in all that a runner does for others.

The tasks of an account, its calls and its alarms stay in their order while tasks of other accounts
take their turns, and so they do when callers read, ask for or invalidate other accounts. What is
made known meanwhile is about others.
-/

import UserDashboard.Proofs.Dashboard.Errand
import UserDashboard.Proofs.Dashboard.Untouched

namespace UserDashboard.Dashboard

open Aggregation Catalog Time

namespace Broadcast

variable {E : Type} {channel : Broadcast E} {events : List E}

/-- The channel after some events were sent. -/
def sendAll (channel : Broadcast E) (events : List E) : Broadcast E :=
  events.foldl (fun channel event => (channel.send event).2) channel

theorem sendAll_append (channel : Broadcast E) (first second : List E) :
    channel.sendAll (first ++ second) = (channel.sendAll first).sendAll second :=
  List.foldl_append

/-- An event is not forgotten when somebody receives it. -/
theorem send_of_received (received : channel.receiverCount ≠ 0) (event : E) :
    (channel.send event).2 = { channel with
      sent := channel.sent + 1
      recent := (channel.recent ++ [event]).drop
        ((channel.recent ++ [event]).length - channel.capacity) } := by
  unfold send
  rw [if_neg received]

theorem sent_sendAll (received : channel.receiverCount ≠ 0) (events : List E) :
    (channel.sendAll events).sent = channel.sent + events.length := by
  induction events generalizing channel with
  | nil => rfl
  | cons event rest inductionHypothesis =>
    show ((channel.send event).2.sendAll rest).sent = _
    have next := send_of_received received event
    rw [inductionHypothesis (next ▸ received), next, List.length_cons, Nat.add_right_comm,
      ← Nat.add_assoc]

/-- The newest events are remembered, as many as the channel has room for. -/
theorem recent_sendAll (received : channel.receiverCount ≠ 0)
    (within : channel.recent.length ≤ channel.capacity) :
    (channel.sendAll events).recent =
      (channel.recent ++ events).drop ((channel.recent ++ events).length - channel.capacity) := by
  induction events generalizing channel with
  | nil => rw [List.append_nil, Nat.sub_eq_zero_of_le within]; rfl
  | cons event rest inductionHypothesis =>
    have next := send_of_received received event
    let all := channel.recent ++ [event]
    let dropped := all.length - channel.capacity
    have few : dropped ≤ all.length := Nat.sub_le _ _
    have fits : (channel.send event).2.recent.length ≤ (channel.send event).2.capacity := by
      rw [next]
      show (all.drop (all.length - channel.capacity)).length ≤ channel.capacity
      rw [List.length_drop]
      omega
    show ((channel.send event).2.sendAll rest).recent = _
    rw [inductionHypothesis (next ▸ received) fits, next]
    show (all.drop dropped ++ rest).drop ((all.drop dropped ++ rest).length - channel.capacity) = _
    rw [← List.drop_append_of_le_length few, List.drop_drop, List.append_cons]
    congr 1
    show dropped + (((all ++ rest).drop dropped).length - channel.capacity) =
      (all ++ rest).length - channel.capacity
    rw [List.length_drop, List.length_append]
    omega

/-- A channel on which nothing has been sent yet, with someone who listens. -/
def listened (capacity : Nat) : Broadcast E :=
  (subscribe ⟨capacity, 0, [], []⟩).2

theorem received_listened (capacity : Nat) : (listened capacity : Broadcast E).receiverCount ≠ 0 :=
  Nat.one_ne_zero

theorem sent_listened (capacity : Nat) (events : List E) :
    ((listened capacity).sendAll events).sent = events.length :=
  (sent_sendAll (received_listened capacity) events).trans (Nat.zero_add _)

theorem recent_listened (capacity : Nat) (events : List E) :
    ((listened capacity).sendAll events).recent = events.drop (events.length - capacity) :=
  recent_sendAll (received_listened capacity) (Nat.zero_le _)

end Broadcast

namespace Runner

variable {runner next after start : Runner} {action : Aggregation.Action} {id : Nat}
  {subject other : SubjectId} {task : Task} {accounts : List SubjectId}

/-- The tasks of an account that can go on. -/
def readyOf (runner : Runner) (subject : SubjectId) : List Task :=
  runner.ready.filter (·.subject = subject)

/-- The calls for an account. -/
def callsOf (runner : Runner) (subject : SubjectId) : List Call :=
  runner.calls.filter (·.subject = subject)

/-- The alarms for an account. -/
def alarmsOf (runner : Runner) (subject : SubjectId) : List (Moment × Task) :=
  runner.alarms.filter (·.2.subject = subject)

/-- Nothing has happened to an account, and what was made known is about others. -/
structure Untouched (subject : SubjectId) (runner after : Runner) : Prop where
  state : Aggregation.Untouched subject runner.state after.state
  timeout : after.timeout = runner.timeout
  statistics : after.catalog.statistics.plan subject = runner.catalog.statistics.plan subject
  listings : after.catalog.listings.plan subject = runner.catalog.listings.plan subject
  ready : after.readyOf subject = runner.readyOf subject
  calls : after.callsOf subject = runner.callsOf subject
  alarms : after.alarmsOf subject = runner.alarmsOf subject
  chance : after.callFirst subject = runner.callFirst subject
  told : ∃ events, after.channel = runner.channel.sendAll events ∧
    ∀ event ∈ events, event.subject ≠ subject

namespace Untouched

theorem refl (subject : SubjectId) (runner : Runner) : Untouched subject runner runner :=
  ⟨.refl _ _, rfl, rfl, rfl, rfl, rfl, rfl, rfl, [], rfl, nofun⟩

theorem trans (first : Untouched subject runner next) (second : Untouched subject next after) :
    Untouched subject runner after where
  state := first.state.trans second.state
  timeout := second.timeout.trans first.timeout
  statistics := second.statistics.trans first.statistics
  listings := second.listings.trans first.listings
  ready := second.ready.trans first.ready
  calls := second.calls.trans first.calls
  alarms := second.alarms.trans first.alarms
  chance := second.chance.trans first.chance
  told := by
    obtain ⟨events, sent, foreign⟩ := first.told
    obtain ⟨others, sentLater, foreignToo⟩ := second.told
    refine ⟨events ++ others, ?_, List.forall_mem_append.mpr ⟨foreign, foreignToo⟩⟩
    rw [sentLater, sent, Broadcast.sendAll_append]

/-- A step that touches the account in nothing. -/
theorem of_act? (acted : runner.act? action = some after)
    (still : ∀ state events, runner.state.step? action = some (state, events) →
      Aggregation.Untouched subject runner.state state ∧
        ∀ event ∈ events, event.subject ≠ subject) : Untouched subject runner after := by
  obtain ⟨⟨state, events⟩, taken, rfl⟩ := Option.map_eq_some_iff.mp acted
  obtain ⟨untouched, foreign⟩ := still state events taken
  exact ⟨untouched, rfl, rfl, rfl, rfl, rfl, rfl, rfl, events, rfl, foreign⟩

theorem wake (runner : Runner) (different : task.subject ≠ subject) :
    Untouched subject runner (runner.wake task) := by
  unfold Runner.wake
  split
  · exact refl subject runner
  · exact ⟨.refl _ _, rfl, rfl, rfl, filter_snoc_of_neg (by simpa using different), rfl, rfl, rfl,
      [], rfl, nofun⟩

theorem setAlarm (runner : Runner) (different : task.subject ≠ subject) (moment : Moment) :
    Untouched subject runner (runner.setAlarm moment task) :=
  ⟨.refl _ _, rfl, rfl, rfl, rfl, rfl, filter_snoc_of_neg (by simpa using different), rfl, [], rfl,
    nofun⟩

/-- Forgetting a call of another account. -/
theorem forget (others : ∀ call ∈ runner.calls, call.id = id → call.subject ≠ subject)
    (different : other ≠ subject) (kind : FetchKind) :
    Untouched subject runner (runner.forget id other kind) := by
  refine ⟨.refl _ _, rfl, rfl, rfl, rfl, ?_, ?_, rfl, [], rfl, nofun⟩
  · unfold callsOf Runner.forget
    rw [List.filter_comm]
    refine List.filter_eq_self.mpr fun call own => decide_eq_true fun dropped => ?_
    obtain ⟨made, account⟩ := List.mem_filter.mp own
    exact others call made dropped.1 (of_decide_eq_true account)
  · unfold alarmsOf Runner.forget
    rw [List.filter_comm]
    refine List.filter_eq_self.mpr fun alarm own => decide_eq_true fun dropped => different ?_
    obtain ⟨-, account⟩ := List.mem_filter.mp own
    rw [← of_decide_eq_true account, dropped]
    rfl

theorem ask {call : Call} (runner : Runner) (different : call.subject ≠ subject) :
    Untouched subject runner { runner with calls := runner.calls ++ [call] } :=
  ⟨.refl _ _, rfl, rfl, rfl, rfl, filter_snoc_of_neg (by simpa using different), rfl, rfl, [], rfl,
    nofun⟩

theorem count (runner : Runner) (kind : FetchKind) :
    Untouched subject runner { runner with catalog := Runner.count runner.catalog kind } := by
  refine ⟨.refl _ _, rfl, ?_, ?_, rfl, rfl, rfl, rfl, [], rfl, nofun⟩ <;> cases kind <;> rfl

/-- Settling for another account what was left to chance. -/
theorem draw (runner : Runner) (different : other ≠ subject) :
    Untouched subject runner (runner.draw other) := by
  refine ⟨.refl _ _, rfl, rfl, rfl, rfl, rfl, rfl, ?_, [], rfl, nofun⟩
  funext number
  show runner.callFirst subject (if subject = other then number + 1 else number) = _
  rw [if_neg (Ne.symm different)]

end Untouched

/-! ### Turns of tasks of others -/

/-- Whatever a task of another account does in its turn, the account is not touched. -/
theorem Does.untouched (does : Does id other start runner) (housed : start.state.Housed accounts)
    (owns : start.state.Owns other id)
    (made : ∀ call ∈ start.calls, call.id = id → call.subject = other)
    (different : other ≠ subject) : Untouched subject start runner := by
  -- The calls for the refresh stay those of its account, and its number stays that of it.
  suffices all : Untouched subject start runner ∧
      (∀ call ∈ runner.calls, call.id = id → call.subject = other) from all.1
  have firm : ∀ {runner : Runner}, Does id other start runner →
      runner.state.Housed accounts ∧ runner.state.Owns other id := by
    intro runner does
    refine does.state (P := fun state => state.Housed accounts ∧ state.Owns other id) ?_
      ⟨housed, owns⟩
    intro state after action events actor taken kept
    exact ⟨kept.1.act actor taken, kept.2.change kept.1.orderly (change_of_step taken)⟩
  induction does with
  | nothing => exact ⟨.refl _ _, made⟩
  | acts before actor acted inductionHypothesis =>
    obtain ⟨untouched, made⟩ := inductionHypothesis
    obtain ⟨housed, owns⟩ := firm before
    obtain ⟨-, -, -, -, calls⟩ := of_act? acted
    refine ⟨untouched.trans (.of_act? acted fun state events taken => ?_), calls ▸ made⟩
    have changed := change_of_step taken
    exact ⟨changed.untouched housed actor owns different, fun event told =>
      changed.subject_of_event actor owns event told ▸ different⟩
  | @wakes runner task before number account inductionHypothesis =>
    obtain ⟨untouched, made⟩ := inductionHypothesis
    refine ⟨untouched.trans (.wake _ (account ▸ different)), ?_⟩
    rw [(wakes_wake runner task).calls]
    exact made
  | sets before number account inductionHypothesis =>
    obtain ⟨untouched, made⟩ := inductionHypothesis
    exact ⟨untouched.trans (.setAlarm _ (account ▸ different) _), made⟩
  | @forgets runner kind before inductionHypothesis =>
    obtain ⟨untouched, made⟩ := inductionHypothesis
    refine ⟨untouched.trans (.forget ?_ different kind), fun call kept => ?_⟩
    · exact fun call there own => made call there own ▸ different
    · exact made call (List.mem_filter.mp kept).1
  | asks before number account inductionHypothesis =>
    obtain ⟨untouched, made⟩ := inductionHypothesis
    refine ⟨untouched.trans (.ask _ (account ▸ different)), fun call there own => ?_⟩
    rcases List.mem_append.mp there with old | new
    · exact made call old own
    · rw [List.mem_singleton.mp new]
      exact account
  | counts before inductionHypothesis =>
    obtain ⟨untouched, made⟩ := inductionHypothesis
    exact ⟨untouched.trans (.count _ _), made⟩
  | draws before inductionHypothesis =>
    obtain ⟨untouched, made⟩ := inductionHypothesis
    exact ⟨untouched.trans (.draw _ different), made⟩

end Runner

end UserDashboard.Dashboard
