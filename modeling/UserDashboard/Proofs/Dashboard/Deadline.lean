/-
This file proves that refreshes are over when their deadline passes and leave nothing behind.

Callers, the catalog and the clock may do what they like, calls that never end and leaps over many
alarms included. When nobody can go on, every refresh that is there is in flight, was not cancelled,
and waits for its fetches until its deadline, which is still to come; and every call that was made
is one that such a refresh waits for. So nothing is left of a refresh that wrote its dashboard, was
given up or was cancelled.

The flights are those of these refreshes and of refreshes that broke off, because the clock could
not tell until when their dashboard would be remembered. Such a flight is nobody's, and no deadline
ends it.
-/

import UserDashboard.Proofs.Dashboard.Errand
import UserDashboard.Proofs.Dashboard.Stranding

namespace UserDashboard.Dashboard

open Aggregation Catalog Time

/-- A refresh waits for its fetches, was not cancelled, and has patience for longer than until some
moment. -/
def Refresh.InTime (refresh : Refresh) (now : Moment) (patience : Moment → Moment) : Prop :=
  refresh.cancelled = false ∧ ∃ run, refresh.stage = .fetching run ∧ now < patience run.startedAt

namespace Aggregation

variable {start state : Aggregation} {moves : List Move} {id : Nat}

theorem deadline_of_trace (trace : Trace step? start moves state) :
    state.deadline = start.deadline := by
  induction trace with
  | nil => rfl
  | snoc trace taken inductionHypothesis =>
    exact (change_of_step taken).deadline.trans inductionHypothesis

/-- Nobody is left behind while the clock can tell until when a dashboard would be remembered. -/
theorem not_stranded (trace : Trace step? start moves state)
    (told : (later? state.now start.ttl).isSome) : ¬Stranded moves id := by
  rintro ⟨move, member, strands⟩
  obtain ⟨earlier, later, rfl⟩ := List.append_of_mem member
  obtain ⟨before, taken, after⟩ := trace.split
  have onward := onward_of_trace (after.cons taken)
  have could := later?_isSome_of_le onward.time told
  rw [← (onward_of_trace before).ttl, strands.untold] at could
  cases could

end Aggregation

namespace Runner

variable {runner : Runner}

theorem inHand_new {state : Aggregation} (orderly : Orderly state) (idle : state.refreshes = [])
    (catalog : Scripted) (timeout : Span) (callFirst : SubjectId → Nat → Bool) :
    (new state catalog timeout callFirst).InHand := by
  have nobody : ∀ refresh, refresh ∉ (new state catalog timeout callFirst).state.refreshes := by
    show ∀ refresh, refresh ∉ state.refreshes
    rw [idle]
    exact fun refresh => List.not_mem_nil
  refine ⟨attributed_new state orderly catalog timeout callFirst, ?_,
    fun call => List.not_mem_nil.elim, ?_⟩
  · exact fun refresh present => absurd present (nobody refresh)
  · exact fun refresh present => absurd present (nobody refresh)

/-- When nobody can go on, every refresh that is there is in flight and in time. -/
theorem InHand.inTime (inHand : runner.InHand) (settled : runner.ready = []) {refresh : Refresh}
    (present : refresh ∈ runner.state.refreshes) :
    (refresh.subject, refresh.id) ∈ runner.state.flights ∧
      refresh.InTime runner.now runner.patience := by
  have attends := inHand.attended refresh present
  have nobody : ∀ task, task ∉ runner.ready := by
    rw [settled]
    exact fun task => List.not_mem_nil
  have rests : ¬refresh.IsDue runner.now runner.patience := fun due =>
    nobody _ (attends.due refresh present rfl due)
  have fetches : ∀ kind, ¬refresh.IsFetchDue kind := fun kind due =>
    nobody _ (attends.fetchDue refresh present rfl kind List.not_mem_nil due)
  obtain ⟨current, run, fetching, early⟩ := inHand.lingering.waits present rests fetches
  have running : refresh.isRunning := by rw [Refresh.isRunning, fetching]
  exact ⟨inHand.attributed.orderly.held refresh present running current, current, run, fetching,
    early⟩

/-- What is left of refreshes when nobody can go on. -/
structure Bounded (moves : List Move) (runner : Runner) (deadline ttl : Span) : Prop where
  /-- Nobody can go on. -/
  settled : runner.ready = []
  /-- Every refresh that is there is in flight and in time. -/
  timely : ∀ refresh ∈ runner.state.refreshes,
    (refresh.subject, refresh.id) ∈ runner.state.flights ∧
      refresh.InTime runner.now fun startedAt => waitsUntil startedAt deadline
  /-- If the clock can tell the moment, the deadline has not passed since any of them began. -/
  bounded : (later? runner.now .zero).isSome → ∀ refresh ∈ runner.state.refreshes,
    refresh.InTime runner.now fun startedAt => startedAt + deadline.nanos
  /-- Every call that was made is waited for by a fetch of a refresh that is there. -/
  awaited : ∀ call ∈ runner.calls, ∃ refresh ∈ runner.state.refreshes,
    refresh.id = call.id ∧ refresh.subject = call.subject ∧
      ∃ run, refresh.run? = some run ∧ run.isWaiting call.kind
  /-- A flight is that of a refresh that is there unless its refresh broke off. -/
  manned : ∀ flight ∈ runner.state.flights,
    (∃ refresh ∈ runner.state.refreshes, (refresh.subject, refresh.id) = flight) ↔
      ¬Stranded moves flight.2
  /-- None breaks off while the clock can tell until when a dashboard would be remembered. -/
  told : (later? runner.now ttl).isSome → ∀ id, ¬Stranded moves id

/-- Whatever is done, in any order, refreshes are bounded by their deadline and leave nothing
behind. -/
theorem refreshes_bounded (now : Moment) (recentLimit maxEntries : Nat) (ttl timeout : Span)
    {deadline : Span} {millis : Nat} (whole : deadline.nanos = millis * nanosPerMilli)
    (reports : Nat → FetchKind → String) (callFirst : SubjectId → Nat → Bool) (catalog : Scripted)
    (errands : List Errand) :
    let start := new (.new now recentLimit deadline reports (.new ttl maxEntries)) catalog timeout
      callFirst
    let runner := (errands.foldl perform start).settle
    ∃ moves, Trace step? start.state moves runner.state ∧ Bounded moves runner deadline ttl := by
  intro start runner
  have first : Orderly start.state := .new _ _ _ _ _
  have begun : start.InHand := inHand_new first rfl catalog timeout callFirst
  obtain ⟨kept, moves, trace⟩ := begun.performAll errands
  obtain ⟨inHand, settled⟩ := kept.settle
  obtain ⟨others, rest⟩ := (Leads.refl kept.attributed).settle.trace
  have states := trace.append rest
  have orderly := inHand.attributed.orderly
  have patience : runner.patience = fun startedAt => waitsUntil startedAt deadline := by
    funext startedAt
    rw [Runner.patience, deadline_of_trace states]
    exact timesOut_of_millis whole
  have timely : ∀ refresh ∈ runner.state.refreshes,
      (refresh.subject, refresh.id) ∈ runner.state.flights ∧
        refresh.InTime runner.now fun startedAt => waitsUntil startedAt deadline := by
    rw [← patience]
    exact fun refresh present => inHand.inTime settled present
  refine ⟨_, states, settled, timely, ?_, ?_, ?_, fun told id => not_stranded states told⟩
  · intro tells refresh present
    obtain ⟨-, current, run, fetching, early⟩ := timely refresh present
    exact ⟨current, run, fetching, lt_of_lt_waitsUntil tells early⟩
  · intro call made
    obtain ⟨refresh, present, number, waits⟩ := inHand.calling call made
    exact ⟨refresh, present, number,
      (inHand.attributed.calls call made).owner refresh present number, waits⟩
  · intro flight taken
    rw [← goesOn_iff_not_stranded first (fun flight taken => by cases taken) states taken]
    constructor
    · rintro ⟨refresh, present, rfl⟩
      obtain ⟨-, -, run, fetching, -⟩ := timely refresh present
      exact ⟨refresh, present, rfl, by rw [Refresh.isRunning, fetching]⟩
    · rintro ⟨refresh, present, number, -⟩
      obtain ⟨account, -⟩ := orderly.owned flight taken refresh present number
      exact ⟨refresh, present, Prod.ext account number⟩

/-- A catalog that never says anything about how much an account has. -/
def hanging : Scripted :=
  { Scripted.new with statistics := ⟨fun _ => ⟨.zero, .hang, 0⟩, 0⟩ }

/-- Two refreshes wait for such a catalog for longer than they may. The first is over when the
second has a second left. -/
theorem refreshes_bounded_of_hanging :
    ∃ runner : Runner, runner.now = 9000000000 ∧ runner.state.flights = [(⟨8⟩, 2)] ∧
      runner.calls.map Call.id = [2] ∧
      (runner.state.refreshes.map fun refresh => refresh.run?.map Run.startedAt) =
        [some 5000000000] ∧
      ∀ refresh ∈ runner.state.refreshes,
        refresh.InTime runner.now fun startedAt => startedAt + (5000000000 : Nat) := by
  have whole : (⟨5000000000, by decide⟩ : Span).nanos = 5000 * nanosPerMilli := by decide
  obtain ⟨moves, -, bounded⟩ := refreshes_bounded 0 2 10 (.ofSeconds 60) (.ofSeconds 7) whole
    (fun _ _ => "") (fun _ _ => false) hanging
    [.read ⟨7⟩, .sleep 5000000000, .ask ⟨8⟩, .take 10, .jump 4000]
  refine ⟨_, ?_, ?_, ?_, ?_, bounded.bounded ?_⟩
  all_goals decide +kernel

/-- Dashboards that are to be remembered for longer than the clock can tell. -/
def lasting : Runner :=
  new (.new 0 2 ⟨5000000000, by decide⟩ (fun _ _ => "")
    (.new (.ofSeconds 18446744073709551615) 10)) .new (.ofSeconds 3) fun _ _ => false

/-- A refresh of such a dashboard that is in flight from the first moment on still is five seconds
after its deadline, when it is nobody's flight. -/
theorem unbounded_of_lasting :
    let early := ([Errand.read ⟨7⟩].foldl perform lasting).settle
    let late := ([Errand.read ⟨7⟩, .sleep 10000000000].foldl perform lasting).settle
    (early.ready = [] ∧ early.now = 0 ∧ (⟨7⟩, 1) ∈ early.state.flights) ∧
      late.ready = [] ∧ late.now = 10000000000 ∧ (⟨7⟩, 1) ∈ late.state.flights ∧
      ∀ refresh ∈ late.state.refreshes, refresh.id ≠ 1 := by
  decide +kernel

end Runner

end UserDashboard.Dashboard
