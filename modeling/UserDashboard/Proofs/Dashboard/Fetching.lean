/-
This file proves that whoever asks the catalog has a value in the end and waits no longer than the
timeout.

There are four fetches: of the statistics of an account, of its newest listings, of its activity,
and of all its listings. They wait alike, and differ in what they make of an answer and what they
fall back to. A fetch may be woken as often as one likes; what it comes to is settled by when the
call and the timeout end. Timers go by whole milliseconds, so both end in the first whole
millisecond that is not too early, and when that is the same one, the call is in time.
-/

import UserDashboard.Proofs.Catalog.Waiting
import UserDashboard.Proofs.Dashboard.Deadline
import UserDashboard.Proofs.Dashboard.Selection
import UserDashboard.Proofs.Dashboard.Unison

namespace UserDashboard

open Catalog Time

namespace Dashboard

/-! ### The four fetches -/

/-- What can be fetched from the catalog. -/
inductive Fetcher where
  /-- The statistics of an account. -/
  | statistics
  /-- Its newest listings, so many at most. -/
  | newestListings (limit : Nat)
  /-- The activity told from them at a moment. -/
  | activity (limit : Nat) (generatedAt : Timestamp)
  /-- All its listings. -/
  | allListings

namespace Fetcher

/-- What the catalog answers. -/
def Answer : Fetcher → Type
  | .statistics => Statistics
  | .newestListings _ | .activity _ _ | .allListings => List Listing

/-- What is made of the answer. -/
def Product : Fetcher → Type
  | .statistics => Statistics
  | .activity _ _ => List Activity
  | .newestListings _ | .allListings => List Listing

/-- How the call goes. -/
def plan (catalog : Scripted) (subject : SubjectId) : (fetcher : Fetcher) → Plan fetcher.Answer
  | .statistics => catalog.statistics.plan subject
  | .newestListings _ | .activity _ _ | .allListings => catalog.listings.plan subject

/-- What stands in for a missing answer. -/
def default : (fetcher : Fetcher) → fetcher.Product
  | .statistics => Statistics.zero
  | .newestListings _ | .activity _ _ | .allListings => []

/-- Makes something of an answer. -/
def work? : (fetcher : Fetcher) → fetcher.Answer → Option fetcher.Product
  | .statistics, answer => some answer
  | .newestListings limit, answer => some (recentListings limit answer)
  | .activity limit generatedAt, answer => recentActivity? limit generatedAt answer
  | .allListings, answer => some answer

/-- What a fetch comes to that begins at a moment and is woken at one moment after another: when it
finds that it is over, and what it makes of that. -/
def fetch (fetcher : Fetcher) (catalog : Scripted) (subject : SubjectId) (timeout : Span)
    (now : Moment) (woken : List Moment) : Option (Moment × Option (Outcome fetcher.Product)) :=
  let plan := fetcher.plan catalog subject
  ((Wait.on now plan.delay? timeout).over? (plan.ending plan.course) woken).map
    fun (moment, result) => (moment, result.outcome? fetcher.default fetcher.work?)

/-- There are dates for all moments that are made up for an answer. -/
def HasDates : (fetcher : Fetcher) → fetcher.Answer → Prop
  | .activity limit generatedAt, answer =>
    Dashboard.HasDates generatedAt (recentListings limit answer).length
  | .statistics, _ | .newestListings _, _ | .allListings, _ => True

/-- What a fetch is to come to: what is made of the answer if the call is answered in time, and
else the default. -/
structure Yields (fetcher : Fetcher) (plan : Plan fetcher.Answer) (timeout : Span) (now : Moment)
    (outcome : Outcome fetcher.Product) : Prop where
  fresh : plan.Timely now timeout →
    ∃ product, fetcher.work? plan.value = some product ∧ outcome = .fresh product
  fallback : ¬plan.Timely now timeout → outcome = .fallback fetcher.default
  known : outcome.fresh?.isSome ↔ plan.Timely now timeout

variable {fetcher : Fetcher} {plan : Plan fetcher.Answer} {catalog : Scripted}
  {subject : SubjectId} {timeout : Span} {now : Moment} {woken : List Moment}

/-- What can be made of an answer is made, if there are dates enough. -/
theorem exists_product {answer : fetcher.Answer} (dated : fetcher.HasDates answer) :
    ∃ product, fetcher.work? answer = some product := by
  cases fetcher with
  | activity limit generatedAt => exact ⟨_, recentActivity?_eq_some_iff.mpr ⟨dated, rfl⟩⟩
  | statistics | newestListings | allListings => exact ⟨_, rfl⟩

/-- Whatever a call comes to that does not break off, something is made of it. -/
theorem exists_yields (ends : plan.course ≠ .crash) (dated : fetcher.HasDates plan.value) :
    ∃ outcome, (plan.fetch now timeout).2.bind (·.outcome? fetcher.default fetcher.work?) =
        some outcome ∧ fetcher.Yields plan timeout now outcome := by
  by_cases timely : plan.Timely now timeout
  · obtain ⟨product, made⟩ := exists_product dated
    refine ⟨.fresh product, ?_, fun _ => ⟨product, made, rfl⟩, absurd timely, fun _ => timely,
      fun _ => rfl⟩
    rw [Plan.fetch_of_timely timely, Option.bind_some, CallResult.outcome?, made, Option.map_some]
  · have told : (plan.fetch now timeout).2.bind (·.outcome? fetcher.default fetcher.work?) =
        some (.fallback fetcher.default) := by
      rcases Plan.fetch_of_not_timely ends timely with failed | timedOut
      · rw [failed, Option.bind_some, CallResult.outcome?]
      · rw [timedOut, Option.bind_some, CallResult.outcome?]
    exact ⟨.fallback fetcher.default, told, fun early => absurd early timely, fun _ => rfl,
      (by intro isFresh; cases isFresh), fun early => absurd early timely⟩

/-- A fetch that is woken when the call or the timeout ends is over then. -/
theorem fetch_eq (ordered : woken.Pairwise (· ≤ ·))
    (wakes : (fetcher.plan catalog subject).endsAt now timeout ∈ woken) :
    fetcher.fetch catalog subject timeout now woken =
      some ((fetcher.plan catalog subject).endsAt now timeout,
        ((fetcher.plan catalog subject).fetch now timeout).2.bind
          (·.outcome? fetcher.default fetcher.work?)) := by
  rw [← Plan.wakesAt_eq] at wakes
  unfold fetch
  dsimp only
  rw [Wait.over?_eq ordered wakes, Plan.wakesAt_eq, Plan.poll?_eq, Plan.fetch_eq]
  rfl

end Fetcher

/-! ### Waiting for the listings -/

namespace Runner

variable {runner : Runner} {target : Moment}

/-- Time passes up to the moment that was asked for, whatever happens on the way. -/
theorem InHand.now_runUntil (inHand : runner.InHand) (ahead : runner.now ≤ target) (bound : Nat) :
    (Runner.runUntil target bound runner).now = target := by
  have arrives : (runner.waitUntil target).now = target := by
    rw [waitUntil_now]
    exact Int.max_eq_right ahead
  induction bound generalizing runner with
  | zero => exact (inHand.now_stop target).trans (Int.max_eq_right ahead)
  | succ bound inductionHypothesis =>
    cases next : nextAlarm? runner.alarms with
    | none => simpa only [Runner.runUntil, next] using arrives
    | some moment =>
      by_cases within : moment ≤ target
      · rw [runUntil_succ_of_some next within]
        have stopped : (runner.stop moment).now ≤ target := by
          rw [inHand.now_stop]
          exact Int.max_le.mpr ⟨ahead, within⟩
        refine inductionHypothesis (inHand.ring moment).settle.1 stopped ?_
        rw [waitUntil_now]
        exact Int.max_eq_right stopped
      · simpa only [Runner.runUntil, next, if_neg within] using arrives

theorem InHand.now_reach (inHand : runner.InHand) (ahead : runner.now ≤ target) :
    (runner.reach target).now = target :=
  inHand.settle.1.now_runUntil (inHand.now_settle.symm ▸ ahead) _

/-- Whoever asks for the listings of an account has waited until the call or the timeout has
ended. -/
theorem InHand.now_fetchListings (inHand : runner.InHand) (subject : SubjectId) (timeout : Span) :
    (runner.fetchListings subject timeout).2.now =
      (runner.catalog.listings.plan subject).endsAt runner.now timeout := by
  have counted : { runner with catalog := count runner.catalog .listings }.InHand :=
    inHand.instruct _
  have ahead := (runner.catalog.listings.plan subject).le_endsAt runner.now timeout
  rw [← Plan.wakesAt_eq] at ahead ⊢
  unfold Runner.fetchListings
  dsimp only
  split
  · rename_i past
    exact Int.le_antisymm ahead past
  · exact counted.now_reach ahead

end Runner

/-! ### Fetches never fail and never overrun -/

/-- A fetch always comes to something, in time. Whatever is fetched for whichever account, however
the call goes unless it breaks off, and provided there are dates for the moments that are made up,
the fetch is over when the call or the timeout ends, and comes to what is made of the answer if the
call is answered in time, and to the default if not. It may be woken before that as often as one
likes. Where delay and timeout are whole milliseconds that is after exactly the lesser of them, but
for timeouts whose end the clock cannot tell, which are of thirty years. And whatever was done with
a runner before, asking it for listings is such a fetch, and it is then when that is over. -/
theorem fetches_bounded :
    (∀ (fetcher : Fetcher) (catalog : Scripted) (subject : SubjectId) (timeout : Span)
        (now : Moment) (woken : List Moment),
      let plan := fetcher.plan catalog subject
      plan.course ≠ .crash → fetcher.HasDates plan.value →
      woken.Pairwise (· ≤ ·) → plan.endsAt now timeout ∈ woken →
      (∃ outcome, fetcher.fetch catalog subject timeout now woken =
          some (plan.endsAt now timeout, some outcome) ∧
        fetcher.Yields plan timeout now outcome) ∧
      ∀ delay limit, plan.delay = delay * nanosPerMilli → timeout.nanos = limit * nanosPerMilli →
        let patience := if (later? now timeout).isSome then timeout.nanos else farOff
        plan.endsAt now timeout = now + (plan.delay?.map (min · patience)).getD patience ∧
          (plan.Timely now timeout ↔ plan.course = .answer ∧ plan.delay ≤ patience)) ∧
    ∀ now recentLimit maxEntries ttl deadline patience catalog (chance : Chance)
        (errands : List Errand) subject timeout,
      let start := Runner.new (.new now recentLimit deadline chance.reports (.new ttl maxEntries))
        catalog patience chance.callFirst
      let runner := errands.foldl Runner.perform start
      let plan := runner.catalog.listings.plan subject
      plan.course ≠ .crash →
      (∃ outcome, (runner.fetchListings subject timeout).1 = some outcome ∧
        Fetcher.allListings.Yields plan timeout runner.now outcome) ∧
      (runner.fetchListings subject timeout).2.now = plan.endsAt runner.now timeout := by
  constructor
  · intro fetcher catalog subject timeout now woken plan ends dated ordered wakes
    obtain ⟨outcome, came, yields⟩ := Fetcher.exists_yields ends dated
    exact ⟨⟨outcome, by rw [Fetcher.fetch_eq ordered wakes, came], yields⟩,
      fun delay limit whole wholeToo => Plan.endsAt_of_millis whole wholeToo⟩
  · intro now recentLimit maxEntries ttl deadline patience catalog chance errands subject timeout
      start runner plan ends
    have begun : start.InHand := Runner.inHand_new (.new _ _ _ _ _) rfl catalog patience _
    have inHand : runner.InHand := (begun.performAll errands).1
    have dated : Fetcher.allListings.HasDates plan.value := trivial
    obtain ⟨outcome, came, yields⟩ : ∃ outcome,
        (plan.fetch runner.now timeout).2.bind (·.outcome? [] some) = some outcome ∧
          Fetcher.allListings.Yields plan timeout runner.now outcome :=
      Fetcher.exists_yields ends dated
    refine ⟨⟨outcome, ?_, yields⟩, inHand.now_fetchListings subject timeout⟩
    rw [runner.fetchListings_fst inHand.attributed]
    exact came

/-- A catalog that tells of two listings after so many nanoseconds. -/
def tellingAfter (delay : Nat) : Scripted :=
  ⟨⟨fun _ => ⟨.zero, .answer, 0⟩, 0⟩, ⟨fun _ => ⟨[⟨1, "Ring", none, none, none, none, none⟩,
    ⟨2, "Lamp", none, none, none, none, none⟩], .answer, delay⟩, 0⟩⟩

theorem length_tellingAfter (delay : Nat) :
    (recentListings 5 ((tellingAfter delay).listings.plan ⟨7⟩).value).length = 2 := by
  rw [recentListings, List.length_take, List.length_mergeSort]
  rfl

/-- An answer that comes a millisecond after the call is in time for a timeout that is a nanosecond
shorter, and the fetch takes longer than the timeout. An answer that comes after 31 years is too
late for a timeout that is much longer, as the clock cannot tell its end. And nothing comes of
activity at the beginning of all dates. -/
theorem late_answer_fresh :
    (let plan := Fetcher.allListings.plan (tellingAfter 1000000) ⟨7⟩;
      plan.course = .answer ∧ 999999 < plan.delay ∧
        Fetcher.allListings.fetch (tellingAfter 1000000) ⟨7⟩ ⟨999999, by decide⟩ 0 [1000000] =
          some (1000000, some (.fresh plan.value))) ∧
      (let delay := 31 * 365 * 86400 * nanosPerSecond
        let plan := Fetcher.allListings.plan (tellingAfter delay) ⟨7⟩
        plan.course = .answer ∧ plan.delay < (Span.ofSeconds 18446744073709551615).nanos ∧
          Fetcher.allListings.fetch (tellingAfter delay) ⟨7⟩ (.ofSeconds 18446744073709551615) 0
            [farOff, delay] = some ((farOff : Moment), some (.fallback []))) ∧
      (Fetcher.activity 5 (.utc (firstSecond * nanosPerSecond))).fetch (tellingAfter 1000000) ⟨7⟩
        ⟨2000000, by decide⟩ 0 [1000000] = some (1000000, none) := by
  have nothing : recentActivity? 5 (.utc (firstSecond * nanosPerSecond))
      ((tellingAfter 1000000).listings.plan ⟨7⟩).value = none := by
    rw [Option.eq_none_iff_forall_not_mem]
    intro records told
    obtain ⟨dated, -⟩ := recentActivity?_eq_some_iff.mp told
    rw [length_tellingAfter] at dated
    exact absurd dated (by decide)
  refine ⟨⟨rfl, by decide, rfl⟩, ⟨rfl, by decide, rfl⟩, ?_⟩
  exact congrArg (fun product => some ((1000000 : Moment), product.map Outcome.fresh)) nothing

/-- The activity is told from listings that come in time, although the fetch is woken before, and
whoever asks for the listings while a refresh is in flight has waited for a millisecond. -/
theorem fetches_bounded_of_slow :
    (∃ outcome, (Fetcher.activity 5 (.utc 0)).fetch (tellingAfter 1000000) ⟨7⟩
        ⟨2000000, by decide⟩ 0 [999999, 1000000, 2000000] = some (1000000, some outcome) ∧
          outcome.isFresh) ∧
      ∃ runner : Runner, runner.state.flight? ⟨7⟩ = some 1 ∧
        (runner.fetchListings ⟨7⟩ ⟨2000000, by decide⟩).2.now = 1000005 := by
  obtain ⟨fetches, listings⟩ := fetches_bounded
  constructor
  · let fetcher : Fetcher := .activity 5 (.utc 0)
    let plan := fetcher.plan (tellingAfter 1000000) ⟨7⟩
    have dated : fetcher.HasDates plan.value := by
      show Dashboard.HasDates (.utc 0)
        (recentListings 5 ((tellingAfter 1000000).listings.plan ⟨7⟩).value).length
      rw [length_tellingAfter]
      decide
    have early : plan.Timely 0 ⟨2000000, by decide⟩ := ⟨rfl, by decide⟩
    have ends : plan.endsAt 0 ⟨2000000, by decide⟩ = 1000000 := by decide
    obtain ⟨⟨outcome, came, yields⟩, -⟩ := fetches fetcher (tellingAfter 1000000) ⟨7⟩
      ⟨2000000, by decide⟩ 0 [999999, 1000000, 2000000] (by decide) dated (by decide) (by decide)
    obtain ⟨product, -, same⟩ := yields.fresh early
    exact ⟨outcome, came.trans (by rw [ends]), by rw [same]; rfl⟩
  · obtain ⟨-, passed⟩ := listings 5 5 10 ⟨300000000000, by decide⟩ ⟨3000000000, by decide⟩
      ⟨2000000, by decide⟩ (tellingAfter 1000000) .plain [.ask ⟨7⟩] ⟨7⟩
      ⟨2000000, by decide⟩ (by decide)
    exact ⟨_, by decide, passed⟩

end Dashboard

end UserDashboard
