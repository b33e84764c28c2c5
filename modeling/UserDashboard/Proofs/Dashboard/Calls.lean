/-
This file counts the calls of a refresh to the catalog.

A refresh that has begun asks the catalog for statistics once and for listings twice, once to show
the newest and once to tell the activity. A fetch that has called does not call again, whatever
becomes of the call and of its refresh, so no refresh ever asks more.
-/

import UserDashboard.Proofs.Dashboard.Progress

namespace UserDashboard.Dashboard

open Catalog

/-- What the catalog can be asked about an account. -/
inductive Question where
  | statistics
  | listings
  deriving DecidableEq

/-- What a fetch asks the catalog. -/
def question : FetchKind → Question
  | .statistics => .statistics
  | .listings => .listings
  | .activity => .listings

/-- Whether an action is the call of a fetch. -/
def Aggregation.Action.isCall (action : Aggregation.Action) (id : Nat) (kind : FetchKind) : Bool :=
  match action with
  | .call caller called => caller = id ∧ called = kind
  | _ => false

/-- Whether a refresh asks the catalog a question in an action. -/
def Aggregation.Action.asks (action : Aggregation.Action) (id : Nat) (asked : Question) : Bool :=
  match action with
  | .call caller called => caller = id ∧ question called = asked
  | _ => false

theorem Aggregation.Action.isCall_iff {action : Aggregation.Action} {id : Nat} {kind : FetchKind} :
    action.isCall id kind ↔ action = .call id kind := by
  cases action <;> simp [isCall]

/-- Only the fetch of the statistics asks for statistics. -/
theorem Aggregation.Action.asks_statistics (action : Aggregation.Action) (id : Nat) :
    action.asks id .statistics = action.isCall id .statistics := by
  unfold asks isCall
  split
  · rename_i caller called
    cases called <;> simp [question]
  · rfl

/-- The fetches of the newest listings and of the activity ask for listings. -/
theorem Aggregation.Action.asks_listings (action : Aggregation.Action) (id : Nat) :
    action.asks id .listings = (action.isCall id .listings || action.isCall id .activity) := by
  unfold asks isCall
  split
  · rename_i caller called
    cases called <;> simp [question]
  · rfl

namespace Aggregation

variable {start state after : Aggregation} {action : Action} {events : List Event}
  {moves : List Move} {id : Nat} {kind : FetchKind}

/-! ### A fetch calls once -/

/-- A refresh of a number was scheduled, and if it is still there its fetch has called or ended. -/
def Called (state : Aggregation) (id : Nat) (kind : FetchKind) : Prop :=
  id < state.nextId ∧ ∀ refresh ∈ state.refreshes, refresh.id = id →
    ∃ run, refresh.run? = some run ∧ run.isUnstarted kind = false

/-- Fetches do not go back to their beginning. -/
theorem Fetching.isUnstarted_eq_false {refresh : Refresh} {run : Run} {change : Run → Run}
    (fetching : Fetching state refresh run action change) (called : run.isUnstarted kind = false) :
    (change run).isUnstarted kind = false := by
  cases fetching with
  | @calls other => cases other <;> cases kind <;> simp_all [Run.call, Run.isUnstarted]
  | @abandons other => cases other <;> cases kind <;> simp_all [Run.abandon, Run.isUnstarted]
  | endsStatistics => cases kind <;> simp_all [Run.isUnstarted]
  | endsListings => cases kind <;> simp_all [Run.isUnstarted]
  | endsActivity => cases kind <;> simp_all [Run.isUnstarted]

theorem Called.change (called : Called state id kind) (orderly : Orderly state)
    (changed : Change state action events after) : Called after id kind := by
  refine ⟨Nat.lt_of_lt_of_le called.1 changed.onward.numbers, ?_⟩
  intro refresh member number
  rcases changed.progress orderly member with ⟨old, present, progress⟩ | ⟨subject, -, -, rfl⟩
  · obtain ⟨run, begun, started⟩ := called.2 old present (progress.id_eq ▸ number)
    cases progress with
    | rests => exact ⟨run, begun, started⟩
    | begins acts scheduled => simp [Refresh.run?, scheduled] at begun
    | moves other fetching =>
      rw [begun] at other
      rw [← Option.some.inj other] at fetching
      exact ⟨_, run?_withRun _ begun, fetching.isUnstarted_eq_false started⟩
    | ends acts fetching =>
      simp only [Refresh.run?, fetching, Option.some.injEq] at begun
      exact ⟨_, rfl, begun ▸ started⟩
  · exact absurd number (Nat.ne_of_gt called.1)

theorem unstarted_of_call (changed : Change state (.call id kind) events after) :
    ∃ refresh run, state.refresh? id = some refresh ∧ refresh.run? = some run ∧
      run.isUnstarted kind := by
  cases changed with
  | quiet nobody => cases nobody
  | declined wanted => cases wanted
  | scheduled wanted => cases wanted
  | fetched found begun fetching =>
    cases fetching with
    | calls unstarted => exact ⟨_, _, found, begun, unstarted⟩
  | givenUp found fetching reason => cases reason

theorem not_called_of_call (changed : Change state (.call id kind) events after) :
    ¬Called state id kind := by
  intro called
  obtain ⟨refresh, run, found, begun, unstarted⟩ := unstarted_of_call changed
  obtain ⟨present, number⟩ := mem_refreshes_of_refresh? found
  obtain ⟨other, same, started⟩ := called.2 refresh present number
  rw [begun] at same
  rw [← Option.some.inj same, unstarted] at started
  cases started

/-- Who calls has called from then on. -/
theorem called_of_call (orderly : Orderly state)
    (changed : Change state (.call id kind) events after) : Called after id kind := by
  obtain ⟨caller, run, found, -, -⟩ := unstarted_of_call changed
  obtain ⟨present, same⟩ := mem_refreshes_of_refresh? found
  have given : id < state.nextId := same ▸ orderly.numbered caller present
  refine ⟨Nat.lt_of_lt_of_le given changed.onward.numbers, ?_⟩
  intro refresh member number
  rcases changed.progress orderly member with ⟨old, -, progress⟩ | ⟨subject, wanted, -⟩
  · cases progress with
    | rests others => exact absurd (congrArg some number.symm) others
    | begins acts => cases acts
    | moves begun fetching =>
      cases fetching with
      | calls => exact ⟨_, run?_withRun _ begun, by cases kind <;> rfl⟩
    | ends acts => rcases acts with acts | acts <;> cases acts
  · cases wanted

/-! ### Counting -/

theorem countP_or_le {α : Type} (first second : α → Bool) (members : List α) :
    members.countP (fun member => first member || second member) ≤
      members.countP first + members.countP second := by
  induction members with
  | nil => exact Nat.zero_le _
  | cons member rest inductionHypothesis =>
    simp only [List.countP_cons]
    cases first member <;> cases second member <;> simp <;> omega

/-- No fetch calls twice. -/
theorem isCall_countP_le_one (orderly : Orderly start)
    (trace : Trace step? start moves state) (id : Nat) (kind : FetchKind) :
    moves.countP (·.action.isCall id kind) ≤ 1 := by
  have ordered := (trace.pairwise
    (fun move state => move.action.isCall id kind → Called state id kind)
    (fun move member calls => by
      obtain ⟨kept, changed⟩ := orderly.of_move trace member
      rw [Action.isCall_iff.mp calls] at changed
      exact called_of_call kept changed)
    (fun earlier move member called calls => by
      obtain ⟨kept, changed⟩ := orderly.of_move trace member
      exact (called calls).change kept changed)).1
  refine countP_le_one (ordered.imp_of_mem ?_)
  intro earlier later _ member called calls again
  obtain ⟨kept, changed⟩ := orderly.of_move trace member
  rw [Action.isCall_iff.mp again] at changed
  exact not_called_of_call changed (called calls)

theorem asks_statistics_countP_le (orderly : Orderly start)
    (trace : Trace step? start moves state) (id : Nat) :
    moves.countP (·.action.asks id .statistics) ≤ 1 := by
  simp only [Action.asks_statistics]
  exact isCall_countP_le_one orderly trace id .statistics

theorem asks_listings_countP_le (orderly : Orderly start)
    (trace : Trace step? start moves state) (id : Nat) :
    moves.countP (·.action.asks id .listings) ≤ 2 := by
  simp only [Action.asks_listings]
  exact Nat.le_trans (countP_or_le _ _ _)
    (Nat.add_le_add (isCall_countP_le_one orderly trace id .listings)
      (isCall_countP_le_one orderly trace id .activity))

end Aggregation

end UserDashboard.Dashboard
