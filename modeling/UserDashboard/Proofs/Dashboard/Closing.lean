/-
This file proves that a fetch whose refresh was cancelled ends in its next turn.

If it looks first whether its refresh was cancelled it ends because of that. If it looks at its call
first it may have to call the catalog before that, and it may find that its call has ended; if it
has not, the fetch ends because its refresh was cancelled after all. Whichever way it goes, in the
end its call and its alarm are gone and its refresh has been woken. So all that is left to chance is
how the fetch ended.
-/

import UserDashboard.Proofs.Dashboard.Resemblance
import UserDashboard.Proofs.Dashboard.Turn

namespace UserDashboard.Dashboard

open Catalog Time

namespace Aggregation

variable {state after : Aggregation} {id : Nat} {kind : FetchKind} {change : Run → Run}
  {refresh : Refresh} {run : Run}

/-- A fetch may end because its refresh was cancelled. -/
structure Abandons (state : Aggregation) (id : Nat) (kind : FetchKind) (refresh : Refresh)
    (run : Run) : Prop where
  found : state.refresh? id = some refresh
  begun : refresh.run? = some run
  cancelled : refresh.cancelled
  pending : run.isUnstarted kind ∨ run.isWaiting kind

theorem Abandons.eq (abandons : Abandons state id kind refresh run) :
    state.abandon? id kind = some (state.modify id (·.withRun (·.abandon kind))).tidy := by
  unfold abandon?
  simp only [abandons.found, abandons.begun]
  rw [if_pos ⟨abandons.cancelled, abandons.pending⟩]

theorem abandons_of_some (taken : state.abandon? id kind = some after) :
    ∃ refresh run, Abandons state id kind refresh run := by
  unfold abandon? at taken
  split at taken
  · rename_i refresh found
    split at taken
    · rename_i run begun
      split at taken
      · rename_i able
        exact ⟨refresh, run, found, begun, able.1, able.2⟩
      · cases taken
    · cases taken
  · cases taken

theorem Abandons.cancelled_of_id (abandons : Abandons state id kind refresh run)
    (orderly : Orderly state) :
    ∀ other ∈ state.refreshes, other.id = id → other.cancelled := by
  obtain ⟨present, number⟩ := mem_refreshes_of_refresh? abandons.found
  intro other there same
  rw [orderly.eq_of_id there present (same.trans number.symm)]
  exact abandons.cancelled

theorem modify_withRun_modify (state : Aggregation) (id : Nat) (first second : Run → Run) :
    (state.modify id (·.withRun first)).modify id (·.withRun second) =
      state.modify id (·.withRun (second ∘ first)) := by
  unfold modify
  simp only [List.map_map]
  congr 1
  refine List.map_congr_left fun refresh _ => ?_
  simp only [Function.comp_apply]
  by_cases acts : refresh.id = id
  · have still : (refresh.withRun first).id = id := acts
    rw [if_pos acts, if_pos still, if_pos acts]
    unfold Refresh.withRun
    cases refresh.stage <;> rfl
  · rw [if_neg acts, if_neg acts, if_neg acts]

theorem refresh?_modify_withRun (found : state.refresh? id = some refresh) :
    (state.modify id (·.withRun change)).refresh? id = some (refresh.withRun change) := by
  obtain ⟨-, number⟩ := mem_refreshes_of_refresh? found
  have same : ((fun refresh : Refresh => decide (refresh.id = id)) ∘
      fun refresh => if refresh.id = id then refresh.withRun change else refresh) =
      fun refresh => decide (refresh.id = id) := by
    funext refresh
    simp only [Function.comp_apply]
    split <;> rfl
  unfold refresh? at found ⊢
  unfold modify
  rw [List.find?_map, same, found, Option.map_some, if_pos number]

/-- After a fetch has ended its refresh cannot have it end again. -/
theorem abandon?_of_closes (closes : Run.Closes kind change) :
    (state.modify id (·.withRun change)).tidy.abandon? id kind = none := by
  cases taken : (state.modify id (·.withRun change)).tidy.abandon? id kind with
  | none => rfl
  | some after =>
    obtain ⟨refresh, run, found, begun, -, pending⟩ := abandons_of_some taken
    obtain ⟨there, number⟩ := mem_refreshes_of_refresh? found
    obtain ⟨old, -, rfl⟩ := mem_modify.mp (mem_tidy.mp there).1
    have acts : old.id = id := by
      by_cases acts : old.id = id
      · exact acts
      · rwa [if_neg acts] at number
    rw [if_pos acts] at begun
    obtain ⟨former, -, rfl⟩ : ∃ former, old.run? = some former ∧ change former = run := by
      cases old with
      | mk number subject cancelled stage => cases stage <;> cases begun <;> exact ⟨_, rfl, rfl⟩
    exact absurd pending (closes.not_pending former)

end Aggregation

namespace Runner

open Aggregation

variable {runner : Runner} {id : Nat} {subject : SubjectId} {kind : FetchKind}
  {change : Run → Run} {refresh : Refresh} {run : Run} {call : Call} {action : Aggregation.Action}

/-- The runner after a fetch has ended. -/
def closed (runner : Runner) (id : Nat) (subject : SubjectId) (kind : FetchKind)
    (change : Run → Run) : Runner :=
  ({ runner with state := (runner.state.modify id (·.withRun change)).tidy }.forget id subject
    kind).wake (.refresh id subject)

theorem act?_of_step? {state : Aggregation} (taken : runner.state.step? action = some (state, [])) :
    runner.act? action = some { runner with state } := by
  rw [act?, taken]
  rfl

theorem abandons_of_act? (able : (runner.act? (.abandon id kind)).isSome) :
    ∃ refresh run, Abandons runner.state id kind refresh run := by
  obtain ⟨after, acted⟩ := Option.isSome_iff_exists.mp able
  obtain ⟨events, taken, -⟩ := of_act? acted
  obtain ⟨state, taken, -⟩ := Option.map_eq_some_iff.mp taken
  exact abandons_of_some taken

theorem giveUp_of_abandons (abandons : Abandons runner.state id kind refresh run)
    (subject : SubjectId) :
    runner.giveUp id subject kind = runner.closed id subject kind (·.abandon kind) := by
  have taken : runner.state.step? (.abandon id kind) =
      some ((runner.state.modify id (·.withRun (·.abandon kind))).tidy, []) := by
    rw [step?, abandons.eq]
    rfl
  rw [giveUp, act?_of_step? taken]
  rfl

theorem giveUp_of_closed (closes : Run.Closes kind change) :
    (runner.closed id subject kind change).giveUp id subject kind =
      runner.closed id subject kind change := by
  have settled : (runner.closed id subject kind change).act? (.abandon id kind) = none := by
    rw [act?, closed, (wakes_wake _ _).state]
    show ((((runner.state.modify id (·.withRun change)).tidy.abandon? id kind).map
      (·, [])).map _) = none
    rw [abandon?_of_closes closes]
    rfl
  rw [giveUp, settled]

/-- A fetch that finds that its call has ended ends with it. -/
theorem exists_closed_of_endingAction? (found : runner.state.refresh? call.id = some refresh)
    (begun : refresh.run? = some run) (waits : run.isWaiting call.kind)
    (ends : runner.endingAction? call = some action) :
    ∃ change, Run.Closes call.kind change ∧
      runner.finish call = runner.closed call.id call.subject call.kind change := by
  have there : (runner.state.refresh? call.id).bind Refresh.run? = some run := by
    rw [found, Option.bind_some, begun]
  suffices taken : ∃ change, Run.Closes call.kind change ∧ runner.state.step? action =
      some ((runner.state.modify call.id (·.withRun change)).tidy, []) by
    obtain ⟨change, closes, taken⟩ := taken
    refine ⟨change, closes, ?_⟩
    rw [finish, ends]
    dsimp only
    rw [act, act?_of_step? taken]
    rfl
  unfold endingAction? at ends
  cases kind : call.kind <;> rw [kind] at ends waits <;>
    obtain ⟨result, -, rfl⟩ := Option.map_eq_some_iff.mp ends
  · refine ⟨_, .statistics (.ofCall .zero some result), ?_⟩
    simp only [step?, endStatistics?, there, if_pos waits]
    rfl
  · refine ⟨_, .listings (.ofCall [] (fun listings =>
      some (recentListings runner.state.recentLimit listings)) result), ?_⟩
    simp only [step?, endListings?, there, if_pos waits]
    rfl
  · refine ⟨_, .activity (.ofCall []
      (recentActivity? runner.state.recentLimit (.utc run.startedAt)) result), ?_⟩
    simp only [step?, endActivity?, there, if_pos waits]
    rfl

/-- A fetch that looks at its call and then whether its refresh was cancelled ends. -/
theorem exists_closed_of_finish (found : runner.state.refresh? call.id = some refresh)
    (begun : refresh.run? = some run) (cancelled : refresh.cancelled)
    (waits : run.isWaiting call.kind) :
    ∃ change, Run.Closes call.kind change ∧
      (runner.finish call).giveUp call.id call.subject call.kind =
        runner.closed call.id call.subject call.kind change := by
  cases ends : runner.endingAction? call with
  | some action =>
    obtain ⟨change, closes, same⟩ := exists_closed_of_endingAction? found begun waits ends
    exact ⟨change, closes, same ▸ giveUp_of_closed closes⟩
  | none =>
    refine ⟨_, Run.closes_abandon call.kind, ?_⟩
    rw [finish, ends]
    exact giveUp_of_abandons ⟨found, begun, cancelled, Or.inr waits⟩ call.subject

/-- It comes to the same as if the fetch had never called. -/
theorem closed_of_call (runner : Runner) (closes : Run.Closes call.kind change) (moment : Moment) :
    ({ runner with
        state := runner.state.modify call.id (·.withRun (·.call call.kind))
        calls := runner.calls ++ [call] }.setAlarm moment
          (.fetch call.id call.subject call.kind)).closed call.id call.subject call.kind change =
      runner.closed call.id call.subject call.kind change := by
  have state : (runner.state.modify call.id (·.withRun (·.call call.kind))).modify call.id
      (·.withRun change) = runner.state.modify call.id (·.withRun change) := by
    rw [modify_withRun_modify]
    exact congrArg (fun change => runner.state.modify call.id (·.withRun change))
      (funext closes.call)
  unfold closed setAlarm forget
  dsimp only
  rw [state, List.filter_append, List.filter_append, List.filter_singleton, List.filter_singleton]
  simp

/-- A fetch that looks first how far its call is and then whether its refresh was cancelled ends. -/
theorem exists_closed_of_goOn (abandons : Abandons runner.state id kind refresh run)
    (made : ∀ call ∈ runner.calls, call.id = id → call.subject = subject) :
    ∃ change catalog, Run.Closes kind change ∧
      catalog.statistics.plan = runner.catalog.statistics.plan ∧
      catalog.listings.plan = runner.catalog.listings.plan ∧
      (runner.goOn id subject kind).giveUp id subject kind =
        { runner with catalog }.closed id subject kind change := by
  obtain ⟨found, begun, cancelled, pending⟩ := abandons
  have there : (runner.state.refresh? id).bind Refresh.run? = some run := by
    rw [found, Option.bind_some, begun]
  by_cases unstarted : run.isUnstarted kind
  · have taken : runner.state.step? (.call id kind) =
        some (runner.state.modify id (·.withRun (·.call kind)), []) := by
      simp only [step?, call?, there, if_pos unstarted]
      rfl
    have waits : (run.call kind).isWaiting kind := by cases kind <;> rfl
    let call : Call := ⟨id, subject, kind, (courseOf runner.catalog subject kind).1,
      .on runner.now (courseOf runner.catalog subject kind).2 runner.timeout⟩
    let counted := { runner with catalog := count runner.catalog kind }
    let asked := { counted with
      state := runner.state.modify id (·.withRun (·.call kind))
      calls := runner.calls ++ [call] }.setAlarm call.wait.wakesAt (.fetch id subject kind)
    have calledToo : asked.state.refresh? call.id = some (refresh.withRun (·.call kind)) :=
      refresh?_modify_withRun found
    obtain ⟨change, closes, same⟩ := exists_closed_of_finish calledToo
      (run?_withRun _ begun) cancelled waits
    refine ⟨change, counted.catalog, closes, ?_, ?_, ?_⟩
    · cases kind <;> rfl
    · cases kind <;> rfl
    · rw [goOn, act?_of_step? taken]
      exact same.trans (closed_of_call counted closes call.wait.wakesAt)
  · have stays : runner.act? (.call id kind) = none := by
      simp only [act?, step?, call?, there, if_neg unstarted]
      rfl
    have waits := pending.resolve_left unstarted
    rw [goOn, stays]
    dsimp only
    cases asked : runner.calls.find? fun call => call.id = id ∧ call.kind = kind with
    | none =>
      exact ⟨_, _, Run.closes_abandon kind, rfl, rfl,
        giveUp_of_abandons ⟨found, begun, cancelled, pending⟩ subject⟩
    | some call =>
      obtain ⟨rfl, rfl⟩ : call.id = id ∧ call.kind = kind := by simpa using List.find?_some asked
      obtain rfl := made call (List.mem_of_find?_eq_some asked) rfl
      obtain ⟨change, closes, same⟩ := exists_closed_of_finish found begun cancelled waits
      exact ⟨change, _, closes, rfl, rfl, same⟩

/-- A fetch whose refresh was cancelled ends in its next turn, whatever it looks at first. -/
theorem exists_closed (able : (runner.act? (.abandon id kind)).isSome)
    (made : ∀ call ∈ runner.calls, call.id = id → call.subject = subject) :
    ∃ change catalog, Run.Closes kind change ∧
      catalog.statistics.plan = runner.catalog.statistics.plan ∧
      catalog.listings.plan = runner.catalog.listings.plan ∧
      runner.turnOfFetch id subject kind =
        { runner.draw subject with catalog }.closed id subject kind change := by
  obtain ⟨refresh, run, abandons⟩ := abandons_of_act? able
  have drawn : Abandons (runner.draw subject).state id kind refresh run := abandons
  have cancelled : (runner.act? (.abandon id kind)).isNone = false :=
    Option.isNone_eq_false_iff.mpr able
  unfold turnOfFetch
  rw [cancelled, if_neg Bool.false_ne_true]
  split
  · exact exists_closed_of_goOn drawn made
  · exact ⟨_, _, Run.closes_abandon kind, rfl, rfl, giveUp_of_abandons drawn subject⟩

end Runner

end UserDashboard.Dashboard
