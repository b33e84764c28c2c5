/-
This file proves that tasks taking their turns come to rest, and that nobody is forgotten on the
way.

Every step of a refresh brings it nearer to its end: it begins, its fetches end, and it ends itself.
So there is a bound to what refreshes can still do. A turn either takes such a step or only uses up
the task that takes it, and no step wakes more tasks than it makes up for. The calls that were made
are those that fetches wait for. What holds of every refresh between turns holds when nobody can go
on.
-/

import Mathlib.Algebra.Group.Action.Defs
import Mathlib.Algebra.Order.BigOperators.Group.List
import Mathlib.Algebra.Order.Ring.Nat
import Mathlib.Data.List.Nodup
import UserDashboard.Proofs.Dashboard.Attendance

namespace UserDashboard.Dashboard

open Catalog Time

/-! ### What is left to do -/

namespace Run

variable {run : Run} {kind : FetchKind}

/-- How many fetches have not ended. -/
def pending (run : Run) : Nat :=
  (run.isPending .statistics).toNat + (run.isPending .listings).toNat +
    (run.isPending .activity).toNat

theorem pending_le (run : Run) : run.pending ≤ 3 := by
  have first := (run.isPending .statistics).toNat_le
  have second := (run.isPending .listings).toNat_le
  have third := (run.isPending .activity).toNat_le
  unfold pending
  omega

/-- A fetch that has called still has to end. -/
theorem isPending_call (unstarted : run.isUnstarted kind) (other : FetchKind) :
    (run.call kind).isPending other = run.isPending other := by
  have pending : run.isPending kind := by rw [isPending, unstarted, Bool.true_or]
  cases kind <;> cases other <;>
    first
    | rfl
    | exact pending.symm

theorem pending_lt {later : Run} (had : run.isPending kind)
    (left : ∀ other, later.isPending other → other ≠ kind ∧ run.isPending other) :
    later.pending + 1 ≤ run.pending := by
  have ended : later.isPending kind = false :=
    Bool.eq_false_iff.mpr fun pending => (left kind pending).1 rfl
  have fewer : ∀ other, (later.isPending other).toNat ≤ (run.isPending other).toNat := by
    intro other
    cases pending : later.isPending other with
    | false => exact Nat.zero_le _
    | true => rw [(left other pending).2]
  have first := fewer .statistics
  have second := fewer .listings
  have third := fewer .activity
  unfold pending
  cases kind <;> rw [had, ended, Bool.toNat_true, Bool.toNat_false] <;> omega

end Run

/-- The most steps that a refresh can still take, and three for each time it can still begin, end,
or be cancelled. -/
def Refresh.weight (refresh : Refresh) : Nat :=
  match refresh.stage with
  | .scheduled => 9
  | .fetching run => 3 + run.pending
  | .lingering run => run.pending

theorem Refresh.weight_le (refresh : Refresh) : refresh.weight ≤ 9 := by
  unfold weight
  split
  · exact Nat.le_refl _
  · rename_i run _
    have := run.pending_le
    omega
  · rename_i run _
    have := run.pending_le
    omega

namespace Aggregation

variable {state after other : Aggregation} {action : Action} {events : List Event} {id : Nat}
  {refresh : Refresh}

/-- What all refreshes can still do. -/
def load (state : Aggregation) : Nat :=
  (state.refreshes.map Refresh.weight).sum

/-- How much less a refresh can do after it has acted. -/
def Action.relief : Action → Nat
  | .begin _ | .conclude _ | .expire _ => 3
  | .abandon _ _ | .endStatistics _ _ | .endListings _ _ | .endActivity _ _ => 1
  | _ => 0

theorem load_le (state : Aggregation) : state.load ≤ 9 * state.refreshes.length := by
  have each : ∀ weight ∈ state.refreshes.map Refresh.weight, weight ≤ 9 := by
    intro weight member
    obtain ⟨refresh, -, rfl⟩ := List.mem_map.mp member
    exact refresh.weight_le
  have bounded := List.sum_le_card_nsmul _ 9 each
  rw [List.length_map, smul_eq_mul, Nat.mul_comm] at bounded
  exact bounded

theorem load_tidy (state : Aggregation) : state.tidy.load ≤ state.load :=
  (List.filter_sublist.map Refresh.weight).sum_le_sum fun _ _ => Nat.zero_le _

/-- When one refresh can do less, there is less to do. -/
theorem load_modify {relief : Nat} (orderly : Orderly state)
    (found : state.refresh? refresh.id = some refresh) (change : Refresh → Refresh)
    (drops : (change refresh).weight + relief ≤ refresh.weight) :
    (state.modify refresh.id change).load + relief ≤ state.load := by
  obtain ⟨before, later, split⟩ := List.append_of_mem (mem_refreshes_of_refresh? found).1
  have apart : ∀ other, other ∈ before ∨ other ∈ later → other.id ≠ refresh.id := by
    have distinct := orderly.distinct
    rw [split, List.map_append, List.map_cons, List.nodup_middle, List.nodup_cons] at distinct
    intro other member same
    refine distinct.1 (same ▸ ?_)
    rw [← List.map_append]
    exact List.mem_map_of_mem (List.mem_append.mpr member)
  have stay : ∀ others : List Refresh, (∀ other ∈ others, other.id ≠ refresh.id) →
      (others.map fun other => if other.id = refresh.id then change other else other) = others :=
    fun others different =>
      (List.map_congr_left fun other member => if_neg (different other member)).trans
        (List.map_id _)
  unfold load modify
  rw [split]
  simp only [List.map_append, List.map_cons, List.sum_append, List.sum_cons, if_true,
    stay before fun other member => apart other (Or.inl member),
    stay later fun other member => apart other (Or.inr member)]
  omega

/-- A fetch that ends is one less to end. -/
theorem Fetching.pending {run : Run} {change : Run → Run}
    (fetching : Fetching state refresh run action change) :
    (change run).pending + action.relief ≤ run.pending := by
  have ends : ∀ id kind, action.ends? = some (id, kind) → run.isPending kind →
      (change run).pending + 1 ≤ run.pending := by
    intro id kind ended pending
    refine Run.pending_lt pending fun other left => ?_
    have stood := fetching.pending_of_ends other ended
    rcases (Bool.or_eq_true _ _).mp left with unstarted | waiting
    · obtain ⟨different, was⟩ := stood.1 unstarted
      exact ⟨different, by rw [Run.isPending, was, Bool.true_or]⟩
    · obtain ⟨different, was⟩ := stood.2 waiting
      exact ⟨different, by rw [Run.isPending, was, Bool.or_true]⟩
  cases fetching with
  | calls unstarted =>
    simp only [Run.pending, Run.isPending_call unstarted]
    exact Nat.le_refl _
  | abandons cancelled pending => exact ends _ _ rfl ((Bool.or_eq_true _ _).mpr pending)
  | endsStatistics waiting | endsListings waiting | endsActivity waiting =>
    exact ends _ _ rfl ((Bool.or_eq_true _ _).mpr (Or.inr waiting))

theorem Fetching.weight {run : Run} {change : Run → Run}
    (fetching : Fetching state refresh run action change) (begun : refresh.run? = some run) :
    (refresh.withRun change).weight + action.relief ≤ refresh.weight := by
  have less := fetching.pending
  obtain ⟨number, subject, cancelled, stage⟩ := refresh
  cases stage with
  | scheduled => cases begun
  | fetching last | lingering last =>
    obtain rfl := Option.some.inj begun
    simp only [Refresh.weight, Refresh.withRun]
    omega

/-- Whoever acts has less to do. -/
theorem Change.load (changed : Change state action events after) (orderly : Orderly state)
    (acts : action.actor? = some id) : after.load + action.relief ≤ state.load := by
  have retired : ∀ (other : Aggregation) {refresh : Refresh} {run : Run} (cancel : Bool),
      other.refreshes = state.refreshes → state.refresh? refresh.id = some refresh →
      refresh.stage = .fetching run →
      (other.retire refresh.id run cancel).load + 3 ≤ state.load := by
    intro other refresh run cancel same found fetching
    have drops : run.pending + 3 ≤ refresh.weight := by
      simp only [Refresh.weight, fetching]
      omega
    have less := load_modify orderly found (fun refresh => { refresh with
      cancelled := refresh.cancelled || cancel, stage := .lingering run }) drops
    have moved : (other.retire refresh.id run cancel).load ≤ _ := load_tidy _
    simp only [Aggregation.load, modify, same] at moved less ⊢
    omega
  cases changed with
  | quiet nobody => cases nobody.symm.trans acts
  | declined wanted | scheduled wanted => cases (actor?_of_wants? wanted).symm.trans acts
  | invalidated => cases acts
  | begun found scheduled =>
    refine load_modify orderly found _ ?_
    simp only [Refresh.weight, scheduled, Action.relief]
    exact Nat.le_refl _
  | fetched found begun fetching led =>
    have less := load_modify orderly found (·.withRun _) (fetching.weight begun)
    rcases led with rfl | rfl
    · exact less
    · exact Nat.le_trans (Nat.add_le_add_right (load_tidy _) _) less
  | committed commits => exact retired _ false rfl commits.found commits.fetching
  | stranded found fetching => exact retired _ false rfl found fetching
  | superseded found fetching => exact retired _ false rfl found fetching
  | @givenUp _ refresh run _ cancel found fetching reason =>
    obtain ⟨flights, -, same⟩ := releaseOwn_eq state refresh
    rw [same]
    have less := retired { state with flights } cancel rfl found fetching
    rcases reason.acts with rfl | rfl <;> exact less

/-- A fetch that has called waits. -/
theorem Change.waits_of_call {kind : FetchKind}
    (changed : Change state (.call id kind) events after) : after.Waits id kind := by
  cases changed with
  | quiet nobody => cases nobody
  | declined wanted | scheduled wanted => cases wanted
  | @fetched _ _ refresh run change found begun fetching led =>
    cases fetching with
    | calls =>
      have moved : (state.modify refresh.id (·.withRun (·.call kind))).Waits refresh.id kind := by
        have present := (mem_refreshes_of_refresh? found).1
        refine ⟨_, mem_modify.mpr ⟨refresh, present, if_pos rfl⟩, rfl, _, run?_withRun _ begun, ?_⟩
        cases kind <;> rfl
      rcases led with rfl | rfl
      · exact moved
      · exact moved.tidy
  | givenUp found fetching reason => cases reason

end Aggregation

namespace Runner

variable {runner before after : Runner} {action : Aggregation.Action} {id : Nat}
  {subject : SubjectId} {kind : FetchKind} {task : Task} {tasks : List Task} {call : Call}

/-! ### Turns -/

/-- The turns that are waited for and what refreshes can still do. -/
def fuel (runner : Runner) : Nat :=
  runner.ready.length + runner.state.load

theorem Wakes.fuel (wakes : Wakes before tasks after) :
    after.fuel ≤ before.fuel + tasks.length := by
  have woken := wakes.length
  unfold Runner.fuel
  rw [wakes.state]
  omega

theorem Wakes.calling (wakes : Wakes before tasks after) (calling : before.Calling) :
    after.Calling := by
  unfold Calling
  rw [wakes.state, wakes.calls]
  exact calling

theorem fuel_act? (orderly : Orderly runner.state) (acted : runner.act? action = some after)
    (acts : action.actor? = some id) : after.fuel + action.relief ≤ runner.fuel := by
  obtain ⟨events, taken, ready, -, -⟩ := of_act? acted
  have less := (Aggregation.change_of_step taken).load orderly acts
  unfold fuel
  rw [ready]
  omega

/-- Calls are waited for until their fetches end. -/
theorem Calling.act? (calling : runner.Calling) (orderly : Orderly runner.state)
    (acted : runner.act? action = some after) {calls : List Call} (made : calls ⊆ runner.calls)
    (spared : ∀ call ∈ calls, action.ends? ≠ some (call.id, call.kind)) :
    { after with calls }.Calling := by
  obtain ⟨events, taken, -, -, -⟩ := of_act? acted
  intro call kept
  exact (calling call (made kept)).change orderly (Aggregation.change_of_step taken)
    (spared call kept)

/-- The call of a fetch that waits can end. -/
theorem act?_endingAction? (orderly : Orderly runner.state)
    (waits : runner.state.Waits call.id call.kind)
    (ends : runner.endingAction? call = some action) :
    ∃ after, runner.act? action = some after := by
  obtain ⟨refresh, present, number, run, begun, waiting⟩ := waits
  have found := orderly.refresh?_of_id present number
  unfold endingAction? at ends
  cases kind : call.kind <;> rw [kind] at ends waiting
  all_goals
    obtain ⟨result, -, rfl⟩ := Option.map_eq_some_iff.mp ends
    simp [act?, Aggregation.step?, Aggregation.endStatistics?, Aggregation.endListings?,
      Aggregation.endActivity?, found, begun, waiting]

/-- Nothing more is to be done, and every call that was made is still waited for. -/
structure Spends (before after : Runner) : Prop where
  fuel : after.fuel ≤ before.fuel
  calling : after.Calling

theorem Spends.andThen {first second third : Runner} (earlier : Spends first second)
    (later : second.Calling → Spends second third) : Spends first third :=
  have follows := later earlier.calling
  ⟨Nat.le_trans follows.fuel earlier.fuel, follows.calling⟩

/-- A fetch that ends wakes its refresh. -/
theorem spends_ends (orderly : Orderly runner.state) (calling : runner.Calling)
    (acted : runner.act? action = some after) (ends : action.ends? = some (id, kind))
    (task : Task) :
    Spends runner ((after.forget id subject kind).wake task) := by
  obtain ⟨-, -, -, -, calls⟩ := of_act? acted
  have woken := wakes_wake (after.forget id subject kind) task
  constructor
  · have less := fuel_act? orderly acted (actor?_of_ends ends)
    have relief : action.relief = 1 := by
      cases action <;> first | rfl | cases ends
    have more : _ ≤ after.fuel + 1 := woken.fuel
    omega
  · have fewer : (after.forget id subject kind).calls ⊆ runner.calls :=
      calls ▸ List.filter_subset_self _
    refine woken.calling (calling.act? orderly acted fewer ?_)
    · intro call kept same
      have spared := (List.mem_filter.mp kept).2
      rw [ends] at same
      obtain ⟨rfl, rfl⟩ := Prod.mk.inj (Option.some.inj same)
      simp at spared

theorem spends_expire (orderly : Orderly runner.state) (calling : runner.Calling) :
    Spends runner (runner.expire id subject) := by
  unfold expire
  split
  · rename_i expired acted
    obtain ⟨tasks, wakes, few, -⟩ := expired.wakes_wakeWaiting id subject
    obtain ⟨-, -, -, -, calls⟩ := of_act? acted
    constructor
    · have less : expired.fuel + 3 ≤ runner.fuel := fuel_act? orderly acted rfl
      have more := wakes.fuel
      omega
    · exact wakes.calling (calling.act? orderly acted (calls ▸ List.Subset.refl _) nofun)
  · exact ⟨Nat.le_refl _, calling⟩

theorem spends_turnOfRefresh (orderly : Orderly runner.state) (calling : runner.Calling) :
    Spends runner (runner.turnOfRefresh id subject) := by
  unfold turnOfRefresh
  split
  · rename_i begun acted
    obtain ⟨events, taken, -, -, calls⟩ := of_act? acted
    have woken := begun.wakes_wakeAll (fetches id subject)
    refine Spends.andThen ⟨?_, ?_⟩ fun kept => spends_expire ?_ kept
    · have less : begun.fuel + 3 ≤ runner.fuel := fuel_act? orderly acted rfl
      have more : _ ≤ begun.fuel + 3 := woken.fuel
      exact Nat.le_trans more less
    · have kept := woken.calling (calling.act? orderly acted (calls ▸ List.Subset.refl _) nofun)
      exact kept
    · show Orderly ((fetches id subject).foldl wake begun).state
      rw [woken.state]
      exact orderly.change (Aggregation.change_of_step taken)
  · split
    · rename_i _ concluded acted
      obtain ⟨-, -, -, -, calls⟩ := of_act? acted
      exact ⟨Nat.le_trans (Nat.le_add_right _ _) (fuel_act? orderly acted rfl),
        calling.act? orderly acted (calls ▸ List.Subset.refl _) nofun⟩
    · exact spends_expire orderly calling

theorem spends_finish (orderly : Orderly runner.state) (calling : runner.Calling)
    (waits : runner.state.Waits call.id call.kind) : Spends runner (runner.finish call) := by
  unfold finish
  split
  · rename_i action ends
    obtain ⟨after, acted⟩ := act?_endingAction? orderly waits ends
    have same : runner.act action = after := by rw [act, acted]; rfl
    rw [same]
    exact spends_ends orderly calling acted (endingAction?_ends ends) _
  · exact ⟨Nat.le_refl _, calling⟩

theorem spends_goOn (orderly : Orderly runner.state) (calling : runner.Calling) :
    Spends runner (runner.goOn id subject kind) := by
  unfold goOn
  split
  · rename_i called acted
    obtain ⟨events, taken, -, -, calls⟩ := of_act? acted
    have changed := Aggregation.change_of_step taken
    refine Spends.andThen ⟨?_, ?_⟩ fun kept => spends_finish ?_ kept ?_
    · exact fuel_act? orderly acted rfl
    · intro call made
      rcases List.mem_append.mp made with old | new
      · rw [calls] at old
        exact (calling call old).change orderly changed nofun
      · rw [List.mem_singleton.mp new]
        exact changed.waits_of_call
    · exact orderly.change changed
    · exact changed.waits_of_call
  · split
    · rename_i call found
      exact spends_finish orderly calling (calling call (List.mem_of_find?_eq_some found))
    · exact ⟨Nat.le_refl _, calling⟩

theorem spends_giveUp (orderly : Orderly runner.state) (calling : runner.Calling) :
    Spends runner (runner.giveUp id subject kind) := by
  unfold giveUp
  split
  · rename_i abandoned acted
    exact spends_ends orderly calling acted rfl _
  · exact ⟨Nat.le_refl _, calling⟩

theorem spends_turnOfFetch (attributed : runner.Attributed) (owns : runner.state.Owns subject id)
    (calling : runner.Calling) : Spends runner (runner.turnOfFetch id subject kind) := by
  have drawn := ((Leads.refl attributed).draw subject).attributed
  have draws : Spends runner (runner.draw subject) := ⟨Nat.le_refl _, calling⟩
  unfold turnOfFetch
  split
  · exact spends_goOn attributed.orderly calling
  · refine draws.andThen fun kept => ?_
    split
    · exact (spends_goOn drawn.orderly kept).andThen (spends_giveUp (orderly_goOn drawn owns kind))
    · exact spends_giveUp drawn.orderly kept

theorem spends_turn (attributed : runner.Attributed) (calling : runner.Calling) {task : Task}
    (owns : runner.state.Owns task.subject task.id) : Spends runner (runner.turn task) := by
  cases task with
  | refresh => exact spends_turnOfRefresh attributed.orderly calling
  | fetch => exact spends_turnOfFetch attributed owns calling

/-! ### Coming to rest -/

/-- What always holds of a runner. -/
structure InHand (runner : Runner) : Prop where
  attributed : runner.Attributed
  lingering : runner.state.Lingering
  calling : runner.Calling
  attended : runner.Attended

theorem Leads.lingering (leads : Leads before after) (orderly : Orderly before.state)
    (lingering : before.state.Lingering) : after.state.Lingering := by
  obtain ⟨moves, trace, -⟩ := leads.moves
  exact lingering.of_trace orderly trace

/-- A turn keeps what always holds, and less is to be done after it. -/
theorem InHand.turn (inHand : runner.InHand) {rest : List Task}
    (waiting : runner.ready = task :: rest) :
    ({ runner with ready := rest }.turn task).InHand ∧
      ({ runner with ready := rest }.turn task).fuel < runner.fuel := by
  have attributed := inHand.attributed
  have owns := attributed.ready task (waiting ▸ List.mem_cons_self)
  have popped := Leads.pop attributed waiting
  have led := popped.turn owns
  have calling : { runner with ready := rest }.Calling := inHand.calling
  have spends := spends_turn popped.attributed calling owns
  refine ⟨⟨led.attributed, led.lingering attributed.orderly inHand.lingering, spends.calling,
    attended_turn attributed inHand.calling inHand.attended waiting⟩, ?_⟩
  have used : fuel { runner with ready := rest } + 1 = runner.fuel := by
    unfold fuel
    rw [waiting, List.length_cons]
    exact Nat.add_right_comm _ _ _
  exact Nat.lt_of_lt_of_le (Nat.lt_succ_of_le spends.fuel) (Nat.le_of_eq used)

theorem InHand.turns (inHand : runner.InHand) (bound : Nat) : (turns bound runner).InHand := by
  induction bound generalizing runner with
  | zero => exact inHand
  | succ bound inductionHypothesis =>
    unfold Runner.turns
    split
    · exact inHand
    · rename_i task rest waiting
      exact inductionHypothesis (inHand.turn waiting).1

/-- With turns enough nobody is left who can go on. -/
theorem InHand.ready_turns (inHand : runner.InHand) {bound : Nat} (enough : runner.fuel ≤ bound) :
    (Runner.turns bound runner).ready = [] := by
  -- Every turn takes something from what is left to do, so that is used up before the turns are.
  induction bound generalizing runner with
  | zero =>
    have nobody : runner.ready.length = 0 := by
      unfold fuel at enough
      omega
    exact List.eq_nil_of_length_eq_zero nobody
  | succ bound inductionHypothesis =>
    unfold Runner.turns
    split
    · assumption
    · rename_i task rest waiting
      obtain ⟨kept, less⟩ := inHand.turn waiting
      exact inductionHypothesis kept (Nat.le_of_lt_succ (Nat.lt_of_lt_of_le less enough))

/-- Everybody comes to rest. -/
theorem InHand.settle (inHand : runner.InHand) :
    runner.settle.InHand ∧ runner.settle.ready = [] := by
  refine ⟨inHand.turns _, inHand.ready_turns ?_⟩
  have bounded := runner.state.load_le
  unfold fuel
  omega

end Runner

end UserDashboard.Dashboard
