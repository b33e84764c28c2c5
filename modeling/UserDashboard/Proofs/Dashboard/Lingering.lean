/-
This file says what is left of refreshes that are over, and what is still to be done for those that
are there.

A refresh that is over is only kept while some of its fetches have not ended, and then it was
cancelled, because one that ends by itself ends after its fetches. So there is something to be done
for it. For a refresh that is not over nothing is to be done only while it waits for the catalog,
has not been cancelled, and its deadline is still to come. A fetch that waits goes on waiting until
it ends.
-/

import UserDashboard.Proofs.Dashboard.Progress

namespace UserDashboard.Dashboard

open Catalog Time

/-! ### Fetches that have not ended -/

namespace Run

variable {run : Run} {kind : FetchKind}

/-- Whether a fetch has not ended. -/
def isPending (run : Run) (kind : FetchKind) : Bool :=
  run.isUnstarted kind || run.isWaiting kind

theorem isPending_eq_not_hasEnded {α : Type} [DecidableEq α] (fetch : Fetch α) :
    (decide (fetch = .unstarted) || decide (fetch = .waiting)) = !fetch.hasEnded := by
  cases fetch <;> rfl

/-- All fetches have ended when none is pending. -/
theorem allEnded_iff : run.allEnded ↔ ∀ kind, run.isPending kind = false := by
  have first := isPending_eq_not_hasEnded run.statistics
  have second := isPending_eq_not_hasEnded run.listings
  have third := isPending_eq_not_hasEnded run.activity
  constructor
  · intro ended kind
    simp only [allEnded, Bool.and_eq_true] at ended
    cases kind <;> simp_all [isPending, isUnstarted, isWaiting]
  · intro ended
    have one := ended .statistics
    have two := ended .listings
    have three := ended .activity
    simp_all [allEnded, isPending, isUnstarted, isWaiting]

theorem allEnded_call : (run.call kind).allEnded = false := by
  cases kind <;> simp [allEnded, call, Fetch.hasEnded, Fetch.ending?]

theorem of_isUnstarted_call {other : FetchKind} (unstarted : (run.call kind).isUnstarted other) :
    other ≠ kind ∧ run.isUnstarted other := by
  revert unstarted
  cases kind <;> cases other <;>
    first
    | exact fun unstarted => ⟨nofun, unstarted⟩
    | simp [call, isUnstarted]

theorem of_isWaiting_call {other : FetchKind} (different : other ≠ kind)
    (waiting : (run.call kind).isWaiting other) : run.isWaiting other := by
  revert waiting
  cases kind <;> cases other <;>
    first
    | exact absurd rfl different
    | exact id

end Run

/-! ### What is to be done -/

namespace Refresh

variable {refresh : Refresh} {kind : FetchKind} {now : Moment} {patience : Moment → Moment}

/-- A refresh is to begin or to end. One that began at some moment has patience until another. -/
def IsDue (refresh : Refresh) (now : Moment) (patience : Moment → Moment) : Prop :=
  refresh.stage = .scheduled ∨ ∃ run, refresh.stage = .fetching run ∧
    (run.allEnded ∨ patience run.startedAt ≤ now)

/-- A fetch of a refresh is to call the catalog, or to end because the refresh was cancelled. -/
def IsFetchDue (refresh : Refresh) (kind : FetchKind) : Prop :=
  ∃ run, refresh.run? = some run ∧
    (run.isUnstarted kind ∨ refresh.cancelled ∧ run.isWaiting kind)

theorem IsFetchDue.of_cancelled {run : Run} (begun : refresh.run? = some run)
    (cancelled : refresh.cancelled) (pending : run.isPending kind) : refresh.IsFetchDue kind := by
  refine ⟨run, begun, ?_⟩
  rcases (Bool.or_eq_true _ _).mp pending with unstarted | waiting
  · exact Or.inl unstarted
  · exact Or.inr ⟨cancelled, waiting⟩

end Refresh

namespace Aggregation

variable {start state after : Aggregation} {action : Action} {events : List Event} {id : Nat}
  {kind : FetchKind}

/-! ### Refreshes that are over -/

/-- A refresh that is over was cancelled, and not all of its fetches have ended. -/
def Lingering (state : Aggregation) : Prop :=
  ∀ refresh ∈ state.refreshes, ∀ run, refresh.stage = .lingering run →
    refresh.cancelled ∧ run.allEnded = false

/-- The fetch that an action lets end, with the number of its refresh. -/
def Action.ends? : Action → Option (Nat × FetchKind)
  | .abandon id kind => some (id, kind)
  | .endStatistics id _ => some (id, .statistics)
  | .endListings id _ => some (id, .listings)
  | .endActivity id _ => some (id, .activity)
  | _ => none

/-- A refresh that ends has begun, and is retired. When it ends by itself its fetches have ended,
and when its deadline passes it is cancelled. -/
theorem Change.retires (changed : Change state action events after)
    (ends : action = .conclude id ∨ action = .expire id) :
    ∃ (refresh : Refresh) (run : Run) (cancel : Bool) (other : Aggregation),
      state.refresh? id = some refresh ∧ refresh.stage = .fetching run ∧
      other.refreshes = state.refreshes ∧ after = other.retire id run cancel ∧
      (action = .conclude id → run.allEnded) ∧ (action = .expire id → cancel = true) := by
  have ended : ∀ {run : Run} {reports : FetchKind → String}
      {result : Except DashboardError Snapshot},
      run.result? reports = some result → run.allEnded := fun came =>
    Run.isSome_result?.symm.trans (Option.isSome_of_eq_some came)
  rcases ends with rfl | rfl
  · cases changed with
    | quiet nobody => cases nobody
    | declined wanted | scheduled wanted => cases wanted
    | fetched found begun fetching => cases fetching
    | @committed refresh run entry commits =>
      exact ⟨refresh, run, false, { state with snapshots := ⟨_⟩ }.release refresh.subject,
        commits.found, commits.fetching, rfl, rfl, fun _ => ended commits.assembled, nofun⟩
    | stranded found fetching assembled | superseded found fetching assembled =>
      exact ⟨_, _, _, state, found, fetching, rfl, rfl, fun _ => ended assembled, nofun⟩
    | givenUp found fetching reason =>
      cases reason with
      | failed assembled =>
        obtain ⟨flights, -, same⟩ := releaseOwn_eq state _
        exact ⟨_, _, _, _, found, fetching, by rw [same], rfl, fun _ => ended assembled, nofun⟩
  · cases changed with
    | quiet nobody => cases nobody
    | declined wanted | scheduled wanted => cases wanted
    | fetched found begun fetching => cases fetching
    | givenUp found fetching reason =>
      cases reason with
      | expired =>
        obtain ⟨flights, -, same⟩ := releaseOwn_eq state _
        exact ⟨_, _, _, _, found, fetching, by rw [same], rfl, nofun, fun _ => rfl⟩

/-- What is left of a refresh that has ended. -/
theorem Change.own_of_ends (changed : Change state action events after) (orderly : Orderly state)
    (ends : action = .conclude id ∨ action = .expire id) {refresh : Refresh}
    (present : refresh ∈ after.refreshes) (number : refresh.id = id) :
    action = .expire id ∧ refresh.cancelled ∧ ∃ old ∈ state.refreshes, old.id = id ∧
      ∃ run, old.stage = .fetching run ∧ refresh.stage = .lingering run := by
  obtain ⟨last, run, cancel, other, found, fetching, same, rfl, ended, cancels⟩ :=
    changed.retires ends
  obtain ⟨there, undone⟩ := mem_tidy.mp present
  obtain ⟨old, was, rfl⟩ := mem_modify.mp there
  rw [same] at was
  split at number
  · rename_i own
    obtain ⟨listed, numbered⟩ := mem_refreshes_of_refresh? found
    obtain rfl := orderly.eq_of_id was listed (own.trans numbered.symm)
    rw [if_pos own] at undone ⊢
    have expires : action = .expire id := ends.resolve_left fun concludes =>
      Bool.eq_false_iff.mp undone (ended concludes)
    refine ⟨expires, ?_, old, was, own, run, fetching, rfl⟩
    rw [cancels expires]
    exact Bool.or_true _
  · contradiction

/-- Whoever ends, or lets a fetch end, leaves no refresh that is over and whose fetches have
ended. -/
theorem isDone_of_ends (taken : state.step? action = some (after, events))
    (ends : action.ends?.isSome ∨ ∃ id, action = .conclude id ∨ action = .expire id)
    {refresh : Refresh} (present : refresh ∈ after.refreshes) : refresh.isDone = false := by
  suffices tidied : ∃ other : Aggregation, after = other.tidy by
    obtain ⟨other, rfl⟩ := tidied
    exact (mem_tidy.mp present).2
  rcases ends with ends | ⟨id, ends⟩
  · cases action with
    | abandon | endStatistics | endListings | endActivity =>
      obtain ⟨worked, -⟩ := of_silent taken
      grind [abandon?, endStatistics?, endListings?, endActivity?]
    | _ => cases ends
  · obtain ⟨_, run, cancel, other, -, -, -, same, -⟩ := (change_of_step taken).retires ends
    exact ⟨_, same⟩

theorem Fetching.ends_or_calls {refresh : Refresh} {run : Run} {change : Run → Run}
    (fetching : Fetching state refresh run action change) :
    action.ends?.isSome ∨ ∃ kind, change = (·.call kind) := by
  cases fetching with
  | calls => exact Or.inr ⟨_, rfl⟩
  | _ => exact Or.inl rfl

/-- What is over was cancelled and still has to end, whatever happens. -/
theorem Lingering.step (lingering : Lingering state) (orderly : Orderly state)
    (taken : state.step? action = some (after, events)) : Lingering after := by
  intro refresh present run lingers
  have changed := change_of_step taken
  have undone : (action.ends?.isSome ∨ ∃ id, action = .conclude id ∨ action = .expire id) →
      run.allEnded = false := by
    intro ends
    have kept := isDone_of_ends taken ends present
    rwa [Refresh.isDone, lingers] at kept
  rcases changed.progress orderly present with ⟨old, was, progress⟩ | ⟨_, -, -, rfl⟩
  · cases progress with
    | rests others kept =>
      obtain ⟨cancelled, pending⟩ := lingering old was run lingers
      exact ⟨kept cancelled, pending⟩
    | begins => cases lingers
    | @moves other change begun fetching =>
      obtain ⟨number, subject, cancelled, stage⟩ := old
      cases stage with
      | scheduled | fetching => cases lingers
      | lingering last =>
        refine ⟨(lingering _ was last rfl).1, ?_⟩
        rcases fetching.ends_or_calls with ends | ⟨kind, rfl⟩
        · exact undone (Or.inl ends)
        · obtain rfl := Stage.lingering.inj lingers
          exact Run.allEnded_call
    | ends acts =>
      obtain ⟨-, cancelled, -⟩ := changed.own_of_ends orderly acts present rfl
      exact ⟨cancelled, undone (Or.inr ⟨_, acts⟩)⟩
  · cases lingers

theorem Lingering.of_trace {moves : List Move} (lingering : Lingering start)
    (orderly : Orderly start) (trace : Trace step? start moves state) : Lingering state := by
  induction trace with
  | nil => exact lingering
  | snoc trace taken inductionHypothesis =>
    exact inductionHypothesis.step (orderly.of_trace trace) taken

/-! ### Fetches that wait -/

theorem stage_of_withRun {refresh : Refresh} {run : Run} {change : Run → Run}
    (fetching : (refresh.withRun change).stage = .fetching run) :
    ∃ last, refresh.stage = .fetching last ∧ run = change last := by
  obtain ⟨number, subject, cancelled, stage⟩ := refresh
  cases stage with
  | scheduled | lingering => cases fetching
  | fetching last => exact ⟨last, rfl, (Stage.fetching.inj fetching).symm⟩

/-- A fetch of the refresh of a number waits for the catalog. -/
def Waits (state : Aggregation) (id : Nat) (kind : FetchKind) : Prop :=
  ∃ refresh ∈ state.refreshes, refresh.id = id ∧
    ∃ run, refresh.run? = some run ∧ run.isWaiting kind

theorem isDone_of_pending {refresh : Refresh} {run : Run} (begun : refresh.run? = some run)
    (pending : run.isPending kind) : refresh.isDone = false := by
  obtain ⟨number, subject, cancelled, stage⟩ := refresh
  cases stage with
  | scheduled | fetching => rfl
  | lingering last =>
    obtain rfl := Option.some.inj begun
    refine Bool.eq_false_iff.mpr fun ended => ?_
    rw [Run.allEnded_iff.mp ended kind] at pending
    cases pending

theorem Waits.tidy (waits : state.Waits id kind) : state.tidy.Waits id kind := by
  obtain ⟨refresh, present, number, run, begun, waiting⟩ := waits
  have pending : run.isPending kind := by rw [Run.isPending, waiting, Bool.or_true]
  exact ⟨refresh, mem_tidy.mpr ⟨present, isDone_of_pending begun pending⟩, number, run, begun,
    waiting⟩

theorem Waits.modify (waits : state.Waits id kind) {acting : Nat} {change : Refresh → Refresh}
    (identity : ∀ refresh, (change refresh).id = refresh.id)
    (keeps : id = acting → ∀ refresh ∈ state.refreshes, refresh.id = acting → ∀ run,
      refresh.run? = some run → run.isWaiting kind →
        ∃ later, (change refresh).run? = some later ∧ later.isWaiting kind) :
    (state.modify acting change).Waits id kind := by
  obtain ⟨refresh, present, rfl, run, begun, waiting⟩ := waits
  refine ⟨_, mem_modify.mpr ⟨refresh, present, rfl⟩, ?_⟩
  by_cases same : refresh.id = acting
  · rw [if_pos same]
    exact ⟨identity refresh, keeps same refresh present same run begun waiting⟩
  · rw [if_neg same]
    exact ⟨rfl, run, begun, waiting⟩

/-- Who ends leaves its fetches as they are. -/
theorem Waits.retire (waits : state.Waits id kind) (orderly : Orderly state) {refresh : Refresh}
    {run : Run} (found : state.refresh? refresh.id = some refresh)
    (fetching : refresh.stage = .fetching run) (cancel : Bool) :
    (state.retire refresh.id run cancel).Waits id kind := by
  refine Waits.tidy (waits.modify (fun _ => rfl) ?_)
  intro _ other present number last begun waiting
  obtain rfl := orderly.eq_of_id present (mem_refreshes_of_refresh? found).1 number
  rw [Refresh.run?, fetching] at begun
  obtain rfl := Option.some.inj begun
  exact ⟨run, rfl, waiting⟩

theorem Fetching.isWaiting {refresh : Refresh} {run : Run} {change : Run → Run}
    (fetching : Fetching state refresh run action change) (waiting : run.isWaiting kind)
    (spared : action.ends? ≠ some (refresh.id, kind)) : (change run).isWaiting kind := by
  cases fetching with
  | @calls other => cases other <;> cases kind <;> simp_all [Run.call, Run.isWaiting]
  | @abandons other =>
    cases other <;> cases kind <;> simp_all [Run.abandon, Run.isWaiting, Action.ends?]
  | endsStatistics => cases kind <;> simp_all [Run.isWaiting, Action.ends?]
  | endsListings => cases kind <;> simp_all [Run.isWaiting, Action.ends?]
  | endsActivity => cases kind <;> simp_all [Run.isWaiting, Action.ends?]

/-- After a fetch has ended the others stand where they stood. -/
theorem Fetching.pending_of_ends {refresh : Refresh} {run : Run} {change : Run → Run}
    (fetching : Fetching state refresh run action change) (other : FetchKind)
    (ends : action.ends? = some (id, kind)) :
    ((change run).isUnstarted other → other ≠ kind ∧ run.isUnstarted other) ∧
      ((change run).isWaiting other → other ≠ kind ∧ run.isWaiting other) := by
  cases fetching with
  | calls => cases ends
  | @abandons ended =>
    cases ends
    cases kind <;> cases other <;>
      first
      | exact ⟨fun unstarted => ⟨nofun, unstarted⟩, fun waiting => ⟨nofun, waiting⟩⟩
      | simp [Run.abandon, Run.isUnstarted, Run.isWaiting]
  | endsStatistics | endsListings | endsActivity =>
    cases ends
    cases other <;>
      first
      | exact ⟨fun unstarted => ⟨nofun, unstarted⟩, fun waiting => ⟨nofun, waiting⟩⟩
      | simp [Run.isUnstarted, Run.isWaiting]

/-- A fetch that waits goes on waiting until it ends. -/
theorem Waits.change (waits : state.Waits id kind) (orderly : Orderly state)
    (changed : Change state action events after) (spared : action.ends? ≠ some (id, kind)) :
    after.Waits id kind := by
  cases changed with
  | quiet | declined => exact waits
  | scheduled =>
    obtain ⟨refresh, present, rest⟩ := waits
    exact ⟨refresh, List.mem_append_left _ present, rest⟩
  | @invalidated subject =>
    cases flight : state.flight? subject with
    | none =>
      rw [invalidate_of_none flight]
      exact waits
    | some other =>
      rw [invalidate_of_some flight]
      exact waits.modify (fun _ => rfl) fun _ refresh _ _ run begun waiting =>
        ⟨run, begun, waiting⟩
  | @begun refresh found scheduled =>
    refine waits.modify (fun _ => rfl) fun _ other present number run begun => ?_
    obtain rfl := orderly.eq_of_id present (mem_refreshes_of_refresh? found).1 number
    rw [Refresh.run?, scheduled] at begun
    cases begun
  | @fetched _ _ refresh run change found begun fetching led =>
    have moved : (state.modify refresh.id (·.withRun change)).Waits id kind := by
      refine waits.modify (fun _ => rfl) ?_
      rintro rfl other present number last same waiting
      obtain rfl := orderly.eq_of_id present (mem_refreshes_of_refresh? found).1 number
      obtain rfl := Option.some.inj (same.symm.trans begun)
      exact ⟨_, run?_withRun _ begun, fetching.isWaiting waiting spared⟩
    rcases led with rfl | rfl
    · exact moved
    · exact moved.tidy
  | committed commits => exact waits.retire orderly commits.found commits.fetching _
  | stranded found fetching => exact waits.retire orderly found fetching _
  | superseded found fetching => exact waits.retire orderly found fetching _
  | @givenUp _ refresh run _ cancel found fetching =>
    obtain ⟨flights, -, same⟩ := releaseOwn_eq state refresh
    rw [same]
    exact waits.retire orderly found fetching _

/-! ### Refreshes for which nothing is to be done -/

/-- A refresh for which nothing is to be done goes on, was not cancelled, and waits for its fetches
until its deadline. -/
theorem Lingering.waits (lingering : Lingering state) {refresh : Refresh}
    {patience : Moment → Moment}
    (present : refresh ∈ state.refreshes) (rests : ¬refresh.IsDue state.now patience)
    (fetches : ∀ kind, ¬refresh.IsFetchDue kind) :
    refresh.cancelled = false ∧ ∃ run, refresh.stage = .fetching run ∧
      state.now < patience run.startedAt := by
  -- A refresh that was cancelled has something to do as long as its fetches have not ended.
  have ended : ∀ run, refresh.run? = some run → refresh.cancelled → run.allEnded := by
    intro run begun cancelled
    refine Run.allEnded_iff.mpr fun kind => ?_
    cases pending : run.isPending kind with
    | false => rfl
    | true => exact absurd (Refresh.IsFetchDue.of_cancelled begun cancelled pending) (fetches kind)
  cases stage : refresh.stage with
  | scheduled => exact absurd (Or.inl stage) rests
  | lingering run =>
    obtain ⟨cancelled, pending⟩ := lingering refresh present run stage
    rw [ended run (by rw [Refresh.run?, stage]) cancelled] at pending
    cases pending
  | fetching run =>
    refine ⟨?_, run, rfl, ?_⟩
    · cases cancelled : refresh.cancelled with
      | false => rfl
      | true =>
        have finished := ended run (by rw [Refresh.run?, stage]) cancelled
        exact absurd (Or.inr ⟨run, stage, Or.inl finished⟩) rests
    · exact Int.not_le.mp fun late => rests (Or.inr ⟨run, stage, Or.inr late⟩)

end Aggregation

end UserDashboard.Dashboard
