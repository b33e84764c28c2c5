/-
This file keeps account of how refreshes end.

A refresh makes known that it wrote exactly when it did, and changes no dashboard otherwise. It says
that it was cancelled only if its account was invalidated after it was started: one that was not
cancelled is in flight, and a fetch only ends because of a cancellation after there was one. A
refresh that goes on can end without the catalog, by its deadline at the latest. Once nothing can
happen but by callers, by the catalog and by the passing of time, those that go on are those in
flight.
-/

import UserDashboard.Proofs.Dashboard.Balance
import UserDashboard.Proofs.Dashboard.Writes

namespace UserDashboard.Dashboard

open Cache Catalog Time

/-! ### Words and causes -/

/-- One of the fetches has ended because the refresh was cancelled. -/
def Run.Abandoned (run : Run) : Prop :=
  run.statistics = .ended .cancelled ∨ run.listings = .ended .cancelled ∨
    run.activity = .ended .cancelled

/-- A refresh was cancelled, or one of its fetches has ended because it was. -/
def Refresh.Overtaken (refresh : Refresh) : Prop :=
  refresh.cancelled ∨ ∃ run, refresh.run? = some run ∧ run.Abandoned

theorem Ending.settle_eq_cancelled_iff {α : Type} {kind : FetchKind} {report : String}
    {ending : Ending α} :
    ending.settle kind report = .error .cancelled ↔ ending = .cancelled := by
  unfold Ending.settle
  split <;> simp_all

theorem Ending.ofCall_ne_cancelled {α β : Type} (default : β) (work : α → Option β)
    (result : CallResult α) : Ending.ofCall default work result ≠ .cancelled := by
  unfold Ending.ofCall
  cases result.outcome? default work <;> exact nofun

/-- Fetches come to nothing because of a cancellation only if one of them ended with it. -/
theorem Run.abandoned_of_result? {run : Run} {reports : FetchKind → String}
    (came : run.result? reports = some (.error .cancelled)) : run.Abandoned := by
  rcases settled_of_result? came with
    ⟨ending, ended, settled⟩ | ⟨ending, ended, settled⟩ | ⟨ending, ended, settled⟩
  · exact Or.inl (by rw [ended, Ending.settle_eq_cancelled_iff.mp settled])
  · exact Or.inr (Or.inl (by rw [ended, Ending.settle_eq_cancelled_iff.mp settled]))
  · exact Or.inr (Or.inr (by rw [ended, Ending.settle_eq_cancelled_iff.mp settled]))

theorem head?_toList_append {first : String} {letter : Char}
    (begins : first.toList.head? = some letter) (rest : String) :
    (first ++ rest).toList.head? = some letter := by
  rw [String.toList_append, List.head?_append, begins]
  rfl

/-- Nothing else is said in the words that tell of a cancellation. -/
theorem DashboardError.eq_cancelled_of_message {error : DashboardError}
    (same : error.message = DashboardError.cancelled.message) : error = .cancelled := by
  have letter : error.message.toList.head? = some 'R' := by
    rw [same]
    decide
  cases error with
  | cancelled => rfl
  | upstreamUnavailable fault =>
    have begins : "Upstream unavailable: ".toList.head? = some 'U' := by decide
    have other := head?_toList_append begins fault.message
    exact absurd (other.symm.trans letter) (by decide)
  | aggregationTimeout deadline =>
    have begins : "Aggregation timed out after ".toList.head? = some 'A' := by decide
    have other := head?_toList_append (head?_toList_append begins (toString deadline.millis)) "ms"
    exact absurd (other.symm.trans letter) (by decide)
  | configuration fault =>
    have begins : "Configuration error: ".toList.head? = some 'C' := by decide
    have other := head?_toList_append begins fault.message
    exact absurd (other.symm.trans letter) (by decide)

namespace Move

/-- A refresh was started in one of some steps, and its account was invalidated after that. -/
def Overtaken (moves : List Move) (subject : SubjectId) (id : Nat) : Prop :=
  ∃ earlier starter later, moves = earlier ++ starter :: later ∧
    starter.started? = some (subject, id) ∧ ∃ move ∈ later, move.action = .invalidate subject

theorem Overtaken.snoc {subject : SubjectId} {id : Nat}
    (overtaken : Overtaken moves subject id) (move : Move) :
    Overtaken (moves ++ [move]) subject id := by
  obtain ⟨earlier, starter, later, rfl, started, one, member, invalidates⟩ := overtaken
  exact ⟨earlier, starter, later ++ [move], by simp, started, one,
    List.mem_append_left _ member, invalidates⟩

theorem overtaken_of_invalidate {moves : List Move} {starter move : Move} {subject : SubjectId}
    {id : Nat} (member : starter ∈ moves) (started : starter.started? = some (subject, id))
    (invalidates : move.action = .invalidate subject) :
    Overtaken (moves ++ [move]) subject id := by
  obtain ⟨earlier, later, rfl⟩ := List.append_of_mem member
  exact ⟨earlier, starter, later ++ [move], by simp, started, move,
    List.mem_append_right _ List.mem_cons_self, invalidates⟩

end Move

namespace Aggregation

open Move

variable {start state after : Aggregation} {action : Action} {events : List Event}
  {moves : List Move} {subject : SubjectId} {id : Nat}

/-! ### Refreshes that are cancelled -/

/-- A fetch ends because of a cancellation only if its refresh was cancelled. -/
theorem Fetching.abandoned {refresh : Refresh} {run : Run} {change : Run → Run}
    (fetching : Fetching state refresh run action change) (abandoned : (change run).Abandoned) :
    refresh.cancelled ∨ run.Abandoned := by
  cases fetching with
  | @calls kind =>
    right
    -- A fetch that has called waits, and the others are as they were.
    cases kind <;> rcases abandoned with one | two | three <;>
      first
      | exact Or.inl one
      | exact Or.inr (Or.inl two)
      | exact Or.inr (Or.inr three)
      | contradiction
  | abandons cancelled => exact Or.inl cancelled
  | endsStatistics =>
    rcases abandoned with one | others
    · exact absurd (Fetch.ended.inj one) (Ending.ofCall_ne_cancelled _ _ _)
    · exact Or.inr (Or.inr others)
  | endsListings =>
    rcases abandoned with one | two | three
    · exact Or.inr (Or.inl one)
    · exact absurd (Fetch.ended.inj two) (Ending.ofCall_ne_cancelled _ _ _)
    · exact Or.inr (Or.inr (Or.inr three))
  | endsActivity =>
    rcases abandoned with one | two | three
    · exact Or.inr (Or.inl one)
    · exact Or.inr (Or.inr (Or.inl two))
    · exact absurd (Fetch.ended.inj three) (Ending.ofCall_ne_cancelled _ _ _)

/-- A refresh that goes on is overtaken only if it was before, or its account is invalidated. -/
theorem Progress.overtaken {old new : Refresh} (progress : Progress state action old new)
    (goesOn : new.isRunning) (overtaken : new.Overtaken) :
    old.isRunning ∧ (old.Overtaken ∨ action = .invalidate old.subject) := by
  cases progress with
  | rests others kept cause =>
    refine ⟨goesOn, ?_⟩
    rcases overtaken with cancelled | ended
    · rcases cause cancelled with was | invalidates
      · exact Or.inl (Or.inl was)
      · exact Or.inr invalidates
    · exact Or.inl (Or.inr ended)
  | begins acts scheduled =>
    refine ⟨by simp [Refresh.isRunning, scheduled], Or.inl ?_⟩
    rcases overtaken with cancelled | ⟨run, begun, ended⟩
    · exact Or.inl cancelled
    · obtain rfl := Option.some.inj begun
      rcases ended with one | two | three
      · cases one
      · cases two
      · cases three
  | moves begun fetching =>
    refine ⟨(Orderly.isRunning_withRun old _).symm.trans goesOn, Or.inl ?_⟩
    rcases overtaken with cancelled | ⟨run, same, ended⟩
    · exact Or.inl cancelled
    · rw [run?_withRun _ begun] at same
      obtain rfl := Option.some.inj same
      exact (fetching.abandoned ended).imp_right fun was => ⟨_, begun, was⟩
  | ends => cases goesOn

/-- Every refresh was started for its account, and one that goes on was only cancelled if its
account was invalidated after that. -/
theorem started_of_trace (orderly : Orderly start) (idle : start.refreshes = [])
    (trace : Trace step? start moves state) {refresh : Refresh}
    (present : refresh ∈ state.refreshes) :
    (∃ starter ∈ moves, starter.started? = some (refresh.subject, refresh.id)) ∧
      (refresh.isRunning → refresh.Overtaken → Overtaken moves refresh.subject refresh.id) := by
  induction trace generalizing refresh with
  | nil =>
    rw [idle] at present
    cases present
  | @snoc moves before after action events trace taken inductionHypothesis =>
    have kept := orderly.of_trace trace
    rcases (change_of_step taken).progress kept present with
      ⟨old, was, progress⟩ | ⟨subject, wanted, free, rfl⟩
    · obtain ⟨⟨starter, member, started⟩, since⟩ := inductionHypothesis was
      rw [progress.id_eq, progress.subject_eq]
      refine ⟨⟨starter, List.mem_append_left _ member, started⟩, fun goesOn overtaken => ?_⟩
      obtain ⟨ran, earlier | invalidates⟩ := progress.overtaken goesOn overtaken
      · exact (since ran earlier).snoc _
      · exact overtaken_of_invalidate member started invalidates
    · refine ⟨⟨_, List.mem_append_right _ List.mem_cons_self, ?_⟩, fun _ overtaken => ?_⟩
      · refine started_of_fresh taken wanted free ⟨_, present, fun old => ?_⟩
        exact absurd (kept.numbered _ old) (Nat.lt_irrefl _)
      · rcases overtaken with cancelled | ⟨run, begun, -⟩
        · cases cancelled
        · cases begun

/-! ### How a refresh ends -/

/-- What a refresh makes known is about its account, and it says that it was cancelled only if it
was overtaken. -/
theorem Change.told (changed : Change state action events after) (orderly : Orderly state)
    (acts : action.actor? = some id) {event : Event} (told : event ∈ events) :
    ∃ refresh ∈ state.refreshes, refresh.id = id ∧ refresh.isRunning ∧
      event.subject = refresh.subject ∧ event.isTerminal ∧
      (event = .refreshFailed refresh.subject DashboardError.cancelled.message →
        refresh.Overtaken) := by
  have goesOn : ∀ {refresh : Refresh} {run : Run}, refresh.stage = .fetching run →
      refresh.isRunning := fun {refresh run} fetching => by simp [Refresh.isRunning, fetching]
  have member : ∀ {refresh : Refresh}, state.refresh? refresh.id = some refresh →
      refresh ∈ state.refreshes := fun {refresh} found => (mem_refreshes_of_refresh? found).1
  cases changed with
  | quiet | declined | scheduled | begun | fetched | stranded => cases told
  | invalidated => cases acts
  | @committed refresh run entry commits =>
    obtain rfl := List.mem_singleton.mp told
    exact ⟨refresh, member commits.found, Option.some.inj acts, goesOn commits.fetching, rfl, rfl,
      fun said => by cases said⟩
  | @superseded refresh run snapshot found fetching assembled lost =>
    obtain rfl := List.mem_singleton.mp told
    refine ⟨refresh, member found, Option.some.inj acts, goesOn fetching, rfl, rfl, fun _ => ?_⟩
    -- A refresh that was not cancelled would still be in flight.
    left
    cases current : refresh.cancelled with
    | true => rfl
    | false =>
      have flight := orderly.held refresh (member found) (goesOn fetching) current
      exact absurd ⟨orderly.flight?_eq_some_iff.mpr flight, current⟩ lost
  | @givenUp _ refresh run error cancel found fetching reason =>
    obtain rfl := List.mem_singleton.mp told
    have number : refresh.id = id := Option.some.inj (reason.actor?_eq.symm.trans acts)
    refine ⟨refresh, member found, number, goesOn fetching, rfl, rfl, fun said => ?_⟩
    have cause := DashboardError.eq_cancelled_of_message (Event.refreshFailed.inj said).2
    cases reason with
    | expired => cases cause
    | failed came =>
      rw [cause] at came
      exact Or.inr ⟨run, by rw [Refresh.run?, fetching], Run.abandoned_of_result? came⟩

/-- Whatever refreshes make known comes from one that was started for the account it is about. -/
theorem told_of_trace (orderly : Orderly start) (idle : start.refreshes = [])
    (trace : Trace step? start moves state) {event : Event} (told : (id, event) ∈ outcomes moves) :
    (event.subject, id) ∈ starts moves ∧ event.isTerminal ∧
      (event = .refreshFailed event.subject DashboardError.cancelled.message →
        ∃ earlier ending later, moves = earlier ++ ending :: later ∧
          (id, event) ∈ ending.published ∧ Overtaken earlier event.subject id) := by
  induction trace with
  | nil => cases told
  | @snoc moves before after action events trace taken inductionHypothesis =>
    rw [outcomes_snoc] at told
    rw [starts_snoc]
    rcases List.mem_append.mp told with old | new
    · obtain ⟨started, terminal, since⟩ := inductionHypothesis old
      refine ⟨List.mem_append_left _ started, terminal, fun said => ?_⟩
      obtain ⟨earlier, ending, later, rfl, ends, overtaken⟩ := since said
      exact ⟨earlier, ending, later ++ [⟨before, action, events, after⟩], by simp, ends, overtaken⟩
    · obtain ⟨acts, made⟩ := mem_published.mp new
      obtain ⟨refresh, present, rfl, goesOn, account, terminal, cause⟩ :=
        (change_of_step taken).told (orderly.of_trace trace) acts made
      obtain ⟨⟨starter, member, started⟩, since⟩ := started_of_trace orderly idle trace present
      rw [account]
      refine ⟨List.mem_append_left _ (List.mem_filterMap.mpr ⟨starter, member, started⟩), terminal,
        fun said => ?_⟩
      exact ⟨moves, _, [], rfl, new, since goesOn (cause said)⟩

/-- A refresh makes known that it wrote exactly when it does. -/
theorem refreshed_iff_commits (taken : state.step? action = some (after, events)) :
    (∃ elapsed, .refreshed subject elapsed ∈ events) ↔
      ∃ refresh run entry, Commits state refresh run entry ∧ refresh.subject = subject ∧
        action = .conclude refresh.id ∧ after = state.written refresh run entry := by
  have changed := change_of_step taken
  constructor
  · rintro ⟨elapsed, told⟩
    exact commits_of_refreshed changed told
  · rintro ⟨refresh, run, entry, commits, rfl, acts, -⟩
    have same : ∀ {other : Refresh} {others : Run}, refresh.id = other.id →
        state.refresh? other.id = some other → other.stage = .fetching others →
        other = refresh ∧ others = run := by
      intro other others number found fetching
      rw [← number, commits.found] at found
      obtain rfl := Option.some.inj found
      exact ⟨rfl, Stage.fetching.inj (fetching.symm.trans commits.fetching)⟩
    cases changed with
    | quiet nobody => rw [acts] at nobody; cases nobody
    | declined wanted => rw [acts] at wanted; cases wanted
    | scheduled wanted => rw [acts] at wanted; cases wanted
    | invalidated | begun => cases acts
    | fetched found begun fetching => rw [acts] at fetching; cases fetching
    | committed others =>
      obtain ⟨rfl, -⟩ := same (Action.conclude.inj acts).symm others.found others.fetching
      exact ⟨_, List.mem_cons_self⟩
    | stranded found fetching assembled flying current untold =>
      have told := commits.told
      rw [untold] at told
      cases told
    | superseded found fetching assembled lost =>
      obtain ⟨rfl, -⟩ := same (Action.conclude.inj acts).symm found fetching
      exact absurd ⟨commits.flying, commits.current⟩ lost
    | givenUp found fetching reason =>
      cases reason with
      | failed came =>
        obtain ⟨rfl, rfl⟩ := same (Action.conclude.inj acts).symm found fetching
        rw [commits.assembled] at came
        cases came
      | expired => cases acts

/-! ### Settled states -/

/-- What a refresh can do without the catalog. -/
def ownActions (id : Nat) : List Action :=
  [.begin id, .call id .statistics, .call id .listings, .call id .activity,
    .abandon id .statistics, .abandon id .listings, .abandon id .activity, .conclude id, .expire id]

/-- Nothing can happen but by callers, by the catalog, and by the passing of time. -/
def Settled (state : Aggregation) : Prop :=
  ∀ refresh ∈ state.refreshes, ∀ action ∈ ownActions refresh.id, (state.step? action).isNone

instance : Decidable (Settled state) :=
  inferInstanceAs (Decidable (∀ refresh ∈ state.refreshes, ∀ action ∈ ownActions refresh.id,
    (state.step? action).isNone))

/-- A fetch that has neither to call nor waits has ended. -/
theorem hasEnded_of_neither {α : Type} [DecidableEq α] {fetch : Fetch α}
    (neither : ¬(decide (fetch = .unstarted) = true ∨ decide (fetch = .waiting) = true)) :
    ∃ ending, fetch.ending? = some ending := by
  cases fetch with
  | unstarted => simp at neither
  | waiting => simp at neither
  | ended ending => exact ⟨ending, rfl⟩

/-- In a settled state a refresh that goes on was not cancelled, and waits for its fetches until its
deadline. -/
theorem Settled.waits (settled : Settled state) (orderly : Orderly state) {refresh : Refresh}
    (present : refresh ∈ state.refreshes) (goesOn : refresh.isRunning) :
    refresh.cancelled = false ∧ ∃ run, refresh.stage = .fetching run ∧
      state.now < waitsUntil run.startedAt state.deadline := by
  have found := orderly.refresh?_of_mem present
  have idle := settled refresh present
  cases stage : refresh.stage with
  | scheduled =>
    have begins := idle (.begin refresh.id) List.mem_cons_self
    obtain ⟨number, account, cancelled, place⟩ := refresh
    simp only at stage
    rw [stage] at found
    simp [step?, begin?, found] at begins
  | lingering run =>
    rw [Refresh.isRunning, stage] at goesOn
    cases goesOn
  | fetching run =>
    refine ⟨?_, run, rfl, ?_⟩
    · cases cancelled : refresh.cancelled with
      | false => rfl
      | true =>
        -- All its fetches would have ended, and it could end as well.
        have stuck : ∀ kind, .abandon refresh.id kind ∈ ownActions refresh.id →
            ¬(run.isUnstarted kind ∨ run.isWaiting kind) := by
          intro kind own pending
          have none := idle _ own
          simp [step?, abandon?, found, Refresh.run?, stage, cancelled, pending] at none
        obtain ⟨one, first⟩ := hasEnded_of_neither (stuck .statistics (by simp [ownActions]))
        obtain ⟨two, second⟩ := hasEnded_of_neither (stuck .listings (by simp [ownActions]))
        obtain ⟨three, third⟩ := hasEnded_of_neither (stuck .activity (by simp [ownActions]))
        have ends := idle (.conclude refresh.id) (by simp [ownActions])
        simp [step?, conclude?, found, stage, Run.result?, first, second, third] at ends
    · refine Int.not_le.mp fun late => ?_
      have expires := idle (.expire refresh.id) (by simp [ownActions])
      simp [step?, expire?, found, stage, late] at expires

/-- In a settled state those that go on are those in flight. -/
theorem Settled.running_perm (settled : Settled state) (orderly : Orderly state)
    (manned : Manned state) : state.running.Perm (state.flights.map Prod.snd) := by
  refine (List.perm_ext_iff_of_nodup (running_nodup orderly) orderly.separate).mpr fun id => ?_
  rw [mem_running]
  constructor
  · rintro ⟨refresh, present, rfl, goesOn⟩
    have current := (settled.waits orderly present goesOn).1
    exact List.mem_map_of_mem (orderly.held refresh present goesOn current)
  · intro member
    obtain ⟨flight, taken, rfl⟩ := List.mem_map.mp member
    exact manned flight taken

/-! ### Refreshes that can end -/

/-- A refresh that waits for its fetches fails when its deadline has passed. -/
theorem expire_of_late {refresh : Refresh} {run : Run}
    (found : state.refresh? refresh.id = some refresh) (fetching : refresh.stage = .fetching run)
    (late : waitsUntil run.startedAt state.deadline ≤ state.now) :
    ∃ later, state.step? (.expire refresh.id) = some (later, [.refreshFailed refresh.subject
      (DashboardError.aggregationTimeout state.deadline).message]) := by
  simp only [step?, expire?, found, fetching, if_pos late, fail]
  exact ⟨_, rfl⟩

/-- Whatever the catalog does, a refresh that goes on can end. -/
theorem GoesOn.ends (orderly : Orderly state) (goesOn : state.GoesOn id) :
    ∃ more later, Trace step? state more later ∧
      (∀ move ∈ more, move.action.actor? = some id ∨ ∃ nanos, move.action = .wait nanos) ∧
      ∃ event, outcomes more = [(id, event)] := by
  -- It may have to wait for its deadline.
  have waits : ∀ {state : Aggregation} {refresh : Refresh} {run : Run},
      state.refresh? refresh.id = some refresh → refresh.stage = .fetching run →
      ∃ more later, Trace step? state more later ∧
        (∀ move ∈ more, move.action.actor? = some refresh.id ∨
          ∃ nanos, move.action = .wait nanos) ∧
        ∃ event, outcomes more = [(refresh.id, event)] := by
    intro state refresh run found fetching
    let nanos := (waitsUntil run.startedAt state.deadline - state.now).toNat
    have late : waitsUntil run.startedAt state.deadline ≤ state.now + nanos :=
      Int.le_add_of_sub_left_le (Int.self_le_toNat _)
    have still : { state with now := state.now + nanos }.refresh? refresh.id = some refresh := found
    obtain ⟨later, expires⟩ := expire_of_late still fetching late
    have waited : state.step? (.wait nanos) = some ({ state with now := state.now + nanos }, []) :=
      rfl
    refine ⟨_, later, .cons waited (.cons expires .nil), ?_, _, rfl⟩
    intro move member
    rcases List.mem_cons.mp member with rfl | last
    · exact Or.inr ⟨nanos, rfl⟩
    · rw [List.mem_singleton.mp last]
      exact Or.inl rfl
  obtain ⟨refresh, present, rfl, goes⟩ := goesOn
  have found := orderly.refresh?_of_mem present
  cases stage : refresh.stage with
  | lingering run =>
    rw [Refresh.isRunning, stage] at goes
    cases goes
  | fetching run => exact waits found stage
  | scheduled =>
    let begun := state.modify refresh.id ({ · with stage := .fetching (.start state.now) })
    have begins : state.step? (.begin refresh.id) = some (begun, []) := by
      obtain ⟨number, account, cancelled, place⟩ := refresh
      simp only at stage
      rw [stage] at found
      simp only [step?, begin?, found, Option.map_some]
      rfl
    have kept : Orderly begun := orderly.change (change_of_step begins)
    have moved : { refresh with stage := .fetching (.start state.now) } ∈ begun.refreshes :=
      mem_modify.mpr ⟨refresh, present, if_pos rfl⟩
    obtain ⟨more, later, trace, own, event, ended⟩ := waits (kept.refresh?_of_mem moved) rfl
    refine ⟨_, later, .cons begins trace, ?_, event, ?_⟩
    · intro move member
      rcases List.mem_cons.mp member with rfl | last
      · exact Or.inl rfl
      · exact own move last
    · rw [outcomes, List.flatMap_cons]
      exact ended

/-! ### The whole run -/

/-- How refreshes end in a run. -/
structure Reckoned (moves : List Move) (state : Aggregation) : Prop where
  /-- A refresh that was started goes on and has made nothing known, or has ended and made known
  once how, for its account. -/
  once : ∀ subject id, (subject, id) ∈ starts moves →
    state.GoesOn id ∧ (outcomes moves).filter (·.1 = id) = [] ∨
    ¬state.GoesOn id ∧ ∃ event, (outcomes moves).filter (·.1 = id) = [(id, event)] ∧
      event.isTerminal ∧ event.subject = subject
  /-- Nobody else makes known how a refresh ended. -/
  only : (outcomes moves).map Prod.snd = (moves.flatMap (·.output)).filter Event.isTerminal ∧
    ∀ id event, (id, event) ∈ outcomes moves → (event.subject, id) ∈ starts moves
  /-- Whoever asks for a refresh that is not started makes nothing known, then or later. -/
  declined : ∀ move ∈ moves, ∀ subject, move.action = .schedule subject →
    (move.before.schedule subject).1 = none →
    move.output = [] ∧ ∀ event, (move.before.nextId, event) ∉ outcomes moves
  /-- It is made known that a dashboard was written exactly when one is. -/
  refreshed : ∀ move ∈ moves, ∀ subject,
    (∃ elapsed, .refreshed subject elapsed ∈ move.output) ↔
      ∃ refresh run entry, Commits move.before refresh run entry ∧ refresh.subject = subject ∧
        move.action = .conclude refresh.id ∧ move.after = move.before.written refresh run entry
  /-- A dashboard that is new was written in a step that makes it known. -/
  written : ∀ move ∈ moves, ∀ stored ∈ move.after.stores, stored ∉ move.before.stores →
    ∃ elapsed, .refreshed stored.1 elapsed ∈ move.output
  /-- A refresh that failed has changed no dashboard in any of its steps. -/
  failed : ∀ id subject reason, (id, .refreshFailed subject reason) ∈ outcomes moves →
    ∀ move ∈ moves, move.action.actor? = some id → move.after.snapshots = move.before.snapshots
  /-- A refresh fails for having been cancelled only if its account was invalidated after it was
  started and before it ended. -/
  cancelled : ∀ id subject,
    (id, .refreshFailed subject DashboardError.cancelled.message) ∈ outcomes moves →
    ∃ earlier ending later, moves = earlier ++ ending :: later ∧
      (id, .refreshFailed subject DashboardError.cancelled.message) ∈ ending.published ∧
      Overtaken earlier subject id
  /-- Whatever the catalog does, a refresh that goes on can end. -/
  ends : ∀ id, state.GoesOn id → ∃ more later, Trace step? state more later ∧
    (∀ move ∈ more, move.action.actor? = some id ∨ ∃ nanos, move.action = .wait nanos) ∧
    ∃ event, outcomes more = [(id, event)]
  /-- In a settled state the refreshes that were started are those that ended and those in flight,
  none of which has passed its deadline. -/
  settled : Settled state →
    (starts moves).length = (outcomes moves).length + state.flights.length ∧
    ∀ refresh ∈ state.refreshes, refresh.isRunning → ∃ run, refresh.stage = .fetching run ∧
      state.now < run.startedAt + state.deadline.nanos

/-- Account is kept of all refreshes of a run, while the clock can tell until when a dashboard would
be remembered. -/
theorem refreshes_reckoned {now : Moment} {recentLimit maxEntries : Nat} {deadline ttl : Span}
    {reports : Nat → FetchKind → String}
    (trace : Trace step? (new now recentLimit deadline reports (.new ttl maxEntries)) moves state)
    (told : (later? state.now ttl).isSome) : Reckoned moves state := by
  have first : Orderly (new now recentLimit deadline reports (.new ttl maxEntries)) :=
    .new _ _ _ _ _
  have orderly : Orderly state := first.of_trace trace
  have remembered : (later? state.now state.ttl).isSome := by
    rw [(onward_of_trace trace).ttl]
    exact told
  have manned : Manned state :=
    manned_of_trace first (fun flight taken => by cases taken) trace remembered
  obtain ⟨balance, terminal⟩ := balance_of_trace first rfl trace remembered
  obtain ⟨distinct, -⟩ := starts_nodup trace
  have apart := List.nodup_append.mp (balance.nodup_iff.mp distinct)
  refine ⟨?_, ⟨terminal, ?_⟩, ?_, ?_, ?_, ?_, ?_, ?_, ?_⟩
  · intro subject id started
    rw [← mem_running]
    have counted : id ∈ (starts moves).map Prod.snd := List.mem_map_of_mem started
    rcases List.mem_append.mp (balance.mem_iff.mp counted) with goesOn | ended
    · refine Or.inl ⟨goesOn, List.filter_eq_nil_iff.mpr fun pair member same => ?_⟩
      obtain rfl := of_decide_eq_true same
      exact apart.2.2 _ goesOn _ (List.mem_map_of_mem member) rfl
    · obtain ⟨⟨number, event⟩, member, rfl⟩ := List.mem_map.mp ended
      refine Or.inr ⟨fun goesOn => apart.2.2 _ goesOn _ ended rfl, event,
        filter_of_nodup apart.2.1 member, ?_⟩
      obtain ⟨began, ends, -⟩ := told_of_trace first rfl trace member
      have same := eq_of_nodup distinct began started rfl
      exact ⟨ends, (Prod.mk.inj same).1⟩
  · intro id event member
    exact (told_of_trace first rfl trace member).1
  · intro move member subject asks declines
    constructor
    · have taken := trace.taken member
      rw [asks] at taken
      exact (Prod.mk.inj (Option.some.inj taken)).2.symm
    · intro event made
      exact number_of_declined trace member asks declines _ (told_of_trace first rfl trace made).1
  · intro move member subject
    exact refreshed_iff_commits (trace.taken member)
  · intro move member stored present new
    rcases (change_of_step (trace.taken member)).stores present with
      old | ⟨refresh, run, entry, commits, rfl, acts, made, led⟩
    · exact absurd old new
    · rw [made]
      exact ⟨_, List.mem_cons_self⟩
  · intro id subject reason failed move member acts
    rcases (change_of_step (trace.taken member)).snapshots_eq_or_commits acts with
      same | ⟨refresh, run, entry, -, -, made⟩
    · exact same.1
    · have wrote : (id, .refreshed refresh.subject (move.before.elapsedSince run.startedAt)) ∈
          outcomes moves := mem_outcomes.mpr ⟨move, member, acts, made⟩
      have both := eq_of_nodup apart.2.1 failed wrote rfl
      cases both
  · intro id subject made
    exact (told_of_trace first rfl trace made).2.2 rfl
  · intro id goesOn
    exact goesOn.ends orderly
  · intro settled
    refine ⟨?_, fun refresh present goesOn => ?_⟩
    · have lengths := balance.length_eq
      have flights := (settled.running_perm orderly manned).length_eq
      rw [List.length_map, List.length_append, List.length_map] at lengths
      rw [List.length_map] at flights
      omega
    · obtain ⟨-, run, fetching, inTime⟩ := settled.waits orderly present goesOn
      exact ⟨run, fetching, lt_of_lt_waitsUntil (later?_zero_isSome told) inTime⟩

/-- Of three refreshes one writes, one is cancelled by an invalidation, and one waits. -/
theorem refreshes_reckoned_of_three :
    ∃ moves state, Trace step? (new 0 2 ⟨8000000000, by decide⟩ (fun _ _ => "")
        (.new ⟨300000000000, by decide⟩ 10)) moves state ∧
      (later? state.now ⟨300000000000, by decide⟩).isSome ∧ Settled state ∧
      (starts moves).length = 3 ∧ (outcomes moves).length + state.flights.length = 3 ∧
      ∃ earlier ending later, moves = earlier ++ ending :: later ∧
        (2, .refreshFailed ⟨7⟩ "Refresh cancelled") ∈ ending.published ∧
        Overtaken earlier ⟨7⟩ 2 := by
  obtain ⟨moves, state, trace, checked⟩ := Trace.exists_of_run? step?
    (new 0 2 ⟨8000000000, by decide⟩ (fun _ _ => "") (.new ⟨300000000000, by decide⟩ 10))
    [.snapshot ⟨7⟩, .begin 1, .call 1 .statistics, .call 1 .listings, .call 1 .activity,
      .endStatistics 1 (.answered .zero), .endListings 1 (.answered []),
      .endActivity 1 (.answered []), .conclude 1, .schedule ⟨7⟩, .schedule ⟨8⟩, .schedule ⟨8⟩,
      .begin 2, .begin 3, .call 2 .statistics, .call 3 .statistics, .call 3 .listings,
      .call 3 .activity, .invalidate ⟨7⟩, .abandon 2 .statistics, .abandon 2 .listings,
      .abandon 2 .activity, .conclude 2]
    (fun moves state => (later? state.now ⟨300000000000, by decide⟩).isSome ∧ Settled state ∧
      (starts moves).length = 3 ∧
      (2, .refreshFailed ⟨7⟩ "Refresh cancelled") ∈ outcomes moves) (by decide +kernel)
  obtain ⟨told, settled, three, cancelled⟩ := of_decide_eq_true checked
  have reckoned := refreshes_reckoned trace told
  refine ⟨moves, state, trace, told, settled, three, ?_, reckoned.cancelled 2 ⟨7⟩ cancelled⟩
  rw [← (reckoned.settled settled).1]
  exact three

end Aggregation

end UserDashboard.Dashboard
