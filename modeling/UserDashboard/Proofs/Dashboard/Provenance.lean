/-
This file proves where the dashboards come from that are given out.

What is known about a refresh is kept with the steps of the run in which it happened: that it was
started for its account, when it began, which of its fetches has called the catalog for the account,
and which was answered and with what. A refresh that writes has three answers of this kind, so every
dashboard that is remembered is made of the answers of one refresh and of nothing else. It is given
out from when it was written until it has been remembered for the set time.
-/

import UserDashboard.Proofs.Dashboard.Writes

namespace UserDashboard.Dashboard

open Cache Catalog Time

/-! ### Lengths of lists -/

theorem recentListings_length_le (limit : Nat) (listings : List Listing) :
    (recentListings limit listings).length ≤ limit :=
  List.length_take_le _ _

theorem recordsFrom?_length {generatedAt : Timestamp} {place : Nat} {listings : List Listing}
    {records : List Activity} (told : recordsFrom? generatedAt place listings = some records) :
    records.length = listings.length := by
  induction listings generalizing place records with
  | nil =>
    rw [← Option.some.inj told]
    rfl
  | cons first rest inductionHypothesis =>
    simp only [recordsFrom?, bind, Option.bind_eq_some_iff] at told
    obtain ⟨fallback, -, others, later, same⟩ := told
    rw [← Option.some.inj same, List.length_cons, List.length_cons, inductionHypothesis later]

theorem recentActivity?_length_le {limit : Nat} {generatedAt : Timestamp} {listings : List Listing}
    {records : List Activity} (told : recentActivity? limit generatedAt listings = some records) :
    records.length ≤ limit := by
  rw [recordsFrom?_length told]
  exact recentListings_length_le limit listings

/-! ### Answers -/

/-- A fetch ends well exactly when its call was answered and something came of the answer. -/
theorem Ending.ofCall_eq_fresh_iff {α β : Type} {default : β} {work : α → Option β}
    {result : CallResult α} {value : β} :
    Ending.ofCall default work result = .outcome (.fresh value) ↔
      ∃ answer, result = .answered answer ∧ work answer = some value := by
  cases result with
  | answered answer =>
    cases worked : work answer <;>
      simp [Ending.ofCall, CallResult.outcome?, worked]
  | failed => simp [Ending.ofCall, CallResult.outcome?]
  | timedOut => simp [Ending.ofCall, CallResult.outcome?]
  | crashed => simp [Ending.ofCall, CallResult.outcome?]

namespace Aggregation.Action

/-- An action brings a refresh statistics. -/
def TellsStatistics (id : Nat) (action : Aggregation.Action) (statistics : Statistics) : Prop :=
  action = .endStatistics id (.answered statistics)

/-- An action brings a refresh listings, and these are the newest. -/
def TellsListings (recentLimit id : Nat) (action : Aggregation.Action)
    (newest : List Listing) : Prop :=
  ∃ listings, action = .endListings id (.answered listings) ∧
    newest = recentListings recentLimit listings

/-- An action brings a refresh listings, and this is the activity that they tell. -/
def TellsActivity (recentLimit : Nat) (generatedAt : Timestamp) (id : Nat)
    (action : Aggregation.Action) (activity : List Activity) : Prop :=
  ∃ listings, action = .endActivity id (.answered listings) ∧
    recentActivity? recentLimit generatedAt listings = some activity

end Aggregation.Action

namespace Move

/-- In a step a fetch of a refresh calls the catalog, and the refresh is one for an account. -/
def Asks (move : Move) (subject : SubjectId) (id : Nat) (kind : FetchKind) : Prop :=
  move.action = .call id kind ∧ (move.before.refresh? id).map Refresh.subject = some subject

/-- After the first two of some steps, in this order, a fetch called the catalog and was told a
value. -/
def Answered {α : Type} (moves : List Move) (starter beginner : Move) (asks : Move → Prop)
    (tells : Aggregation.Action → α → Prop) (value : α) : Prop :=
  ∃ caller answer, asks caller ∧ tells answer.action value ∧
    [starter, beginner, caller, answer].Sublist moves

/-- A fetch that waits has called, and one that ended well was answered. -/
inductive Backed {α : Type} (moves : List Move) (starter beginner : Move) (asks : Move → Prop)
    (tells : Aggregation.Action → α → Prop) : Fetch α → Prop where
  /-- It has not called yet. -/
  | unstarted : Backed moves starter beginner asks tells .unstarted
  /-- It has called. -/
  | waiting {caller : Move} (asked : asks caller)
      (ordered : [starter, beginner, caller].Sublist moves) :
      Backed moves starter beginner asks tells .waiting
  /-- It has ended; if it ended well it was answered. -/
  | ended {ending : Ending α} (answered : ∀ value, ending = .outcome (.fresh value) →
      Answered moves starter beginner asks tells value) :
      Backed moves starter beginner asks tells (.ended ending)

variable {α : Type} {moves : List Move} {starter beginner move : Move} {asks : Move → Prop}
  {tells : Aggregation.Action → α → Prop} {fetch : Fetch α}

theorem Backed.snoc (backed : Backed moves starter beginner asks tells fetch) (move : Move) :
    Backed (moves ++ [move]) starter beginner asks tells fetch := by
  have longer : moves.Sublist (moves ++ [move]) := List.sublist_append_left _ _
  cases backed with
  | unstarted => exact .unstarted
  | waiting asked ordered => exact .waiting asked (ordered.trans longer)
  | ended answered =>
    refine .ended fun value fresh => ?_
    obtain ⟨caller, answer, asked, told, ordered⟩ := answered value fresh
    exact ⟨caller, answer, asked, told, ordered.trans longer⟩

theorem Backed.call (begun : [starter, beginner].Sublist moves) (asked : asks move) :
    Backed (moves ++ [move]) starter beginner asks tells .waiting :=
  .waiting asked (begun.append (List.Sublist.refl [move]))

/-- A fetch that waited and ends well is answered. -/
theorem Backed.end (backed : Backed moves starter beginner asks tells .waiting) {ending : Ending α}
    (told : ∀ value, ending = .outcome (.fresh value) → tells move.action value) :
    Backed (moves ++ [move]) starter beginner asks tells (.ended ending) := by
  cases backed with
  | @waiting caller asked ordered =>
    exact .ended fun value fresh =>
      ⟨caller, move, asked, told value fresh, ordered.append (List.Sublist.refl [move])⟩

theorem Backed.abandon : Backed moves starter beginner asks tells (.ended .cancelled) :=
  .ended nofun

/-- The fetches of a refresh called and were answered for its account. -/
structure Evidence (moves : List Move) (recentLimit : Nat) (subject : SubjectId) (id : Nat)
    (starter beginner : Move) (run : Run) : Prop where
  statistics : Backed moves starter beginner (Asks · subject id .statistics)
    (Aggregation.Action.TellsStatistics id) run.statistics
  listings : Backed moves starter beginner (Asks · subject id .listings)
    (Aggregation.Action.TellsListings recentLimit id) run.listings
  activity : Backed moves starter beginner (Asks · subject id .activity)
    (Aggregation.Action.TellsActivity recentLimit (.utc run.startedAt) id) run.activity

/-- A step lets a refresh begin at a moment. -/
def Begins (move : Move) (id : Nat) (moment : Moment) : Prop :=
  move.action = .begin id ∧ move.before.now = moment

/-- A refresh was started for its account, and when it has begun, what its fetches did is known. -/
def Accounted (moves : List Move) (recentLimit : Nat) (refresh : Refresh) : Prop :=
  ∃ starter, Starts starter refresh.subject refresh.id ∧ [starter].Sublist moves ∧
    ∀ run, refresh.run? = some run → ∃ beginner, Begins beginner refresh.id run.startedAt ∧
      [starter, beginner].Sublist moves ∧
      Evidence moves recentLimit refresh.subject refresh.id starter beginner run

variable {recentLimit id : Nat} {subject : SubjectId} {run : Run}

theorem Evidence.snoc (evidence : Evidence moves recentLimit subject id starter beginner run)
    (move : Move) : Evidence (moves ++ [move]) recentLimit subject id starter beginner run :=
  ⟨evidence.statistics.snoc move, evidence.listings.snoc move, evidence.activity.snoc move⟩

theorem startedAt_of_fetching {state : Aggregation} {refresh : Refresh}
    {action : Aggregation.Action} {change : Run → Run}
    (fetching : Aggregation.Fetching state refresh run action change) :
    (change run).startedAt = run.startedAt := by
  cases fetching with
  | @calls kind => cases kind <;> rfl
  | @abandons kind => cases kind <;> rfl
  | endsStatistics => rfl
  | endsListings => rfl
  | endsActivity => rfl

/-- When a fetch moves, it is known what it did. -/
theorem Evidence.fetched {refresh : Refresh} {action : Aggregation.Action} {change : Run → Run}
    (evidence : Evidence moves recentLimit refresh.subject refresh.id starter beginner run)
    (begun : [starter, beginner].Sublist moves)
    (found : move.before.refresh? refresh.id = some refresh)
    (limit : move.before.recentLimit = recentLimit) (acts : move.action = action)
    (fetching : Aggregation.Fetching move.before refresh run action change) :
    Evidence (moves ++ [move]) recentLimit refresh.subject refresh.id starter beginner
      (change run) := by
  have kept := evidence.snoc move
  cases fetching with
  | @calls kind unstarted =>
    have asked : Asks move refresh.subject refresh.id kind := ⟨acts, by rw [found]; rfl⟩
    cases kind with
    | statistics => exact ⟨.call begun asked, kept.listings, kept.activity⟩
    | listings => exact ⟨kept.statistics, .call begun asked, kept.activity⟩
    | activity => exact ⟨kept.statistics, kept.listings, .call begun asked⟩
  | @abandons kind =>
    cases kind with
    | statistics => exact ⟨.abandon, kept.listings, kept.activity⟩
    | listings => exact ⟨kept.statistics, .abandon, kept.activity⟩
    | activity => exact ⟨kept.statistics, kept.listings, .abandon⟩
  | endsStatistics waiting =>
    have waited : run.statistics = .waiting := of_decide_eq_true waiting
    have backed := evidence.statistics
    rw [waited] at backed
    refine ⟨backed.end fun value fresh => ?_, kept.listings, kept.activity⟩
    obtain ⟨answer, rfl, worked⟩ := Ending.ofCall_eq_fresh_iff.mp fresh
    rw [← Option.some.inj worked]
    exact acts
  | endsListings waiting =>
    have waited : run.listings = .waiting := of_decide_eq_true waiting
    have backed := evidence.listings
    rw [waited] at backed
    refine ⟨kept.statistics, backed.end fun value fresh => ?_, kept.activity⟩
    obtain ⟨answer, rfl, worked⟩ := Ending.ofCall_eq_fresh_iff.mp fresh
    rw [← Option.some.inj worked, ← limit]
    exact ⟨answer, acts, rfl⟩
  | endsActivity waiting =>
    have waited : run.activity = .waiting := of_decide_eq_true waiting
    have backed := evidence.activity
    rw [waited] at backed
    refine ⟨kept.statistics, kept.listings, backed.end fun value fresh => ?_⟩
    obtain ⟨answer, rfl, worked⟩ := Ending.ofCall_eq_fresh_iff.mp fresh
    rw [limit] at worked
    exact ⟨answer, acts, worked⟩

/-- Whatever a refresh does, it stays accounted for. -/
theorem Accounted.progress {old new : Refresh} {action : Aggregation.Action}
    (accounted : Accounted moves recentLimit old) (orderly : Orderly move.before)
    (present : old ∈ move.before.refreshes) (limit : move.before.recentLimit = recentLimit)
    (acts : move.action = action) (progress : Aggregation.Progress move.before action old new) :
    Accounted (moves ++ [move]) recentLimit new := by
  have longer : moves.Sublist (moves ++ [move]) := List.sublist_append_left _ _
  obtain ⟨starter, starts, started, evidence⟩ := accounted
  refine ⟨starter, ?_, started.trans longer, ?_⟩
  · rw [progress.subject_eq, progress.id_eq]
    exact starts
  intro run begun
  cases progress with
  | rests =>
    obtain ⟨beginner, begins, ordered, backed⟩ := evidence run begun
    exact ⟨beginner, begins, ordered.trans longer, backed.snoc move⟩
  | begins begins =>
    obtain rfl := Option.some.inj begun
    exact ⟨move, ⟨acts.trans begins, rfl⟩, started.append (List.Sublist.refl [move]),
      ⟨.unstarted, .unstarted, .unstarted⟩⟩
  | @moves before change begunBefore fetching =>
    rw [Aggregation.run?_withRun change begunBefore] at begun
    obtain rfl := Option.some.inj begun
    obtain ⟨beginner, begins, ordered, backed⟩ := evidence before begunBefore
    have found : move.before.refresh? old.id = some old := orderly.refresh?_of_mem present
    refine ⟨beginner, ?_, ordered.trans longer, backed.fetched ordered found limit acts fetching⟩
    rw [startedAt_of_fetching fetching]
    exact begins
  | ends ends fetching =>
    obtain rfl := Option.some.inj begun
    obtain ⟨beginner, begins, ordered, backed⟩ := evidence _ (by rw [Refresh.run?, fetching])
    exact ⟨beginner, begins, ordered.trans longer, backed.snoc move⟩

/-! ### Where a dashboard comes from -/

/-- Where a dashboard of an account comes from: one refresh, started for the account, that called
the catalog for the account, was answered three times, and wrote the dashboard made of the answers
and of the moment at which it began. -/
structure Origin (moves : List Move) (recentLimit : Nat) (subject : SubjectId)
    (snapshot : Snapshot) where
  /-- The number of the refresh. -/
  id : Nat
  /-- The step in which the refresh was started. -/
  starter : Move
  /-- The step in which it began. -/
  beginner : Move
  /-- The step in which it wrote. -/
  writer : Move
  /-- The steps before it wrote. -/
  earlier : List Move
  /-- The steps since. -/
  later : List Move
  /-- The answer of the fetch of the statistics. -/
  statistics : Statistics
  /-- What the answer of the fetch of the newest listings came to. -/
  listings : List Listing
  /-- What the answer of the fetch of the activity came to. -/
  activity : List Activity
  /-- What was written. -/
  entry : Entry Snapshot
  /-- The steps are those of the run. -/
  split : moves = earlier ++ writer :: later
  /-- The refresh was started for the account. -/
  starts : Starts starter subject id
  /-- It began. -/
  begins : Begins beginner id beginner.before.now
  /-- The statistics were asked for, and told. -/
  statisticsTold : Answered earlier starter beginner (Asks · subject id .statistics)
    (Aggregation.Action.TellsStatistics id) statistics
  /-- The newest listings were asked for, and told. -/
  listingsTold : Answered earlier starter beginner (Asks · subject id .listings)
    (Aggregation.Action.TellsListings recentLimit id) listings
  /-- The activity was asked for, and told. -/
  activityTold : Answered earlier starter beginner (Asks · subject id .activity)
    (Aggregation.Action.TellsActivity recentLimit (.utc beginner.before.now) id) activity
  /-- The refresh wrote. -/
  writes : Writes writer subject id entry
  /-- It wrote the dashboard. -/
  stored : entry.value = snapshot
  /-- The dashboard is made of the three answers. -/
  assembled : snapshot = .assemble statistics listings activity (.utc beginner.before.now)

/-- What happens later does not change where a dashboard comes from. -/
def Origin.snoc {snapshot : Snapshot} (origin : Origin moves recentLimit subject snapshot)
    (move : Move) : Origin (moves ++ [move]) recentLimit subject snapshot :=
  { origin with
    later := origin.later ++ [move]
    split := by
      have longer := congrArg (· ++ [move]) origin.split
      rwa [List.append_assoc, List.cons_append] at longer }

/-- A dashboard that comes from a refresh shows as much as it may. -/
theorem Origin.lengths {snapshot : Snapshot} (origin : Origin moves recentLimit subject snapshot) :
    snapshot.listings.length ≤ recentLimit ∧ snapshot.activity.length ≤ recentLimit := by
  rw [origin.assembled]
  obtain ⟨-, -, -, ⟨listed, -, newest⟩, -⟩ := origin.listingsTold
  obtain ⟨-, -, -, ⟨told, -, records⟩, -⟩ := origin.activityTold
  refine ⟨?_, recentActivity?_length_le records⟩
  show origin.listings.length ≤ recentLimit
  rw [newest]
  exact recentListings_length_le _ _

/-- A refresh that writes is where the dashboard comes from. -/
theorem origin_of_commits {refresh : Refresh} {entry : Entry Snapshot}
    (accounted : Accounted moves recentLimit refresh)
    {state : Aggregation} (commits : Aggregation.Commits state refresh run entry)
    (writes : Writes move refresh.subject refresh.id entry) :
    ∃ origin : Origin (moves ++ [move]) recentLimit refresh.subject entry.value,
      origin.writer = move := by
  obtain ⟨starter, starts, -, evidence⟩ := accounted
  obtain ⟨beginner, ⟨acts, moment⟩, -, backed⟩ :=
    evidence run (by rw [Refresh.run?, commits.fetching])
  obtain ⟨statistics, listings, activity, first, second, third, made⟩ :=
    Run.result?_eq_ok_iff.mp commits.assembled
  obtain ⟨backedFirst, backedSecond, backedThird⟩ := backed
  rw [first] at backedFirst
  rw [second] at backedSecond
  rw [third, ← moment] at backedThird
  cases backedFirst with | ended statisticsTold =>
  cases backedSecond with | ended listingsTold =>
  cases backedThird with | ended activityTold =>
  refine ⟨{
    id := refresh.id, starter, beginner, writer := move, earlier := moves, later := []
    statistics, listings, activity, entry
    split := rfl
    starts
    begins := ⟨acts, rfl⟩
    statisticsTold := statisticsTold _ rfl
    listingsTold := listingsTold _ rfl
    activityTold := activityTold _ rfl
    writes
    stored := rfl
    assembled := by rw [made, moment] }, rfl⟩

end Move

namespace Aggregation

open Move

variable {start state : Aggregation} {moves : List Move} {subject : SubjectId}

/-! ### The whole run -/

/-- Every refresh is accounted for. -/
theorem accounted_of_trace (orderly : Orderly start) (empty : start.refreshes = [])
    (trace : Trace step? start moves state) :
    ∀ refresh ∈ state.refreshes, Accounted moves start.recentLimit refresh := by
  induction trace with
  | nil =>
    intro refresh member
    rw [empty] at member
    cases member
  | @snoc moves before after action events trace taken inductionHypothesis =>
    intro refresh member
    have changed := change_of_step taken
    have kept : Orderly before := orderly.of_trace trace
    rcases changed.progress kept member with ⟨old, present, progress⟩ | ⟨subject, -, free, rfl⟩
    · exact (inductionHypothesis old present).progress kept present (onward_of_trace trace).limit
        rfl progress
    · have flew : (subject, before.nextId) ∈ after.flights :=
        (kept.change changed).held _ member rfl rfl
      have flying : after.flight? subject = some before.nextId :=
        (kept.change changed).flight?_eq_some_iff.mpr flew
      exact ⟨⟨before, action, events, after⟩, ⟨free, flying⟩, List.sublist_append_right _ _,
        fun run begun => by cases begun⟩

/-- Every dashboard that is remembered comes from a refresh, and is remembered for the set time from
when it was written. -/
theorem origin_of_stored (orderly : Orderly start) (empty : start.refreshes = [])
    (nothing : start.stores = []) (trace : Trace step? start moves state) {entry : Entry Snapshot}
    (stored : (subject, entry) ∈ state.stores) :
    ∃ origin : Origin moves start.recentLimit subject entry.value,
      origin.writer.before.now ≤ state.now ∧
        entry.expiresAt = origin.writer.before.now + start.ttl.nanos := by
  induction trace with
  | nil =>
    rw [nothing] at stored
    cases stored
  | @snoc moves before after action events trace taken inductionHypothesis =>
    have changed := change_of_step taken
    have onward := onward_of_trace trace
    rcases changed.stores stored with old | ⟨refresh, run, written, commits, same, acts, told, led⟩
    · obtain ⟨origin, ordered, expiry⟩ := inductionHypothesis old
      exact ⟨origin.snoc _, Int.le_trans ordered changed.onward.time, expiry⟩
    · obtain ⟨rfl, rfl⟩ := Prod.mk.inj same
      have accounted := accounted_of_trace orderly empty trace refresh
        (mem_refreshes_of_refresh? commits.found).1
      have writes : Writes ⟨before, action, events, after⟩ refresh.subject refresh.id entry := by
        refine ⟨acts, ⟨_, told ▸ List.mem_cons_self⟩, ?_⟩
        rw [led]
        exact stored?_written before refresh run entry
      obtain ⟨origin, same⟩ := origin_of_commits accounted commits writes
      refine ⟨origin, ?_, ?_⟩
      · rw [same]
        exact changed.onward.time
      · rw [same, eq_of_later? commits.told, onward.ttl]

end Aggregation

end UserDashboard.Dashboard
