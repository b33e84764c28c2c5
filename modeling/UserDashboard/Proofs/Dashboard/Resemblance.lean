/-
This file says how much of a refresh is left to chance.

Once a refresh was cancelled it is left to chance how those of its fetches end that have not ended,
and what is reported of a fetch that breaks off is left to chance at all times. Two refreshes
resemble each other if they are the same but for their number and for such ends. Whatever one of
them can do the other one can do as well, and they end together. All that anybody can tell one from
the other by is the reason for which they failed.
-/

import Mathlib.Data.List.Forall2
import UserDashboard.Proofs.Dashboard.Change

namespace UserDashboard.Dashboard

open Catalog Time

/-! ### What is made known -/

/-- Whether it is on account of a fetch that there is no dashboard. -/
def DashboardError.isOfFetch : DashboardError → Bool
  | .upstreamUnavailable (.fellBack _) | .upstreamUnavailable (.crashed _ _) | .cancelled => true
  | _ => false

/-- A fetch broke off, and this was reported of it. -/
def DashboardError.crashed (kind : FetchKind) (report : String) : DashboardError :=
  .upstreamUnavailable (.crashed kind report)

/-- Two events tell the same but for what was reported of a fetch that broke off, and, if chance did
not decide alike, for how the fetches ended on whose account a refresh failed. -/
inductive Event.Alike (decided : Prop) : Event → Event → Prop where
  /-- They are the same event. -/
  | same (event : Event) : Alike decided event event
  /-- Of the fetch that broke off something else was reported. -/
  | reported (subject : SubjectId) (kind : FetchKind) (report other : String) :
      Alike decided (.refreshFailed subject (DashboardError.crashed kind report).message)
        (.refreshFailed subject (DashboardError.crashed kind other).message)
  /-- The fetches ended in different ways. -/
  | ended (undecided : ¬decided) (subject : SubjectId) {error other : DashboardError}
      (ofFetch : error.isOfFetch) (ofFetchToo : other.isOfFetch) :
      Alike decided (.refreshFailed subject error.message) (.refreshFailed subject other.message)

/-- It can be told from the reason which fetch broke off. -/
theorem kind_of_crashed {kind other : FetchKind} {report reportToo : String}
    (same : (DashboardError.crashed kind report).message =
      (DashboardError.crashed other reportToo).message) : kind = other := by
  have texts : kind.name ++ " task failed: " ++ report =
      other.name ++ " task failed: " ++ reportToo := (String.append_right_inj _).mp same
  have letters := congrArg String.toList texts
  simp only [String.toList_append] at letters
  cases kind <;> cases other <;> first | rfl | simp [FetchKind.name] at letters

namespace Event.Alike

variable {decided : Prop} {event other third : Event}

theorem symm (alike : Alike decided event other) : Alike decided other event := by
  cases alike with
  | same => exact .same _
  | reported subject kind report other => exact .reported subject kind other report
  | ended undecided subject ofFetch ofFetchToo =>
    exact .ended undecided subject ofFetchToo ofFetch

theorem trans (first : Alike decided event other) (second : Alike decided other third) :
    Alike decided event third := by
  cases first with
  | same => exact second
  | reported subject kind report reportToo =>
    generalize told : Event.refreshFailed subject _ = middle at second
    cases second with
    | same => exact told ▸ .reported subject kind report reportToo
    | reported =>
      obtain ⟨rfl, same⟩ := Event.refreshFailed.inj told
      obtain rfl := kind_of_crashed same
      exact .reported _ kind _ _
    | ended undecided _ _ ofFetch =>
      obtain ⟨rfl, -⟩ := Event.refreshFailed.inj told
      have ofFetchFirst : (DashboardError.crashed kind report).isOfFetch := rfl
      exact .ended undecided _ ofFetchFirst ofFetch
  | ended undecided subject ofFetch ofFetchToo =>
    generalize told : Event.refreshFailed subject _ = middle at second
    cases second with
    | same => exact told ▸ .ended undecided subject ofFetch ofFetchToo
    | reported _ kind _ report =>
      obtain ⟨rfl, -⟩ := Event.refreshFailed.inj told
      have ofFetchLast : (DashboardError.crashed kind report).isOfFetch := rfl
      exact .ended undecided _ ofFetch ofFetchLast
    | ended _ _ _ ofFetchLast =>
      obtain ⟨rfl, -⟩ := Event.refreshFailed.inj told
      exact .ended undecided _ ofFetch ofFetchLast

/-- Events are alike to themselves one by one. -/
theorem all_refl (decided : Prop) (events : List Event) :
    List.Forall₂ (Alike decided) events events :=
  List.forall₂_same.mpr fun event _ => .same event

/-- What is alike to the same events is alike. -/
theorem all_trans {first second events : List Event}
    (alike : List.Forall₂ (Alike decided) first events)
    (alikeToo : List.Forall₂ (Alike decided) second events) :
    List.Forall₂ (Alike decided) first second := by
  induction alike generalizing second with
  | nil =>
    cases alikeToo
    exact .nil
  | cons here _ inductionHypothesis =>
    cases alikeToo with
    | cons hereToo later => exact .cons (here.trans hereToo.symm) (inductionHypothesis later)

end Event.Alike

/-! ### What a refresh comes to -/

theorem Ending.isOfFetch_of_settle {α : Type} {kind : FetchKind} {report : String}
    {ending : Ending α} {error : DashboardError}
    (failed : ending.settle kind report = .error error) :
    error.isOfFetch := by
  unfold Ending.settle at failed
  split at failed <;> cases failed <;> rfl

/-- How a fetch ended matters to all alike, unless it broke off. -/
theorem Ending.settle_eq {α : Type} (ending : Ending α) (kind : FetchKind) (report other : String) :
    ending.settle kind report = ending.settle kind other ∨
      ending.settle kind report = .error (.crashed kind report) ∧
        ending.settle kind other = .error (.crashed kind other) := by
  unfold Ending.settle
  split
  · exact Or.inl rfl
  · exact Or.inl rfl
  · exact Or.inl rfl
  · exact Or.inr ⟨rfl, rfl⟩

namespace Run

variable {run other : Run} {reports reportsToo : FetchKind → String} {error : DashboardError}
  {kind : FetchKind}

theorem result?_of_ended {statistics : Ending Statistics} {listings : Ending (List Listing)}
    {activity : Ending (List Activity)} (first : run.statistics = .ended statistics)
    (second : run.listings = .ended listings) (third : run.activity = .ended activity) :
    run.result? reports = some (do
      let statistics ← statistics.settle .statistics (reports .statistics)
      let listings ← listings.settle .listings (reports .listings)
      let activity ← activity.settle .activity (reports .activity)
      .ok (Snapshot.assemble statistics listings activity (.utc run.startedAt))) := by
  simp only [result?, first, second, third, Fetch.ending?]

theorem exists_ended (ended : run.allEnded) :
    ∃ statistics listings activity, run.statistics = .ended statistics ∧
      run.listings = .ended listings ∧ run.activity = .ended activity := by
  simp only [allEnded, Fetch.hasEnded, Bool.and_eq_true, Option.isSome_iff_exists,
    Fetch.ending?_eq_some_iff] at ended
  obtain ⟨⟨⟨statistics, first⟩, listings, second⟩, activity, third⟩ := ended
  exact ⟨statistics, listings, activity, first, second, third⟩

/-- When a refresh fails by itself it is on account of one of its fetches. -/
theorem isOfFetch_of_result? (failed : run.result? reports = some (.error error)) :
    error.isOfFetch := by
  rcases settled_of_result? failed with ⟨_, -, settled⟩ | ⟨_, -, settled⟩ | ⟨_, -, settled⟩
  all_goals exact Ending.isOfFetch_of_settle settled

/-- What is reported of fetches that break off only matters to the reason why the refresh fails. -/
theorem result?_eq (run : Run) (reports reportsToo : FetchKind → String) :
    run.result? reports = run.result? reportsToo ∨
      ∃ kind, run.result? reports = some (.error (.crashed kind (reports kind))) ∧
        run.result? reportsToo = some (.error (.crashed kind (reportsToo kind))) := by
  by_cases ended : run.allEnded
  · obtain ⟨statistics, listings, activity, first, second, third⟩ := exists_ended ended
    rw [result?_of_ended first second third, result?_of_ended first second third]
    rcases statistics.settle_eq .statistics (reports .statistics) (reportsToo .statistics) with
      same | ⟨crashed, crashedToo⟩
    · rw [same]
      cases statistics.settle .statistics (reportsToo .statistics) with
      | error => exact Or.inl rfl
      | ok =>
        rcases listings.settle_eq .listings (reports .listings) (reportsToo .listings) with
          same | ⟨crashed, crashedToo⟩
        · rw [same]
          cases listings.settle .listings (reportsToo .listings) with
          | error => exact Or.inl rfl
          | ok =>
            rcases activity.settle_eq .activity (reports .activity) (reportsToo .activity) with
              same | ⟨crashed, crashedToo⟩
            · rw [same]
              exact Or.inl rfl
            · rw [crashed, crashedToo]
              exact Or.inr ⟨.activity, rfl, rfl⟩
        · rw [crashed, crashedToo]
          exact Or.inr ⟨.listings, rfl, rfl⟩
    · rw [crashed, crashedToo]
      exact Or.inr ⟨.statistics, rfl, rfl⟩
  · have nothing : ∀ reports, run.result? reports = none := fun reports => by
      rw [← Option.not_isSome_iff_eq_none, isSome_result?]
      exact ended
    exact Or.inl (by rw [nothing, nothing])

end Run

/-! ### Refreshes at the same point -/

/-- Two fetches stand alike, or both have ended. -/
def Fetch.Level {α : Type} (fetch other : Fetch α) : Prop :=
  fetch = other ∨ fetch.hasEnded ∧ other.hasEnded

namespace Fetch

variable {α : Type} {fetch other : Fetch α}

theorem Level.refl (fetch : Fetch α) : fetch.Level fetch :=
  Or.inl rfl

theorem level_ended (ending endingToo : Ending α) :
    (Fetch.ended ending).Level (.ended endingToo) :=
  Or.inr ⟨rfl, rfl⟩

theorem Level.hasEnded (level : fetch.Level other) : other.hasEnded = fetch.hasEnded := by
  rcases level with rfl | ⟨ended, endedToo⟩
  · rfl
  · rw [ended, endedToo]

/-- A fetch that has not ended stands as the other one does. -/
theorem Level.eq_iff (level : fetch.Level other) {stand : Fetch α}
    (lasts : stand.hasEnded = false) : other = stand ↔ fetch = stand := by
  rcases level with rfl | ⟨ended, endedToo⟩
  · exact Iff.rfl
  · constructor
    · rintro rfl
      cases lasts.symm.trans endedToo
    · rintro rfl
      cases lasts.symm.trans ended

end Fetch

namespace Run

/-- The fetches of two refreshes stand alike or have both ended. -/
structure Level (run other : Run) : Prop where
  startedAt : other.startedAt = run.startedAt
  statistics : run.statistics.Level other.statistics
  listings : run.listings.Level other.listings
  activity : run.activity.Level other.activity

/-- A change lets a fetch end. -/
inductive Closes : FetchKind → (Run → Run) → Prop where
  | statistics (ending : Ending Statistics) :
      Closes .statistics ({ · with statistics := .ended ending })
  | listings (ending : Ending (List Listing)) :
      Closes .listings ({ · with listings := .ended ending })
  | activity (ending : Ending (List Activity)) :
      Closes .activity ({ · with activity := .ended ending })

variable {run other : Run} {kind : FetchKind} {change changeToo : Run → Run}

theorem closes_abandon (kind : FetchKind) : Closes kind (·.abandon kind) := by
  cases kind with
  | statistics => exact .statistics .cancelled
  | listings => exact .listings .cancelled
  | activity => exact .activity .cancelled

namespace Closes

/-- It does not matter to the end of a fetch whether it had called before. -/
theorem call (closes : Closes kind change) (run : Run) : change (run.call kind) = change run := by
  cases closes <;> rfl

theorem not_pending (closes : Closes kind change) (run : Run) :
    ¬((change run).isUnstarted kind ∨ (change run).isWaiting kind) := by
  cases closes <;> simp [isUnstarted, isWaiting]

end Closes

namespace Level

theorem refl (run : Run) : run.Level run :=
  ⟨rfl, .refl _, .refl _, .refl _⟩

theorem isUnstarted (level : run.Level other) (kind : FetchKind) :
    other.isUnstarted kind = run.isUnstarted kind := by
  cases kind
  · exact decide_eq_decide.mpr (level.statistics.eq_iff rfl)
  · exact decide_eq_decide.mpr (level.listings.eq_iff rfl)
  · exact decide_eq_decide.mpr (level.activity.eq_iff rfl)

theorem isWaiting (level : run.Level other) (kind : FetchKind) :
    other.isWaiting kind = run.isWaiting kind := by
  cases kind
  · exact decide_eq_decide.mpr (level.statistics.eq_iff rfl)
  · exact decide_eq_decide.mpr (level.listings.eq_iff rfl)
  · exact decide_eq_decide.mpr (level.activity.eq_iff rfl)

theorem allEnded (level : run.Level other) : other.allEnded = run.allEnded := by
  simp only [Run.allEnded, level.statistics.hasEnded, level.listings.hasEnded,
    level.activity.hasEnded]

theorem call (level : run.Level other) (kind : FetchKind) :
    (run.call kind).Level (other.call kind) := by
  cases kind
  · exact { level with statistics := .refl _ }
  · exact { level with listings := .refl _ }
  · exact { level with activity := .refl _ }

/-- A fetch ends in both, in whatever way it does. -/
theorem close (level : run.Level other) (closes : Closes kind change)
    (closesToo : Closes kind changeToo) : (change run).Level (changeToo other) := by
  cases closes <;> cases closesToo
  · exact { level with statistics := Fetch.level_ended _ _ }
  · exact { level with listings := Fetch.level_ended _ _ }
  · exact { level with activity := Fetch.level_ended _ _ }

end Level

end Run

/-- Two refreshes stand alike, and so do their fetches or both have ended. -/
inductive Stage.Level : Stage → Stage → Prop where
  | scheduled : Level .scheduled .scheduled
  | fetching {run other : Run} (level : run.Level other) : Level (.fetching run) (.fetching other)
  | lingering {run other : Run} (level : run.Level other) :
      Level (.lingering run) (.lingering other)

theorem Stage.Level.refl (stage : Stage) : stage.Level stage := by
  cases stage with
  | scheduled => exact .scheduled
  | fetching run => exact .fetching (.refl run)
  | lingering run => exact .lingering (.refl run)

namespace Refresh

/-- A refresh has an image under another number. If the refresh was cancelled and chance did not
decide alike, fetches that have ended may have ended differently. -/
structure Resembles (decided : Prop) (rename : Nat → Nat) (refresh image : Refresh) : Prop where
  id : image.id = rename refresh.id
  subject : image.subject = refresh.subject
  cancelled : image.cancelled = refresh.cancelled
  level : refresh.stage.Level image.stage
  exactly : decided ∨ refresh.cancelled = false → image.stage = refresh.stage

variable {decided : Prop} {rename aligned : Nat → Nat} {refresh image : Refresh}
  {change changeToo : Run → Run} {run other : Run}

namespace Resembles

theorem id_eq_iff (resembles : Resembles decided rename refresh image)
    (injective : rename.Injective) {id : Nat} : image.id = rename id ↔ refresh.id = id := by
  rw [resembles.id]
  exact injective.eq_iff

/-- The number of the image may be another one. -/
theorem align (resembles : Resembles decided rename refresh image)
    (agrees : aligned refresh.id = rename refresh.id) :
    Resembles decided aligned refresh image :=
  { resembles with id := resembles.id.trans agrees.symm }

theorem run? (resembles : Resembles decided rename refresh image) :
    Option.Rel Run.Level refresh.run? image.run? := by
  have level := resembles.level
  cases refresh
  cases image
  cases level with
  | scheduled => exact .none
  | fetching level | lingering level => exact .some level

theorem isDone (resembles : Resembles decided rename refresh image) :
    image.isDone = refresh.isDone := by
  have level := resembles.level
  cases refresh
  cases image
  cases level with
  | scheduled | fetching => rfl
  | lingering level => exact level.allEnded

/-- Both wait for their fetches, or neither does. -/
theorem fetching_or (resembles : Resembles decided rename refresh image) :
    (∃ run other, refresh.stage = .fetching run ∧ image.stage = .fetching other ∧
        run.Level other) ∨
      (∀ run, refresh.stage ≠ .fetching run) ∧ ∀ run, image.stage ≠ .fetching run := by
  have level := resembles.level
  cases refresh
  cases image
  cases level with
  | scheduled | lingering =>
    exact Or.inr ⟨fun _ waits => (by cases waits), fun _ waits => (by cases waits)⟩
  | fetching level => exact Or.inl ⟨_, _, rfl, rfl, level⟩

theorem withRun (resembles : Resembles decided rename refresh image)
    (levels : ∀ {run other : Run}, run.Level other → (change run).Level (changeToo other))
    (same : decided ∨ refresh.cancelled = false → change = changeToo) :
    Resembles decided rename (refresh.withRun change) (image.withRun changeToo) where
  id := resembles.id
  subject := resembles.subject
  cancelled := resembles.cancelled
  level := by
    have level := resembles.level
    cases refresh
    cases image
    cases level with
    | scheduled => exact .scheduled
    | fetching level => exact .fetching (levels level)
    | lingering level => exact .lingering (levels level)
  exactly settled := by
    unfold Refresh.withRun
    rw [resembles.exactly settled, same settled]

theorem begin (resembles : Resembles decided rename refresh image) (now : Moment) :
    Resembles decided rename { refresh with stage := .fetching (.start now) }
      { image with stage := .fetching (.start now) } :=
  { resembles with level := .refl _, exactly := fun _ => rfl }

theorem cancel (resembles : Resembles decided rename refresh image) :
    Resembles decided rename { refresh with cancelled := true } { image with cancelled := true } :=
  { resembles with
    cancelled := rfl
    exactly := fun settled => resembles.exactly (settled.imp_right nofun) }

/-- The refresh ends, and so does its image. -/
theorem retire (resembles : Resembles decided rename refresh image) (level : run.Level other)
    (same : decided ∨ refresh.cancelled = false → other = run) (cancel : Bool) :
    Resembles decided rename
      { refresh with cancelled := refresh.cancelled || cancel, stage := .lingering run }
      { image with cancelled := image.cancelled || cancel, stage := .lingering other } where
  id := resembles.id
  subject := resembles.subject
  cancelled := congrArg (· || cancel) resembles.cancelled
  level := .lingering level
  exactly settled := by
    have settled := settled.imp_right fun kept => (Bool.or_eq_false_iff.mp kept).1
    exact congrArg Stage.lingering (same settled)

end Resembles

end Refresh

end UserDashboard.Dashboard
