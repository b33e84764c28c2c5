/-
This file compares refreshes with those of a single account.

One aggregation mirrors what there is of an account in another one when it holds just that, in the
same order. Numbers are given out to all accounts in turn, so the refreshes of the account have
other numbers in the mirror; what is done under a number does not depend on which it is. The image
of a refresh resembles it but for what is left to chance. Whatever a refresh of the account can do
its image can do as well. Both make the like known with it, and the mirror still shows what there is
then.
-/

import UserDashboard.Proofs.Dashboard.Resemblance
import UserDashboard.Proofs.Dashboard.Untouched

namespace UserDashboard.Dashboard

open Cache Catalog Time

section Lists

variable {α β : Type} {related relatedToo : α → β → Prop} {first : List α} {second : List β}

/-- The members of two lists that are related one by one are related otherwise. -/
theorem forall₂_imp_of_mem (all : List.Forall₂ related first second)
    (implied : ∀ one ∈ first, ∀ other ∈ second, related one other → relatedToo one other) :
    List.Forall₂ relatedToo first second := by
  induction all with
  | nil => exact .nil
  | cons here _ inductionHypothesis =>
    refine .cons (implied _ List.mem_cons_self _ List.mem_cons_self here) ?_
    exact inductionHypothesis fun one member other memberToo =>
      implied one (List.mem_cons_of_mem _ member) other (List.mem_cons_of_mem _ memberToo)

/-- What is found in both of two lists whose members are related one by one. -/
theorem rel_find? {wanted : α → Bool} {wantedToo : β → Bool}
    (all : List.Forall₂ related first second)
    (same : ∀ {one other}, related one other → wantedToo other = wanted one) :
    Option.Rel related (first.find? wanted) (second.find? wantedToo) := by
  induction all with
  | nil => exact .none
  | @cons one other _ _ here _ inductionHypothesis =>
    rw [List.find?_cons, List.find?_cons, same here]
    cases wanted one with
    | true => exact .some here
    | false => exact inductionHypothesis

end Lists

/-- The action under another number, if a refresh takes it. -/
def Aggregation.Action.renamed (rename : Nat → Nat) : Aggregation.Action → Aggregation.Action
  | .begin id => .begin (rename id)
  | .call id kind => .call (rename id) kind
  | .abandon id kind => .abandon (rename id) kind
  | .endStatistics id result => .endStatistics (rename id) result
  | .endListings id result => .endListings (rename id) result
  | .endActivity id result => .endActivity (rename id) result
  | .conclude id => .conclude (rename id)
  | .expire id => .expire (rename id)
  | action => action

namespace Aggregation

/-- An aggregation holds just what there is of an account in another one. -/
structure Mirrors (decided : Prop) (subject : SubjectId) (rename : Nat → Nat)
    (state image : Aggregation) : Prop where
  now : image.now = state.now
  recentLimit : image.recentLimit = state.recentLimit
  deadline : image.deadline = state.deadline
  ttl : image.ttl = state.ttl
  live : ∀ later, state.now ≤ later → image.live? later subject = state.live? later subject
  flight : image.flight? subject = (state.flight? subject).map rename
  refreshes : List.Forall₂ (Refresh.Resembles decided rename) (state.refreshesOf subject)
    image.refreshes

/-- An aggregation and its mirror have made the like known, and the mirror still is one. -/
structure Concurs (decided : Prop) (subject : SubjectId) (rename : Nat → Nat)
    (result reflected : Aggregation × List Event) : Prop where
  told : List.Forall₂ (Event.Alike decided) result.2 reflected.2
  kept : Mirrors decided subject rename result.1 reflected.1

/-- What comes of the same action in an aggregation and in its mirror. -/
def Reflects (decided : Prop) (subject : SubjectId) (rename : Nat → Nat) :
    Option (Aggregation × List Event) → Option (Aggregation × List Event) → Prop :=
  Option.Rel (Concurs decided subject rename)

variable {decided : Prop} {state image after : Aggregation} {action : Action} {subject : SubjectId}
  {rename : Nat → Nat} {id : Nat} {refresh reflected : Refresh} {snapshot : Snapshot}
  {events : List Event} {run other : Run}

theorem flight?_release (state : Aggregation) (subject : SubjectId) :
    (state.release subject).flight? subject = none :=
  flight?_eq_none_iff.mpr fun _ member => (mem_release.mp member).2

/-- A refresh that was cancelled is not in flight. -/
theorem not_flying_of_cancelled (orderly : Orderly state) (present : refresh ∈ state.refreshes)
    (cancelled : refresh.cancelled = true) : state.flight? refresh.subject ≠ some refresh.id := by
  intro flying
  obtain ⟨-, current⟩ := orderly.owned _ (mem_flights_of_flight? flying) refresh present rfl
  cases cancelled.symm.trans current

/-- What becomes of a refresh with what its fetches come to. -/
def close (state : Aggregation) (refresh : Refresh) (startedAt : Moment) :
    Except DashboardError Snapshot → Aggregation × List Event
  | .ok snapshot => state.commit refresh startedAt snapshot
  | .error error => state.fail refresh error

theorem conclude?_of_fetching (found : state.refresh? id = some refresh)
    (fetching : refresh.stage = .fetching run) :
    state.conclude? id = (run.result? (state.reports id)).map fun result =>
      ((state.close refresh run.startedAt result).1.retire id run false,
        (state.close refresh run.startedAt result).2) := by
  unfold conclude?
  simp only [found, fetching, ← retire_false]
  refine Option.map_congr fun result _ => ?_
  cases result <;> rfl

/-- Whatever a refresh comes to that is not in flight, it fails on account of its fetches. -/
theorem close_of_grounded {result : Except DashboardError Snapshot} {reports : FetchKind → String}
    (grounded : state.flight? refresh.subject ≠ some refresh.id)
    (came : run.result? reports = some result) (startedAt : Moment) :
    ∃ error : DashboardError, error.isOfFetch ∧ state.close refresh startedAt result =
      (state, [.refreshFailed refresh.subject error.message]) := by
  cases result with
  | ok snapshot =>
    refine ⟨.cancelled, rfl, ?_⟩
    rw [close, commit, if_neg fun flying => grounded flying.1]
  | error error =>
    refine ⟨error, Run.isOfFetch_of_result? came, ?_⟩
    rw [close, fail, releaseOwn, if_neg grounded]

theorem refreshes_releaseOwn (state : Aggregation) (refresh : Refresh) :
    (state.releaseOwn refresh).refreshes = state.refreshes := by
  obtain ⟨flights, -, same⟩ := releaseOwn_eq state refresh
  rw [same]

theorem refreshes_close (state : Aggregation) (refresh : Refresh) (startedAt : Moment)
    (result : Except DashboardError Snapshot) :
    (state.close refresh startedAt result).1.refreshes = state.refreshes := by
  cases result with
  | ok snapshot =>
    show (state.commit refresh startedAt snapshot).1.refreshes = state.refreshes
    unfold commit
    split
    · split <;> rfl
    · rfl
  | error error => exact refreshes_releaseOwn state refresh

theorem conclude?_of_idle (found : state.refresh? id = some refresh)
    (idle : ∀ run, refresh.stage ≠ .fetching run) : state.conclude? id = none := by
  unfold conclude?
  rw [found]
  dsimp only
  split
  · exact absurd ‹_› (idle _)
  · rfl

theorem expire?_of_idle (found : state.refresh? id = some refresh)
    (idle : ∀ run, refresh.stage ≠ .fetching run) : state.expire? id = none := by
  unfold expire?
  rw [found]
  dsimp only
  split
  · exact absurd ‹_› (idle _)
  · rfl

/-- Whatever was not left to chance, the fetches of a refresh stand as those of its image. -/
theorem same_run (orderly : Orderly state) (present : refresh ∈ state.refreshes)
    (alike : Refresh.Resembles decided rename refresh reflected)
    (fetching : refresh.stage = .fetching run) (fetchingToo : reflected.stage = .fetching other) :
    ∀ old ∈ state.refreshes, old.id = refresh.id →
      decided ∨ old.cancelled = false → other = run := by
  intro old there number settled
  rw [orderly.eq_of_id there present number] at settled
  have stands := alike.exactly settled
  rw [fetching, fetchingToo] at stands
  exact Stage.fetching.inj stands

namespace Mirrors

theorem of_untouched (mirrors : Mirrors decided subject rename state image)
    (untouched : Untouched subject state after) :
    Mirrors decided subject rename after image where
  now := mirrors.now.trans untouched.now.symm
  recentLimit := mirrors.recentLimit.trans untouched.recentLimit.symm
  deadline := mirrors.deadline.trans untouched.deadline.symm
  ttl := mirrors.ttl.trans untouched.ttl.symm
  live later ordered := by
    rw [untouched.now] at ordered
    rw [mirrors.live later ordered, untouched.live later ordered]
  flight := by rw [mirrors.flight, untouched.flight]
  refreshes := untouched.refreshes ▸ mirrors.refreshes

/-- The image of a refresh is found under its new number. -/
theorem refresh? (mirrors : Mirrors decided subject rename state image)
    (injective : rename.Injective) (owns : state.Owns subject id) :
    state.refresh? id = none ∧ image.refresh? (rename id) = none ∨
      ∃ refresh reflected, state.refresh? id = some refresh ∧
        image.refresh? (rename id) = some reflected ∧
        Refresh.Resembles decided rename refresh reflected := by
  have own : ∀ refresh ∈ state.refreshes, decide (refresh.id = id) →
      decide (refresh.subject = subject) := fun refresh present number =>
    decide_eq_true (owns.owner refresh present (of_decide_eq_true number))
  have found : Option.Rel (Refresh.Resembles decided rename)
      ((state.refreshesOf subject).find? (·.id = id))
      (image.refreshes.find? (·.id = rename id)) :=
    rel_find? mirrors.refreshes fun resembles =>
      decide_eq_decide.mpr (resembles.id_eq_iff injective)
  rw [refreshesOf, find?_filter_of_imp own] at found
  unfold Aggregation.refresh?
  generalize state.refreshes.find? _ = one, image.refreshes.find? _ = other at found ⊢
  cases found with
  | none => exact Or.inl ⟨rfl, rfl⟩
  | some resembles => exact Or.inr ⟨_, _, rfl, rfl, resembles⟩

theorem run? (mirrors : Mirrors decided subject rename state image) (injective : rename.Injective)
    (owns : state.Owns subject id) :
    Option.Rel Run.Level ((state.refresh? id).bind Refresh.run?)
      ((image.refresh? (rename id)).bind Refresh.run?) := by
  rcases mirrors.refresh? injective owns with ⟨absent, absentToo⟩ | ⟨_, _, found, foundToo, alike⟩
  · rw [absent, absentToo]
    exact .none
  · rw [found, foundToo]
    exact alike.run?

/-- The refresh in flight has the image that is in flight. -/
theorem flight?_eq_some_iff (mirrors : Mirrors decided subject rename state image)
    (injective : rename.Injective) :
    image.flight? subject = some (rename id) ↔ state.flight? subject = some id := by
  rw [mirrors.flight]
  exact (Option.map_injective injective).eq_iff (b := some id)

theorem current_iff (mirrors : Mirrors decided refresh.subject rename state image)
    (injective : rename.Injective) (alike : Refresh.Resembles decided rename refresh reflected) :
    image.flight? reflected.subject = some reflected.id ↔
      state.flight? refresh.subject = some refresh.id := by
  rw [alike.subject, alike.id]
  exact mirrors.flight?_eq_some_iff injective

/-! ### Changes -/

/-- A refresh and its image are changed. -/
theorem modify {change changeToo : Refresh → Refresh}
    (mirrors : Mirrors decided subject rename state image) (injective : rename.Injective)
    (kept : ∀ refresh, (change refresh).subject = refresh.subject)
    (resembles : ∀ refresh ∈ state.refreshes, refresh.id = id → ∀ reflected,
      Refresh.Resembles decided rename refresh reflected →
        Refresh.Resembles decided rename (change refresh) (changeToo reflected)) :
    Mirrors decided subject rename (state.modify id change)
      (image.modify (rename id) changeToo) := by
  refine ⟨mirrors.now, mirrors.recentLimit, mirrors.deadline, mirrors.ttl, mirrors.live,
    mirrors.flight, ?_⟩
  rw [refreshesOf_modify kept]
  unfold Aggregation.modify
  rw [List.forall₂_map_left_iff, List.forall₂_map_right_iff]
  refine forall₂_imp_of_mem mirrors.refreshes fun refresh own reflected _ alike => ?_
  have present := (mem_refreshesOf.mp own).1
  by_cases acts : refresh.id = id
  · rw [if_pos acts, if_pos ((alike.id_eq_iff injective).mpr acts)]
    exact resembles refresh present acts reflected alike
  · rw [if_neg acts, if_neg fun same => acts ((alike.id_eq_iff injective).mp same)]
    exact alike

theorem tidy (mirrors : Mirrors decided subject rename state image) :
    Mirrors decided subject rename state.tidy image.tidy := by
  refine ⟨mirrors.now, mirrors.recentLimit, mirrors.deadline, mirrors.ttl, mirrors.live,
    mirrors.flight, ?_⟩
  unfold refreshesOf Aggregation.tidy
  rw [List.filter_comm]
  refine List.rel_filter (fun refresh reflected alike => ?_) mirrors.refreshes
  simp only [alike.isDone]

theorem release (mirrors : Mirrors decided subject rename state image) :
    Mirrors decided subject rename (state.release subject) (image.release subject) := by
  refine ⟨mirrors.now, mirrors.recentLimit, mirrors.deadline, mirrors.ttl, mirrors.live, ?_,
    mirrors.refreshes⟩
  rw [flight?_release, flight?_release]
  rfl

/-- What is remembered of the account is the same in the mirror. -/
theorem remember {snapshots reflected : SnapshotCache}
    (mirrors : Mirrors decided subject rename state image) (ttl : snapshots.entries.ttl = state.ttl)
    (ttlToo : reflected.entries.ttl = image.ttl)
    (live : ∀ later, state.now ≤ later →
      reflected.entries.live? later subject = snapshots.entries.live? later subject) :
    Mirrors decided subject rename { state with snapshots }
      { image with snapshots := reflected } :=
  ⟨mirrors.now, mirrors.recentLimit, mirrors.deadline,
    ttlToo.trans (mirrors.ttl.trans ttl.symm), live, mirrors.flight, mirrors.refreshes⟩

/-! ### Ends -/

theorem releaseOwn (mirrors : Mirrors decided subject rename state image)
    (injective : rename.Injective) (account : refresh.subject = subject)
    (alike : Refresh.Resembles decided rename refresh reflected) :
    Mirrors decided subject rename (state.releaseOwn refresh) (image.releaseOwn reflected) := by
  subst account
  unfold Aggregation.releaseOwn
  by_cases flying : state.flight? refresh.subject = some refresh.id
  · rw [if_pos flying, if_pos ((mirrors.current_iff injective alike).mpr flying), alike.subject]
    exact mirrors.release
  · rw [if_neg flying, if_neg fun still => flying ((mirrors.current_iff injective alike).mp still)]
    exact mirrors

theorem commit (mirrors : Mirrors decided subject rename state image)
    (injective : rename.Injective) (account : refresh.subject = subject)
    (alike : Refresh.Resembles decided rename refresh reflected) (startedAt : Moment)
    (snapshot : Snapshot) :
    (image.commit reflected startedAt snapshot).2 = (state.commit refresh startedAt snapshot).2 ∧
      Mirrors decided subject rename (state.commit refresh startedAt snapshot).1
        (image.commit reflected startedAt snapshot).1 := by
  subst account
  have elapsed : image.elapsedSince startedAt = state.elapsedSince startedAt := by
    unfold elapsedSince
    rw [mirrors.now]
  have current :
      (image.flight? reflected.subject = some reflected.id ∧ reflected.cancelled = false) ↔
      (state.flight? refresh.subject = some refresh.id ∧ refresh.cancelled = false) := by
    rw [alike.cancelled, mirrors.current_iff injective alike]
  unfold Aggregation.commit
  by_cases flying : state.flight? refresh.subject = some refresh.id ∧ refresh.cancelled = false
  · rw [if_pos flying, if_pos (current.mpr flying), elapsed, alike.subject]
    have told : later? image.now image.snapshots.entries.ttl =
        later? state.now state.snapshots.entries.ttl := by
      rw [mirrors.now]
      exact congrArg _ mirrors.ttl
    simp only [SnapshotCache.put?, ExpiringMap.insert?, told]
    cases snapshot.loading with
    | true => exact ⟨rfl, mirrors.release⟩
    | false =>
      cases later? state.now state.snapshots.entries.ttl with
      | none => exact ⟨rfl, mirrors⟩
      | some expiry =>
        refine ⟨rfl, release (mirrors.remember (ExpiringMap.ttl_store _ _ _)
          (ExpiringMap.ttl_store _ _ _) fun later _ => ?_)⟩
        rw [mirrors.now]
        exact (ExpiringMap.live?_store _ _ _ _).trans (ExpiringMap.live?_store _ _ _ _).symm
  · rw [if_neg flying, if_neg fun still => flying (current.mp still), alike.subject]
    exact ⟨rfl, mirrors⟩

/-- A refresh and its image come to the like, if that differs in nothing but what was reported of a
fetch that broke off. -/
theorem close (mirrors : Mirrors decided subject rename state image)
    (injective : rename.Injective) (account : refresh.subject = subject)
    (alike : Refresh.Resembles decided rename refresh reflected) (startedAt : Moment)
    {result resultToo : Except DashboardError Snapshot}
    (same : result = resultToo ∨ ∃ kind report reportToo,
      result = .error (.crashed kind report) ∧ resultToo = .error (.crashed kind reportToo)) :
    Concurs decided subject rename (state.close refresh startedAt result)
      (image.close reflected startedAt resultToo) := by
  have failed := mirrors.releaseOwn injective account alike
  rcases same with rfl | ⟨kind, report, reportToo, rfl, rfl⟩
  · cases result with
    | ok snapshot =>
      obtain ⟨told, kept⟩ := mirrors.commit injective account alike startedAt snapshot
      exact ⟨told ▸ Event.Alike.all_refl decided _, kept⟩
    | error error =>
      refine ⟨.cons ?_ .nil, failed⟩
      rw [alike.subject]
      exact .same _
  · refine ⟨.cons ?_ .nil, failed⟩
    rw [alike.subject]
    exact .reported refresh.subject kind report reportToo

/-- A refresh that is not in flight comes to the like as its image, whatever both come to. -/
theorem close_of_grounded (mirrors : Mirrors decided subject rename state image)
    (injective : rename.Injective) (account : refresh.subject = subject)
    (alike : Refresh.Resembles decided rename refresh reflected) (undecided : ¬decided)
    (grounded : state.flight? refresh.subject ≠ some refresh.id) (startedAt : Moment)
    {result resultToo : Except DashboardError Snapshot} {reports reportsToo : FetchKind → String}
    (came : run.result? reports = some result)
    (cameToo : other.result? reportsToo = some resultToo) :
    Concurs decided subject rename (state.close refresh startedAt result)
      (image.close reflected startedAt resultToo) := by
  subst account
  have groundedToo : image.flight? reflected.subject ≠ some reflected.id :=
    fun flying => grounded ((mirrors.current_iff injective alike).mp flying)
  obtain ⟨error, ofFetch, ended⟩ := Aggregation.close_of_grounded grounded came startedAt
  obtain ⟨errorToo, ofFetchToo, endedToo⟩ :=
    Aggregation.close_of_grounded groundedToo cameToo startedAt
  rw [ended, endedToo, alike.subject]
  exact ⟨.cons (.ended undecided refresh.subject ofFetch ofFetchToo) .nil, mirrors⟩

/-- What the fetches of a refresh and of its image come to is the like for both. -/
theorem close_of_result? (mirrors : Mirrors decided subject rename state image)
    (injective : rename.Injective) (orderly : Orderly state) (present : refresh ∈ state.refreshes)
    (account : refresh.subject = subject)
    (alike : Refresh.Resembles decided rename refresh reflected)
    (same : decided ∨ refresh.cancelled = false → other = run) (startedAt : Moment)
    {result resultToo : Except DashboardError Snapshot} {reports reportsToo : FetchKind → String}
    (came : run.result? reports = some result)
    (cameToo : other.result? reportsToo = some resultToo) :
    Concurs decided subject rename (state.close refresh startedAt result)
      (image.close reflected startedAt resultToo) := by
  by_cases settled : decided ∨ refresh.cancelled = false
  · obtain rfl := same settled
    refine mirrors.close injective account alike startedAt ?_
    rcases other.result?_eq reports reportsToo with equal | ⟨kind, crashed, crashedToo⟩
    · exact Or.inl (Option.some.inj (came.symm.trans (equal.trans cameToo)))
    · exact Or.inr ⟨kind, _, _, Option.some.inj (came.symm.trans crashed),
        Option.some.inj (cameToo.symm.trans crashedToo)⟩
  · obtain ⟨undecided, revoked⟩ := not_or.mp settled
    have cancelled := Bool.eq_true_of_not_eq_false revoked
    exact mirrors.close_of_grounded injective account alike undecided
      (not_flying_of_cancelled orderly present cancelled) startedAt came cameToo

/-! ### Steps -/

/-- One of the fetches of a refresh moves, and so does its image. -/
theorem withRun {change changeToo : Run → Run}
    (mirrors : Mirrors decided subject rename state image) (injective : rename.Injective)
    (levels : ∀ {run other : Run}, run.Level other → (change run).Level (changeToo other))
    (same : ∀ refresh ∈ state.refreshes, refresh.id = id →
      decided ∨ refresh.cancelled = false → change = changeToo) :
    Mirrors decided subject rename (state.modify id (·.withRun change))
      (image.modify (rename id) (·.withRun changeToo)) :=
  mirrors.modify injective (fun _ => rfl) fun refresh present acts _ alike =>
    alike.withRun levels (same refresh present acts)

/-- A refresh ends, and so does its image. -/
theorem retire (mirrors : Mirrors decided subject rename state image)
    (injective : rename.Injective) (level : run.Level other)
    (same : ∀ refresh ∈ state.refreshes, refresh.id = id →
      decided ∨ refresh.cancelled = false → other = run) (cancel : Bool) :
    Mirrors decided subject rename (state.retire id run cancel)
      (image.retire (rename id) other cancel) :=
  tidy (mirrors.modify injective (fun _ => rfl) fun refresh present acts _ alike =>
    alike.retire level (same refresh present acts) cancel)

theorem begin? (mirrors : Mirrors decided subject rename state image)
    (injective : rename.Injective) (owns : state.Owns subject id) :
    Reflects decided subject rename (state.step? (.begin id))
      (image.step? (.begin (rename id))) := by
  rcases mirrors.refresh? injective owns with ⟨absent, absentToo⟩ | ⟨_, _, found, foundToo, alike⟩
  · simp only [Aggregation.step?, Aggregation.begin?, absent, absentToo]
    exact .none
  · simp only [Aggregation.step?, Aggregation.begin?, found, foundToo, mirrors.now]
    obtain ⟨-, -, -, level, -⟩ := alike
    rename_i refresh reflected
    cases refresh
    cases reflected
    cases level with
    | scheduled =>
      refine .some ⟨.nil, ?_⟩
      exact mirrors.modify injective (fun _ => rfl) fun _ _ _ _ alike => alike.begin state.now
    | fetching | lingering => exact .none

theorem abandon? (mirrors : Mirrors decided subject rename state image)
    (injective : rename.Injective) (owns : state.Owns subject id) (kind : FetchKind) :
    Reflects decided subject rename (state.step? (.abandon id kind))
      (image.step? (.abandon (rename id) kind)) := by
  rcases mirrors.refresh? injective owns with ⟨absent, absentToo⟩ | ⟨refresh, reflected, found,
    foundToo, alike⟩
  · simp only [Aggregation.step?, Aggregation.abandon?, absent, absentToo]
    exact .none
  · simp only [Aggregation.step?, Aggregation.abandon?, found, foundToo, alike.cancelled]
    have runs := alike.run?
    generalize refresh.run? = one, reflected.run? = other at runs ⊢
    cases runs with
    | none => exact .none
    | @some run other level =>
      simp only [level.isUnstarted, level.isWaiting]
      split
      · refine .some ⟨.nil, (mirrors.withRun injective (fun level => ?_) fun _ _ _ _ => rfl).tidy⟩
        exact level.close (Run.closes_abandon kind) (Run.closes_abandon kind)
      · exact .none

/-- A refresh that is over in both has come to the like. -/
theorem conclude? (mirrors : Mirrors decided subject rename state image)
    (injective : rename.Injective) (orderly : Orderly state) (owns : state.Owns subject id) :
    Reflects decided subject rename (state.step? (.conclude id))
      (image.step? (.conclude (rename id))) := by
  rcases mirrors.refresh? injective owns with ⟨absent, absentToo⟩ | ⟨refresh, reflected, found,
    foundToo, alike⟩
  · simp only [Aggregation.step?, Aggregation.conclude?, absent, absentToo]
    exact .none
  obtain ⟨present, rfl⟩ := mem_refreshes_of_refresh? found
  have account := owns.owner refresh present rfl
  rcases alike.fetching_or with ⟨run, other, fetching, fetchingToo, level⟩ | ⟨idle, idleToo⟩
  case inr =>
    simp only [Aggregation.step?, conclude?_of_idle found idle, conclude?_of_idle foundToo idleToo]
    exact .none
  have same := same_run orderly present alike fetching fetchingToo
  have ends : (other.result? (image.reports (rename refresh.id))).isSome =
      (run.result? (state.reports refresh.id)).isSome := by
    rw [Run.isSome_result?, Run.isSome_result?, level.allEnded]
  simp only [Aggregation.step?, conclude?_of_fetching found fetching,
    conclude?_of_fetching foundToo fetchingToo, level.startedAt]
  cases came : run.result? (state.reports refresh.id) with
  | none =>
    cases cameToo : other.result? (image.reports (rename refresh.id)) with
    | none => exact .none
    | some => cases came ▸ cameToo ▸ ends
  | some result =>
    cases cameToo : other.result? (image.reports (rename refresh.id)) with
    | none => cases came ▸ cameToo ▸ ends
    | some resultToo =>
      obtain ⟨told, kept⟩ := mirrors.close_of_result? injective orderly present account alike
        (same refresh present rfl) run.startedAt came cameToo
      refine .some ⟨told, kept.retire injective level ?_ false⟩
      rw [refreshes_close]
      exact same

theorem expire? (mirrors : Mirrors decided subject rename state image)
    (injective : rename.Injective) (orderly : Orderly state) (owns : state.Owns subject id) :
    Reflects decided subject rename (state.step? (.expire id))
      (image.step? (.expire (rename id))) := by
  rcases mirrors.refresh? injective owns with ⟨absent, absentToo⟩ | ⟨refresh, reflected, found,
    foundToo, alike⟩
  · simp only [Aggregation.step?, Aggregation.expire?, absent, absentToo]
    exact .none
  obtain ⟨present, rfl⟩ := mem_refreshes_of_refresh? found
  have account := owns.owner refresh present rfl
  rcases alike.fetching_or with ⟨run, other, fetching, fetchingToo, level⟩ | ⟨idle, idleToo⟩
  case inr =>
    simp only [Aggregation.step?, expire?_of_idle found idle, expire?_of_idle foundToo idleToo]
    exact .none
  simp only [Aggregation.step?, Aggregation.expire?, found, fetching, foundToo, fetchingToo,
    level.startedAt, mirrors.now, mirrors.deadline, ← retire_true]
  split
  · have kept := mirrors.releaseOwn injective account alike
    refine .some ⟨.cons ?_ .nil, kept.retire injective level ?_ true⟩
    · rw [alike.subject]
      exact .same _
    · rw [refreshes_releaseOwn]
      exact same_run orderly present alike fetching fetchingToo
  · exact .none

/-- Whatever a refresh of the account does, its image does the same. -/
theorem step? (mirrors : Mirrors decided subject rename state image)
    (injective : rename.Injective) (orderly : Orderly state) (owns : state.Owns subject id)
    (acts : action.actor? = some id) :
    Reflects decided subject rename (state.step? action) (image.step? (action.renamed rename)) := by
  cases action <;> cases acts
  case begin => exact mirrors.begin? injective owns
  case abandon kind => exact mirrors.abandon? injective owns kind
  case conclude => exact mirrors.conclude? injective orderly owns
  case expire => exact mirrors.expire? injective orderly owns
  case call kind =>
    have runs := mirrors.run? injective owns
    simp only [Action.renamed, Aggregation.step?, Aggregation.call?]
    generalize (state.refresh? id).bind Refresh.run? = one,
      (image.refresh? (rename id)).bind Refresh.run? = other at runs ⊢
    cases runs with
    | none => exact .none
    | some level =>
      simp only [level.isUnstarted]
      split
      · exact .some ⟨.nil, mirrors.withRun injective (·.call kind) fun _ _ _ _ => rfl⟩
      · exact .none
  case endStatistics result | endListings result | endActivity result =>
    have runs := mirrors.run? injective owns
    simp only [Action.renamed, Aggregation.step?, Aggregation.endStatistics?,
      Aggregation.endListings?, Aggregation.endActivity?, mirrors.recentLimit]
    generalize (state.refresh? id).bind Refresh.run? = one,
      (image.refresh? (rename id)).bind Refresh.run? = other at runs ⊢
    cases runs with
    | none => exact .none
    | some level =>
      simp only [level.isWaiting, level.startedAt]
      split
      · refine .some ⟨.nil, (mirrors.withRun injective (fun level => ?_) fun _ _ _ _ => rfl).tidy⟩
        first
        | exact level.close (.statistics _) (.statistics _)
        | exact level.close (.listings _) (.listings _)
        | exact level.close (.activity _) (.activity _)
      · exact .none

end Mirrors

end Aggregation

end UserDashboard.Dashboard
