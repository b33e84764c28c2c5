/-
This file says what is left when accounts are invalidated one after the other.

No account among them has a dashboard or a refresh in flight any more, and the refreshes that were
in flight for them are cancelled. The dashboards, flights and refreshes of all other accounts are
the same, in the same order, and so is everything that is counted. It does not matter how often an
account is among them.
-/

import UserDashboard.Proofs.Dashboard.Untouched

namespace UserDashboard.Dashboard

open Cache Catalog Time

/-! ### What others have -/

section Lists

variable {β : Type} {members : List (SubjectId × β)} {subjects : List SubjectId}

/-- What is there for other accounts than some. -/
def ofOthers (subjects : List SubjectId) (members : List (SubjectId × β)) :
    List (SubjectId × β) :=
  members.filter fun member => member.1 ∉ subjects

theorem mem_ofOthers {member : SubjectId × β} :
    member ∈ ofOthers subjects members ↔ member ∈ members ∧ member.1 ∉ subjects := by
  simp [ofOthers]

theorem ofOthers_nil (members : List (SubjectId × β)) : ofOthers [] members = members :=
  List.filter_eq_self.mpr fun _ _ => decide_eq_true List.not_mem_nil

theorem ofOthers_ofOthers (first second : List SubjectId) (members : List (SubjectId × β)) :
    ofOthers second (ofOthers first members) = ofOthers (first ++ second) members := by
  rw [ofOthers, ofOthers, List.filter_filter]
  refine List.filter_congr fun member _ => ?_
  rw [← Bool.decide_and]
  exact decide_eq_decide.mpr (by rw [List.mem_append, not_or, and_comm])

theorem ofOthers_singleton (subject : SubjectId) (members : List (SubjectId × β)) :
    ofOthers [subject] members = members.filter (·.1 ≠ subject) := by
  simp only [ofOthers, List.mem_singleton, ne_eq]

theorem find?_ofOthers {subject : SubjectId} (other : subject ∉ subjects) :
    (ofOthers subjects members).find? (·.1 = subject) = members.find? (·.1 = subject) :=
  find?_filter_of_imp fun _ _ own => decide_eq_true (of_decide_eq_true own ▸ other)

theorem find?_ofOthers_of_mem {subject : SubjectId} (named : subject ∈ subjects) :
    (ofOthers subjects members).find? (·.1 = subject) = none :=
  List.find?_eq_none.mpr fun _ kept own =>
    (mem_ofOthers.mp kept).2 (of_decide_eq_true own ▸ named)

end Lists

namespace Aggregation

variable {state : Aggregation} {subjects : List SubjectId} {subject : SubjectId}
  {refresh : Refresh}

/-! ### The state without some accounts -/

/-- A refresh, which is cancelled if it is in flight for one of some accounts. -/
def cancelledFor (state : Aggregation) (subjects : List SubjectId) (refresh : Refresh) : Refresh :=
  if refresh.subject ∈ subjects ∧ (refresh.subject, refresh.id) ∈ state.flights then
    { refresh with cancelled := true }
  else refresh

/-- The state in which some accounts have neither dashboards nor refreshes in flight, and the
refreshes that were in flight for them are cancelled. Nothing else is different. -/
def without (state : Aggregation) (subjects : List SubjectId) : Aggregation :=
  { state with
    snapshots := ⟨{ state.snapshots.entries with entries := ofOthers subjects state.stores }⟩
    flights := ofOthers subjects state.flights
    refreshes := state.refreshes.map (state.cancelledFor subjects) }

theorem cancelledFor_subject (refresh : Refresh) :
    (state.cancelledFor subjects refresh).subject = refresh.subject := by
  unfold cancelledFor
  split <;> rfl

theorem cancelledFor_id (refresh : Refresh) :
    (state.cancelledFor subjects refresh).id = refresh.id := by
  unfold cancelledFor
  split <;> rfl

theorem cancelledFor_of_not_mem (other : refresh.subject ∉ subjects) :
    state.cancelledFor subjects refresh = refresh :=
  if_neg fun named => other named.1

/-- A refresh that is cancelled for some accounts and then for others is cancelled for all of
them. -/
theorem cancelledFor_without (first second : List SubjectId) (refresh : Refresh) :
    (state.without first).cancelledFor second (state.cancelledFor first refresh) =
      state.cancelledFor (first ++ second) refresh := by
  by_cases named : refresh.subject ∈ first
  · have landed : (refresh.subject, refresh.id) ∉ (state.without first).flights := fun flying =>
      (mem_ofOthers.mp flying).2 named
    have kept : (state.without first).cancelledFor second (state.cancelledFor first refresh) =
        state.cancelledFor first refresh := by
      refine if_neg fun later => landed ?_
      rw [cancelledFor_subject, cancelledFor_id] at later
      exact later.2
    rw [kept]
    simp only [cancelledFor, named, List.mem_append, true_or, true_and]
  · have flights : (refresh.subject, refresh.id) ∈ (state.without first).flights ↔
        (refresh.subject, refresh.id) ∈ state.flights :=
      mem_ofOthers.trans (and_iff_left named)
    rw [cancelledFor_of_not_mem named]
    simp only [cancelledFor, flights, named, List.mem_append, false_or]

theorem without_nil (state : Aggregation) : state.without [] = state := by
  have kept : state.refreshes.map (state.cancelledFor []) = state.refreshes :=
    (List.map_congr_left fun _ _ => cancelledFor_of_not_mem List.not_mem_nil).trans
      (List.map_id' _)
  rw [without, ofOthers_nil, ofOthers_nil, kept]
  rfl

theorem without_without (state : Aggregation) (first second : List SubjectId) :
    (state.without first).without second = state.without (first ++ second) := by
  have refreshes : (state.refreshes.map (state.cancelledFor first)).map
      ((state.without first).cancelledFor second) =
        state.refreshes.map (state.cancelledFor (first ++ second)) := by
    rw [List.map_map]
    exact List.map_congr_left fun refresh _ => cancelledFor_without first second refresh
  have stores : ofOthers second (state.without first).stores =
      ofOthers (first ++ second) state.stores := ofOthers_ofOthers first second _
  have flights : ofOthers second (state.without first).flights =
      ofOthers (first ++ second) state.flights := ofOthers_ofOthers first second _
  rw [without, stores, flights]
  simp only [without]
  rw [← refreshes]
  rfl

/-- Whoever has their account invalidated is the only one who loses anything. -/
theorem invalidate_eq_without (orderly : Orderly state) (subject : SubjectId) :
    state.invalidate subject = state.without [subject] := by
  have stores : (state.snapshots.invalidate subject).2 =
      ⟨{ state.snapshots.entries with entries := ofOthers [subject] state.stores }⟩ := by
    rw [ofOthers_singleton]
    rfl
  cases flight : state.flight? subject with
  | none =>
    have nobody := flight?_eq_none_iff.mp flight
    have flights : ofOthers [subject] state.flights = state.flights := by
      rw [ofOthers_singleton]
      exact List.filter_eq_self.mpr fun flight member => decide_eq_true (nobody flight member)
    have refreshes : state.refreshes.map (state.cancelledFor [subject]) = state.refreshes := by
      refine (List.map_congr_left fun refresh _ => if_neg fun named => ?_).trans (List.map_id' _)
      exact nobody _ named.2 (List.mem_singleton.mp named.1)
    rw [invalidate_of_none flight, without, stores, flights, refreshes]
  | some id =>
    have refreshes : (state.refreshes.map fun refresh =>
        if refresh.id = id then { refresh with cancelled := true } else refresh) =
          state.refreshes.map (state.cancelledFor [subject]) := by
      refine List.map_congr_left fun refresh present => ?_
      have own : refresh.id = id ↔
          refresh.subject ∈ [subject] ∧ (refresh.subject, refresh.id) ∈ state.flights := by
        rw [List.mem_singleton, ← orderly.flight?_eq_some_iff]
        constructor
        · intro number
          obtain rfl := (owns_of_flight orderly flight).owner refresh present number
          exact ⟨rfl, number ▸ flight⟩
        · rintro ⟨rfl, flying⟩
          exact Option.some.inj (flying.symm.trans flight)
      simp only [cancelledFor, own]
    rw [invalidate_of_some flight, without, stores, ← refreshes,
      ofOthers_singleton subject state.flights]
    rfl

/-! ### What the accounts have then -/

theorem without_of_mem (named : subject ∈ subjects) :
    (state.without subjects).stored? subject = none ∧
      (state.without subjects).flight? subject = none := by
  constructor
  · exact congrArg (Option.map Prod.snd) (find?_ofOthers_of_mem named)
  · exact congrArg (Option.map Prod.snd) (find?_ofOthers_of_mem named)

theorem without_of_not_mem (other : subject ∉ subjects) :
    (state.without subjects).stored? subject = state.stored? subject ∧
      (state.without subjects).flight? subject = state.flight? subject ∧
      (state.without subjects).refreshesOf subject = state.refreshesOf subject := by
  refine ⟨congrArg (Option.map Prod.snd) (find?_ofOthers other),
    congrArg (Option.map Prod.snd) (find?_ofOthers other), ?_⟩
  have accounts : ((fun refresh => decide (refresh.subject = subject)) ∘
      state.cancelledFor subjects) = fun refresh => decide (refresh.subject = subject) := by
    funext refresh
    rw [Function.comp_apply, cancelledFor_subject]
  have kept : ∀ refresh ∈ state.refreshes.filter (·.subject = subject),
      state.cancelledFor subjects refresh = refresh := by
    intro refresh member
    have own : refresh.subject = subject := of_decide_eq_true (List.mem_filter.mp member).2
    exact cancelledFor_of_not_mem (own ▸ other)
  simp only [refreshesOf, without, List.filter_map, accounts]
  exact (List.map_congr_left kept).trans (List.map_id' _)

/-- The refresh that was in flight for an account is cancelled. -/
theorem cancelled_of_without (orderly : Orderly state) (named : subject ∈ subjects) {id : Nat}
    (flying : state.flight? subject = some id)
    (present : refresh ∈ (state.without subjects).refreshes) (number : refresh.id = id) :
    refresh.cancelled = true := by
  obtain ⟨old, was, rfl⟩ := List.mem_map.mp present
  rw [cancelledFor_id] at number
  obtain rfl := (owns_of_flight orderly flying).owner old was number
  have flew := orderly.flight?_eq_some_iff.mp flying
  rw [cancelledFor, if_pos ⟨named, number ▸ flew⟩]

end Aggregation

/-! ### Accounts that are invalidated one after the other -/

namespace Runner

variable {before next after : Runner} {first second : List SubjectId}

/-- Some accounts were invalidated: this was made known of each of them, tasks that work for them
were woken, and nothing else has happened. -/
def Drops (subjects : List SubjectId) (before after : Runner) : Prop :=
  ∃ woken, (∀ task ∈ woken, task.subject ∈ subjects) ∧ after = { before with
    state := before.state.without subjects
    channel := subjects.foldl (fun channel subject => (channel.send (.invalidated subject)).2)
      before.channel
    ready := before.ready ++ woken }

theorem drops_nil (runner : Runner) : Drops [] runner runner := by
  refine ⟨[], nofun, ?_⟩
  rw [Aggregation.without_nil, List.append_nil]
  rfl

theorem Drops.trans (dropped : Drops first before next) (later : Drops second next after) :
    Drops (first ++ second) before after := by
  obtain ⟨woken, owners, rfl⟩ := dropped
  obtain ⟨others, ownersToo, rfl⟩ := later
  refine ⟨woken ++ others, fun task member => ?_, ?_⟩
  · rw [List.mem_append] at member ⊢
    exact member.imp (owners task) (ownersToo task)
  · rw [← Aggregation.without_without, List.foldl_append, ← List.append_assoc]

/-- Waking tasks puts some of them at the end of those that can go on. -/
theorem exists_woken (runner : Runner) (tasks : List Task) :
    ∃ woken, woken ⊆ tasks ∧
      tasks.foldl wake runner = { runner with ready := runner.ready ++ woken } := by
  induction tasks generalizing runner with
  | nil => exact ⟨[], List.Subset.refl _, by rw [List.append_nil]; rfl⟩
  | cons task rest inductionHypothesis =>
    obtain ⟨woken, among, same⟩ := inductionHypothesis (runner.wake task)
    rw [List.foldl_cons, same, wake]
    split
    · exact ⟨woken, List.subset_cons_of_subset _ among, rfl⟩
    · have order : runner.ready ++ [task] ++ woken = runner.ready ++ task :: woken :=
        (List.append_cons _ _ _).symm
      exact ⟨task :: woken, List.cons_subset_cons _ among, by rw [← order]⟩

theorem drops_invalidate {runner : Runner} (orderly : Orderly runner.state)
    (subject : SubjectId) : Drops [subject] runner (runner.invalidate subject) := by
  have told : runner.act (.invalidate subject) = { runner with
      state := runner.state.without [subject]
      channel := (runner.channel.send (.invalidated subject)).2 } := by
    rw [← Aggregation.invalidate_eq_without orderly]
    rfl
  unfold invalidate
  simp only
  rw [told]
  split
  · rename_i id flight
    obtain ⟨woken, among, same⟩ := exists_woken _ (waiting _ id subject)
    rw [wakeWaiting_eq, same]
    exact ⟨woken, fun task member => List.mem_singleton.mpr (mem_waiting (among member)).2, rfl⟩
  · exact ⟨[], nofun, by rw [List.append_nil]; rfl⟩

/-- Accounts that are invalidated one after the other are the only ones that lose anything. -/
theorem drops_invalidateAll {runner : Runner} (attributed : runner.Attributed)
    (subjects : List SubjectId) :
    Drops subjects runner (subjects.foldl (fun runner subject => runner.invalidate subject)
      runner) := by
  induction subjects generalizing runner with
  | nil => exact runner.drops_nil
  | cons subject rest inductionHypothesis =>
    have attributedStill := ((Leads.refl attributed).invalidate subject).attributed
    exact (drops_invalidate attributed.orderly subject).trans (inductionHypothesis attributedStill)

end Runner

end UserDashboard.Dashboard
