/-
This file proves that what callers do for an account is answered alike by a runner and its mirror.

Whoever asks for the account finds the same dashboard in both, or none in both. When a refresh is
scheduled, it is in both, each under its own next number; the numbers that were given out before
stay with their images. What callers do for other accounts is not done in the mirror at all.
-/

import Mathlib.Logic.Equiv.Basic
import UserDashboard.Proofs.Dashboard.Unison

namespace UserDashboard.Dashboard

open Cache Catalog Time

namespace Aggregation

variable {decided : Prop} {state image : Aggregation} {subject : SubjectId} {rename : Nat → Nat}
  {id : Nat}

namespace Mirrors

theorem cached (mirrors : Mirrors decided subject rename state image) :
    (image.cached subject).1 = (state.cached subject).1 ∧
      Mirrors decided subject rename (state.cached subject).2 (image.cached subject).2 := by
  constructor
  · refine (ExpiringMap.get_fst _ _ _).trans (.trans ?_ (ExpiringMap.get_fst _ _ _).symm)
    rw [mirrors.now]
    exact mirrors.live state.now (Int.le_refl _)
  · rw [cached_snd, cached_snd]
    refine mirrors.remember (ExpiringMap.ttl_get _ _ _) (ExpiringMap.ttl_get _ _ _)
      fun later ordered => ?_
    refine (ExpiringMap.live?_get _ (mirrors.now ▸ ordered) _ _).trans ?_
    exact (mirrors.live later ordered).trans (ExpiringMap.live?_get _ ordered _ _).symm

/-- A refresh is scheduled in both or in neither, and has the next number in each of them. -/
theorem schedule (mirrors : Mirrors decided subject rename state image)
    (next : rename state.nextId = image.nextId) :
    (image.schedule subject).1 = (state.schedule subject).1.map rename ∧
      Mirrors decided subject rename (state.schedule subject).2 (image.schedule subject).2 := by
  have flight := mirrors.flight
  cases flying : state.flight? subject with
  | some id =>
    rw [flying] at flight
    rw [schedule_of_some flying, schedule_of_some flight]
    exact ⟨rfl, { mirrors with now := mirrors.now }⟩
  | none =>
    rw [flying] at flight
    rw [schedule_of_none flying, schedule_of_none flight, ← next]
    refine ⟨rfl, { mirrors with flight := ?_, refreshes := ?_ }⟩
    · have nobody : ∀ {other : Aggregation}, other.flight? subject = none →
          other.flights.find? (·.1 = subject) = none := Option.map_eq_none_iff.mp
      simp [flight?, List.find?_append, nobody flying, nobody flight]
    · let refresh : Refresh := ⟨state.nextId, subject, false, .scheduled⟩
      have more : (state.refreshes ++ [refresh]).filter (·.subject = subject) =
          state.refreshesOf subject ++ [refresh] := filter_snoc_of_pos (decide_eq_true rfl)
      have alike :
          Refresh.Resembles decided rename refresh { refresh with id := rename refresh.id } :=
        ⟨rfl, rfl, rfl, .refl _, fun _ => rfl⟩
      rw [refreshesOf, more]
      exact List.rel_append mirrors.refreshes (.cons alike .nil)

theorem snapshot (mirrors : Mirrors decided subject rename state image)
    (next : rename state.nextId = image.nextId) :
    (image.snapshot subject).1 = (state.snapshot subject).1 ∧
      (image.snapshot subject).2.1 = (state.snapshot subject).2.1.map rename ∧
      Mirrors decided subject rename (state.snapshot subject).2.2 (image.snapshot subject).2.2 := by
  obtain ⟨same, kept⟩ := mirrors.cached
  cases found : (state.cached subject).1 with
  | some snapshot =>
    rw [snapshot_of_some found, snapshot_of_some (same.trans found)]
    exact ⟨rfl, rfl, kept⟩
  | none =>
    rw [snapshot_of_none found, snapshot_of_none (same.trans found), mirrors.now]
    exact ⟨rfl, kept.schedule next⟩

theorem invalidate (mirrors : Mirrors decided subject rename state image)
    (injective : rename.Injective) :
    Mirrors decided subject rename (state.invalidate subject) (image.invalidate subject) := by
  have forgotten : ∀ {state image : Aggregation}, Mirrors decided subject rename state image →
      Mirrors decided subject rename
        { state with snapshots := (state.snapshots.invalidate subject).2 }
        { image with snapshots := (image.snapshots.invalidate subject).2 } :=
    fun mirrors => mirrors.remember rfl rfl fun later _ =>
      (ExpiringMap.live?_erase _ later subject).trans
        (ExpiringMap.live?_erase _ later subject).symm
  have flight := mirrors.flight
  cases flying : state.flight? subject with
  | none =>
    rw [flying] at flight
    rw [invalidate_of_none flying, invalidate_of_none flight]
    exact forgotten mirrors
  | some id =>
    rw [flying] at flight
    rw [invalidate_of_some flying, invalidate_of_some flight]
    exact forgotten (mirrors.release.modify injective (fun _ => rfl) fun _ _ _ _ alike =>
      alike.cancel)

/-- Numbers that nothing in the aggregation has may be renamed in another way. -/
theorem align {aligned : Nat → Nat} (mirrors : Mirrors decided subject rename state image)
    (orderly : Orderly state) (orderlyToo : Orderly image)
    (agrees : ∀ id, id < state.nextId → rename id < image.nextId → aligned id = rename id) :
    Mirrors decided subject aligned state image := by
  refine { mirrors with flight := ?_, refreshes := ?_ }
  · have flight := mirrors.flight
    cases flying : state.flight? subject with
    | none => rw [flight, flying]; rfl
    | some id =>
      rw [flying] at flight
      have given := orderly.launched _ (mem_flights_of_flight? flying)
      have givenToo := orderlyToo.launched _ (mem_flights_of_flight? flight)
      rw [flight, Option.map_some, Option.map_some, agrees id given givenToo]
  · refine forall₂_imp_of_mem mirrors.refreshes fun refresh own reflected there alike => ?_
    have given := orderly.numbered refresh (mem_refreshesOf.mp own).1
    have givenToo := orderlyToo.numbered reflected there
    rw [alike.id] at givenToo
    exact alike.align (agrees refresh.id given givenToo)

end Mirrors

end Aggregation

namespace Runner

open Aggregation

variable {decided : Prop} {runner image after : Runner} {subject other : SubjectId}
  {rename : Nat → Nat} {channels : Broadcast Event × Broadcast Event} {accounts : List SubjectId}

namespace Mirrors

/-- The next number of the mirror may be taken for the image of the next number. -/
theorem align (mirrors : Mirrors decided subject rename channels runner image)
    (injective : rename.Injective) (attributed : runner.Attributed)
    (attributedToo : image.Attributed) :
    ∃ aligned : Nat → Nat, aligned.Injective ∧
      aligned runner.state.nextId = image.state.nextId ∧
      Mirrors decided subject aligned channels runner image := by
  have agrees : ∀ id, id < runner.state.nextId → rename id < image.state.nextId →
      Equiv.swap (rename runner.state.nextId) image.state.nextId (rename id) = rename id :=
    fun id given givenToo => Equiv.swap_apply_of_ne_of_ne
      (fun same => Nat.ne_of_lt given (injective same)) (Nat.ne_of_lt givenToo)
  refine ⟨fun id => Equiv.swap (rename runner.state.nextId) image.state.nextId (rename id),
    fun first second same => injective ((Equiv.injective _) same), Equiv.swap_apply_left _ _, ?_⟩
  have tasks : ∀ task : Task, runner.state.Owns task.subject task.id →
      image.state.Owns (task.renamed rename).subject (task.renamed rename).id →
      task.renamed rename = task.renamed
        fun id => Equiv.swap (rename runner.state.nextId) image.state.nextId (rename id) := by
    intro task owns reflected
    cases task with
    | refresh id subject | fetch id subject kind =>
      simp only [Task.renamed, agrees id owns.given reflected.given]
  refine { mirrors with
    state := mirrors.state.align attributed.orderly attributedToo.orderly agrees
    ready := ?_, calls := ?_, alarms := ?_ }
  · rw [mirrors.ready]
    refine List.map_congr_left fun task own => ?_
    have reflected := mirrors.ready ▸ List.mem_map_of_mem own
    exact tasks task (attributed.ready task (List.mem_filter.mp own).1)
      (attributedToo.ready _ reflected)
  · rw [mirrors.calls]
    refine List.map_congr_left fun call own => ?_
    have reflected := mirrors.calls ▸ List.mem_map_of_mem own
    have owns := attributed.calls call (List.mem_filter.mp own).1
    simp only [Call.renamed, agrees call.id owns.given (attributedToo.calls _ reflected).given]
  · rw [mirrors.alarms]
    refine List.map_congr_left fun alarm own => ?_
    have reflected := mirrors.alarms ▸ List.mem_map_of_mem own
    unfold renamedAlarm
    rw [tasks alarm.2 (attributed.alarms alarm (List.mem_filter.mp own).1)
      (attributedToo.alarms _ reflected)]

/-! ### What is done for the account -/

/-- A task of the account is woken in both or in neither. -/
theorem start (mirrors : Mirrors decided subject rename channels runner image)
    (injective : rename.Injective) (started : Option Nat) :
    Mirrors decided subject rename channels
      (match started with | some id => runner.wake (.refresh id subject) | none => runner)
      (match started.map rename with
        | some id => image.wake (.refresh id subject)
        | none => image) := by
  cases started with
  | none => exact mirrors
  | some id => exact mirrors.wake injective (.refresh id subject) rfl

theorem snapshot (mirrors : Mirrors decided subject rename channels runner image)
    (injective : rename.Injective) (next : rename runner.state.nextId = image.state.nextId) :
    (image.snapshot subject).1 = (runner.snapshot subject).1 ∧
      Mirrors decided subject rename channels (runner.snapshot subject).2
        (image.snapshot subject).2 := by
  obtain ⟨answer, started, kept⟩ := mirrors.state.snapshot next
  have read : Mirrors decided subject rename channels (runner.act (.snapshot subject))
      (image.act (.snapshot subject)) := mirrors.send kept .nil nofun
  refine ⟨answer, ?_⟩
  rw [snapshot_snd, snapshot_snd, started]
  exact read.start injective _

theorem cached (mirrors : Mirrors decided subject rename channels runner image) :
    (image.cached subject).1 = (runner.cached subject).1 ∧
      Mirrors decided subject rename channels (runner.cached subject).2
        (image.cached subject).2 := by
  obtain ⟨answer, kept⟩ := mirrors.state.cached
  have read : Mirrors decided subject rename channels (runner.act (.cached subject))
      (image.act (.cached subject)) := mirrors.send kept .nil nofun
  exact ⟨answer, read⟩

theorem schedule (mirrors : Mirrors decided subject rename channels runner image)
    (injective : rename.Injective) (next : rename runner.state.nextId = image.state.nextId) :
    (image.schedule subject).1 = (runner.schedule subject).1 ∧
      Mirrors decided subject rename channels (runner.schedule subject).2
        (image.schedule subject).2 := by
  obtain ⟨started, kept⟩ := mirrors.state.schedule next
  have asked : Mirrors decided subject rename channels (runner.act (.schedule subject))
      (image.act (.schedule subject)) := mirrors.send kept .nil nofun
  constructor
  · rw [schedule_fst, schedule_fst, started, Option.isSome_map]
  · rw [schedule_snd, schedule_snd, started]
    exact asked.start injective _

theorem invalidate (mirrors : Mirrors decided subject rename channels runner image)
    (injective : rename.Injective) (orderly : Orderly runner.state) :
    Mirrors decided subject rename channels (runner.invalidate subject)
      (image.invalidate subject) := by
  have sent : Mirrors decided subject rename channels (runner.act (.invalidate subject))
      (image.act (.invalidate subject)) :=
    mirrors.send (mirrors.state.invalidate injective) (Event.Alike.all_refl decided _)
      fun event told => by rw [List.mem_singleton.mp told]; rfl
  unfold Runner.invalidate
  rw [mirrors.state.flight]
  cases flying : runner.state.flight? subject with
  | none => exact sent
  | some id =>
    have taken : runner.state.step? (.invalidate subject) =
        some ((runner.act (.invalidate subject)).state, [.invalidated subject]) := rfl
    have owns := (owns_of_flight orderly flying).change orderly (change_of_step taken)
    exact sent.wakeWaiting injective owns

end Mirrors

/-! ### What is done for others -/

namespace Untouched

theorem wakesAll {tasks : List Task} (untouched : Untouched subject runner after)
    (others : ∀ task ∈ tasks, task.subject ≠ subject) :
    Untouched subject runner (tasks.foldl Runner.wake after) := by
  induction tasks generalizing after with
  | nil => exact untouched
  | cons task rest inductionHypothesis =>
    exact inductionHypothesis (untouched.trans (.wake after (others task List.mem_cons_self)))
      fun other later => others other (List.mem_cons_of_mem _ later)

/-- A task of another account is woken, or none is. -/
theorem start (untouched : Untouched subject runner after) (different : other ≠ subject)
    (started : Option Nat) : Untouched subject runner
      (match started with | some id => after.wake (.refresh id other) | none => after) := by
  cases started with
  | none => exact untouched
  | some id => exact untouched.trans (.wake after different)

theorem snapshot (runner : Runner) (different : other ≠ subject) :
    Untouched subject runner (runner.snapshot other).2 := by
  have read : Untouched subject runner (runner.act (.snapshot other)) :=
    ⟨untouched_snapshot runner.state different, rfl, rfl, rfl, rfl, rfl, rfl, rfl, [], rfl, nofun⟩
  rw [snapshot_snd]
  exact read.start different _

theorem cached (runner : Runner) (subject other : SubjectId) :
    Untouched subject runner (runner.cached other).2 :=
  ⟨untouched_cached runner.state subject other, rfl, rfl, rfl, rfl, rfl, rfl, rfl, [], rfl, nofun⟩

theorem schedule (runner : Runner) (different : other ≠ subject) :
    Untouched subject runner (runner.schedule other).2 := by
  have asked : Untouched subject runner (runner.act (.schedule other)) :=
    ⟨untouched_schedule runner.state different, rfl, rfl, rfl, rfl, rfl, rfl, rfl, [], rfl, nofun⟩
  rw [schedule_snd]
  exact asked.start different _

theorem invalidate (orderly : Orderly runner.state) (different : other ≠ subject) :
    Untouched subject runner (runner.invalidate other) := by
  have forgotten : Untouched subject runner (runner.act (.invalidate other)) :=
    ⟨untouched_invalidate orderly different, rfl, rfl, rfl, rfl, rfl, rfl, rfl,
      [.invalidated other], rfl, fun event told => List.mem_singleton.mp told ▸ different⟩
  unfold Runner.invalidate
  dsimp only
  split
  · rw [wakeWaiting_eq]
    exact forgotten.wakesAll fun task waits => (mem_waiting waits).2 ▸ different
  · exact forgotten

theorem sweep (lodged : runner.Lodged accounts) (subject : SubjectId) :
    Untouched subject runner runner.sweep.2 :=
  ⟨untouched_sweep lodged.housed.room.regular, rfl, rfl, rfl, rfl, rfl, rfl, rfl, [], rfl, nofun⟩

end Untouched

end Runner

end UserDashboard.Dashboard
