/-
This file compares a runner with one that works for a single account.

The second runner mirrors the first when it holds the tasks, calls and alarms of the account in the
same order, its catalog says the same about the account, and what it made known is like what the
first one made known about the account. A turn of a task of the account has its image in the mirror,
and turns of tasks of others leave the mirror as it is. So both come to rest together.

What is left to chance may be settled in the mirror in another way. Then fetches of cancelled
refreshes end in other ways there, but they end in the same turns.
-/

import UserDashboard.Proofs.Dashboard.Bystander
import UserDashboard.Proofs.Dashboard.Closing
import UserDashboard.Proofs.Dashboard.Mirror

namespace UserDashboard.Dashboard

open Aggregation Catalog Time

/-- The task for the refresh under another number. -/
def Task.renamed (rename : Nat → Nat) : Task → Task
  | .refresh id subject => .refresh (rename id) subject
  | .fetch id subject kind => .fetch (rename id) subject kind

/-- The call for the refresh under another number. -/
def Call.renamed (rename : Nat → Nat) (call : Call) : Call :=
  { call with id := rename call.id }

/-- The alarm for the refresh under another number. -/
def renamedAlarm (rename : Nat → Nat) (alarm : Moment × Task) : Moment × Task :=
  (alarm.1, alarm.2.renamed rename)

theorem Task.renamed_injective {rename : Nat → Nat} (injective : rename.Injective) :
    (Task.renamed rename).Injective := by
  intro first second same
  cases first <;> cases second <;> simp_all [Task.renamed, injective.eq_iff]

namespace Runner

variable {decided : Prop} {runner image after : Runner} {action : Aggregation.Action}
  {subject other : SubjectId}
  {rename : Nat → Nat} {id : Nat} {kind : FetchKind} {task : Task}
  {channels : Broadcast Event × Broadcast Event} {accounts : List SubjectId}

/-- A runner holds just what another one has of an account. Each has made known what there was to
tell in a channel of its own. -/
structure Mirrors (decided : Prop) (subject : SubjectId) (rename : Nat → Nat)
    (channels : Broadcast Event × Broadcast Event) (runner image : Runner) : Prop where
  state : Aggregation.Mirrors decided subject rename runner.state image.state
  timeout : image.timeout = runner.timeout
  statistics : image.catalog.statistics.plan subject = runner.catalog.statistics.plan subject
  listings : image.catalog.listings.plan subject = runner.catalog.listings.plan subject
  ready : image.ready = (runner.readyOf subject).map (Task.renamed rename)
  calls : image.calls = (runner.callsOf subject).map (Call.renamed rename)
  alarms : image.alarms = (runner.alarmsOf subject).map (renamedAlarm rename)
  chance : decided → image.callFirst subject = runner.callFirst subject
  told : ∃ events reflected, runner.channel = channels.1.sendAll events ∧
    image.channel = channels.2.sendAll reflected ∧
    List.Forall₂ (Event.Alike decided) (events.filter (·.subject = subject)) reflected

namespace Mirrors

theorem now (mirrors : Mirrors decided subject rename channels runner image) :
    image.now = runner.now :=
  mirrors.state.now

/-- The mirror need not change when the account is not touched. -/
theorem of_untouched (mirrors : Mirrors decided subject rename channels runner image)
    (untouched : Untouched subject runner after) :
    Mirrors decided subject rename channels after image where
  state := mirrors.state.of_untouched untouched.state
  timeout := mirrors.timeout.trans untouched.timeout.symm
  statistics := mirrors.statistics.trans untouched.statistics.symm
  listings := mirrors.listings.trans untouched.listings.symm
  ready := by rw [mirrors.ready, untouched.ready]
  calls := by rw [mirrors.calls, untouched.calls]
  alarms := by rw [mirrors.alarms, untouched.alarms]
  chance agreed := (mirrors.chance agreed).trans untouched.chance.symm
  told := by
    obtain ⟨events, reflected, sent, sentToo, alike⟩ := mirrors.told
    obtain ⟨others, sentLater, foreign⟩ := untouched.told
    have passed : others.filter (·.subject = subject) = [] := by
      refine List.filter_eq_nil_iff.mpr fun event member => ?_
      simpa using foreign event member
    refine ⟨events ++ others, reflected, ?_, sentToo, ?_⟩
    · rw [sentLater, sent, Broadcast.sendAll_append]
    · rw [List.filter_append, passed, List.append_nil]
      exact alike

/-! ### Steps and arrangements -/

/-- A step that makes something known about the account, and its image. -/
theorem send {state next : Aggregation} {events reflected : List Event}
    (mirrors : Mirrors decided subject rename channels runner image)
    (kept : Aggregation.Mirrors decided subject rename state next)
    (alike : List.Forall₂ (Event.Alike decided) events reflected)
    (about : ∀ event ∈ events, event.subject = subject) :
    Mirrors decided subject rename channels
      { runner with state, channel := runner.channel.sendAll events }
      { image with state := next, channel := image.channel.sendAll reflected } := by
  refine ⟨kept, mirrors.timeout, mirrors.statistics, mirrors.listings, mirrors.ready, mirrors.calls,
    mirrors.alarms, mirrors.chance, ?_⟩
  obtain ⟨earlier, earlierToo, sent, sentToo, alikeEarlier⟩ := mirrors.told
  have all : events.filter (·.subject = subject) = events :=
    List.filter_eq_self.mpr fun event member => decide_eq_true (about event member)
  refine ⟨earlier ++ events, earlierToo ++ reflected, ?_, ?_, ?_⟩
  · rw [sent, Broadcast.sendAll_append]
  · rw [sentToo, Broadcast.sendAll_append]
  · rw [List.filter_append, all]
    exact List.rel_append alikeEarlier alike

/-- A step of a refresh of the account is taken in the mirror as well, or in neither. -/
theorem act? (mirrors : Mirrors decided subject rename channels runner image)
    (injective : rename.Injective) (orderly : Orderly runner.state)
    (owns : runner.state.Owns subject id) (acts : action.actor? = some id) :
    (runner.act? action = none ∧ image.act? (action.renamed rename) = none) ∨
      ∃ after reflected, runner.act? action = some after ∧
        image.act? (action.renamed rename) = some reflected ∧
        Mirrors decided subject rename channels after reflected := by
  have reflects := mirrors.state.step? injective orderly owns acts
  unfold Runner.act?
  cases taken : runner.state.step? action with
  | none =>
    cases takenToo : image.state.step? (action.renamed rename) with
    | none => exact Or.inl ⟨rfl, rfl⟩
    | some reflected =>
      rw [taken, takenToo] at reflects
      cases reflects
  | some result =>
    obtain ⟨state, events⟩ := result
    have about := (change_of_step taken).subject_of_event acts owns
    cases takenToo : image.state.step? (action.renamed rename) with
    | none =>
      rw [taken, takenToo] at reflects
      cases reflects
    | some reflected =>
      obtain ⟨reflected, same⟩ := reflected
      rw [taken, takenToo] at reflects
      cases reflects with
      | some related =>
        obtain ⟨alike, kept⟩ := related
        exact Or.inr ⟨_, _, rfl, rfl, mirrors.send kept alike about⟩

theorem wake (mirrors : Mirrors decided subject rename channels runner image)
    (injective : rename.Injective) (task : Task) (own : task.subject = subject) :
    Mirrors decided subject rename channels (runner.wake task)
      (image.wake (task.renamed rename)) := by
  have awake : task.renamed rename ∈ image.ready ↔ task ∈ runner.ready := by
    rw [mirrors.ready, List.mem_map_of_injective (Task.renamed_injective injective), readyOf,
      List.mem_filter]
    exact and_iff_left (decide_eq_true own)
  unfold Runner.wake
  by_cases waiting : task ∈ runner.ready
  · rw [if_pos waiting, if_pos (awake.mpr waiting)]
    exact mirrors
  · rw [if_neg waiting, if_neg fun still => waiting (awake.mp still)]
    refine { mirrors with ready := ?_ }
    have more : (runner.ready ++ [task]).filter (·.subject = subject) =
        runner.readyOf subject ++ [task] := filter_snoc_of_pos (decide_eq_true own)
    show image.ready ++ [task.renamed rename] = _
    rw [readyOf, more, List.map_append, mirrors.ready]
    rfl

/-- Tasks of all accounts may be woken, when those of the account are woken in the mirror. -/
theorem wakeAll (mirrors : Mirrors decided subject rename channels runner image)
    (injective : rename.Injective) (tasks : List Task) :
    Mirrors decided subject rename channels (tasks.foldl Runner.wake runner)
      (((tasks.filter (·.subject = subject)).map (Task.renamed rename)).foldl Runner.wake
        image) := by
  induction tasks generalizing runner image with
  | nil => exact mirrors
  | cons task rest inductionHypothesis =>
    by_cases own : task.subject = subject
    · rw [List.filter_cons_of_pos (by simpa using own)]
      exact inductionHypothesis (mirrors.wake injective _ own)
    · rw [List.filter_cons_of_neg (by simpa using own)]
      exact inductionHypothesis (mirrors.of_untouched (.wake runner own))

/-- Tasks of the account are woken in the mirror as well. -/
theorem wakeOwn {tasks : List Task} (mirrors : Mirrors decided subject rename channels runner image)
    (injective : rename.Injective) (own : ∀ task ∈ tasks, task.subject = subject) :
    Mirrors decided subject rename channels (tasks.foldl Runner.wake runner)
      ((tasks.map (Task.renamed rename)).foldl Runner.wake image) := by
  have woken := mirrors.wakeAll injective tasks
  rw [List.filter_eq_self.mpr fun task member => decide_eq_true (own task member)] at woken
  exact woken

theorem setAlarm (mirrors : Mirrors decided subject rename channels runner image)
    (own : task.subject = subject) (moment : Moment) :
    Mirrors decided subject rename channels (runner.setAlarm moment task)
      (image.setAlarm moment (task.renamed rename)) := by
  refine { mirrors with alarms := ?_ }
  have more : (runner.setAlarm moment task).alarmsOf subject =
      runner.alarmsOf subject ++ [(moment, task)] := filter_snoc_of_pos (decide_eq_true own)
  show image.alarms ++ [(moment, task.renamed rename)] = _
  rw [more, List.map_append, mirrors.alarms]
  rfl

/-- The call of a fetch is forgotten, and so is its image. -/
theorem forget (mirrors : Mirrors decided subject rename channels runner image)
    (injective : rename.Injective) (id : Nat) (other : SubjectId) (kind : FetchKind) :
    Mirrors decided subject rename channels (runner.forget id other kind)
      (image.forget (rename id) other kind) := by
  refine { mirrors with calls := ?_, alarms := ?_ }
  · have same : ((fun call : Call => decide ¬(call.id = rename id ∧ call.kind = kind)) ∘
        Call.renamed rename) = fun call => decide ¬(call.id = id ∧ call.kind = kind) := by
      funext call
      refine decide_eq_decide.mpr (not_congr (and_congr_left' ?_))
      exact injective.eq_iff
    unfold callsOf Runner.forget
    rw [mirrors.calls, List.filter_map, same, callsOf, List.filter_comm]
  · have same : ((fun alarm : Moment × Task => decide (alarm.2 ≠ .fetch (rename id) other kind)) ∘
        renamedAlarm rename) = fun alarm => decide (alarm.2 ≠ .fetch id other kind) := by
      funext alarm
      refine decide_eq_decide.mpr (not_congr ?_)
      exact (Task.renamed_injective injective).eq_iff (b := .fetch id other kind)
    unfold alarmsOf Runner.forget
    rw [mirrors.alarms, List.filter_map, same, alarmsOf, List.filter_comm]

/-- What was left to chance is settled in both. -/
theorem draw (mirrors : Mirrors decided subject rename channels runner image)
    (other : SubjectId) :
    Mirrors decided subject rename channels (runner.draw other) (image.draw other) := by
  refine { mirrors with chance := fun agreed => funext fun number => ?_ }
  exact congrFun (mirrors.chance agreed) _

theorem ask {call : Call} (mirrors : Mirrors decided subject rename channels runner image)
    (own : call.subject = subject) :
    Mirrors decided subject rename channels { runner with calls := runner.calls ++ [call] }
      { image with calls := image.calls ++ [call.renamed rename] } := by
  refine { mirrors with calls := ?_ }
  have more : (runner.calls ++ [call]).filter (·.subject = subject) =
      runner.callsOf subject ++ [call] := filter_snoc_of_pos (decide_eq_true own)
  show image.calls ++ [call.renamed rename] = _
  rw [callsOf, more, List.map_append, mirrors.calls]
  rfl

theorem count (mirrors : Mirrors decided subject rename channels runner image) (kind : FetchKind) :
    Mirrors decided subject rename channels
      { runner with catalog := Runner.count runner.catalog kind }
      { image with catalog := Runner.count image.catalog kind } := by
  cases kind
  all_goals exact { mirrors with statistics := mirrors.statistics, listings := mirrors.listings }

/-- The image of a call is found under its new number. -/
theorem find?_calls (mirrors : Mirrors decided subject rename channels runner image)
    (injective : rename.Injective) (kind : FetchKind)
    (made : ∀ call ∈ runner.calls, call.id = id → call.subject = subject) :
    (image.calls.find? fun call => call.id = rename id ∧ call.kind = kind) =
      (runner.calls.find? fun call => call.id = id ∧ call.kind = kind).map
        (Call.renamed rename) := by
  have same : ((fun call : Call => decide (call.id = rename id ∧ call.kind = kind)) ∘
      Call.renamed rename) = fun call => decide (call.id = id ∧ call.kind = kind) := by
    funext call
    refine decide_eq_decide.mpr (and_congr_left' ?_)
    exact injective.eq_iff
  have own : ∀ call ∈ runner.calls, decide (call.id = id ∧ call.kind = kind) →
      decide (call.subject = subject) := fun call there wanted =>
    decide_eq_true (made call there (of_decide_eq_true wanted).1)
  rw [mirrors.calls, List.find?_map, same, callsOf, find?_filter_of_imp own]

/-! ### Turns of tasks of the account -/

theorem wakeWaiting (mirrors : Mirrors decided subject rename channels runner image)
    (injective : rename.Injective) (owns : runner.state.Owns subject id) :
    Mirrors decided subject rename channels (runner.wakeWaiting id subject)
      (image.wakeWaiting (rename id) subject) := by
  have reflected : image.waiting (rename id) subject =
      (runner.waiting id subject).map (Task.renamed rename) := by
    have runs := mirrors.state.run? injective owns
    unfold waiting
    generalize (runner.state.refresh? id).bind Refresh.run? = one,
      (image.state.refresh? (rename id)).bind Refresh.run? = other at runs ⊢
    cases runs with
    | none => rfl
    | @some run other level =>
      have same : other.isWaiting = run.isWaiting := funext level.isWaiting
      dsimp only
      rw [same, List.map_map]
      rfl
  rw [wakeWaiting_eq, wakeWaiting_eq, reflected]
  exact mirrors.wakeOwn injective fun task waits => (mem_waiting waits).2

theorem expire (mirrors : Mirrors decided subject rename channels runner image)
    (injective : rename.Injective) (orderly : Orderly runner.state)
    (owns : runner.state.Owns subject id) :
    Mirrors decided subject rename channels (runner.expire id subject)
      (image.expire (rename id) subject) := by
  have acts : (Action.expire id).actor? = some id := rfl
  unfold Runner.expire
  rcases mirrors.act? injective orderly owns acts with
    ⟨stays, still⟩ | ⟨expired, _, acted, same, kept⟩
  · have still : image.act? (.expire (rename id)) = none := still
    rw [stays, still]
    exact mirrors
  · have same : image.act? (.expire (rename id)) = some _ := same
    rw [acted, same]
    obtain ⟨events, taken, -⟩ := of_act? acted
    exact kept.wakeWaiting injective (owns.change orderly (change_of_step taken))

theorem turnOfRefresh (mirrors : Mirrors decided subject rename channels runner image)
    (injective : rename.Injective) (orderly : Orderly runner.state)
    (owns : runner.state.Owns subject id) :
    Mirrors decided subject rename channels (runner.turnOfRefresh id subject)
      (image.turnOfRefresh (rename id) subject) := by
  have begins : (Action.begin id).actor? = some id := rfl
  have concludes : (Action.conclude id).actor? = some id := rfl
  unfold Runner.turnOfRefresh
  rcases mirrors.act? injective orderly owns begins with
    ⟨stays, still⟩ | ⟨begun, _, acted, same, kept⟩
  · have still : image.act? (.begin (rename id)) = none := still
    rw [stays, still]
    rcases mirrors.act? injective orderly owns concludes with
      ⟨stays, still⟩ | ⟨concluded, _, acted, same, kept⟩
    · have still : image.act? (.conclude (rename id)) = none := still
      simp only [stays, still]
      exact mirrors.expire injective orderly owns
    · have same : image.act? (.conclude (rename id)) = some _ := same
      simp only [acted, same]
      exact kept
  · have same : image.act? (.begin (rename id)) = some _ := same
    simp only [acted, same, kept.state.deadline, kept.now]
    obtain ⟨events, taken, -⟩ := of_act? acted
    have changed := change_of_step taken
    have own : (Task.refresh id subject).subject = subject := rfl
    have woken := kept.wakeOwn injective fun task (member : task ∈ fetches id subject) =>
      (mem_fetches member).2
    have states := (begun.wakes_wakeAll (fetches id subject)).state
    refine (woken.setAlarm own _).expire injective ?_ ?_
    · show Orderly ((fetches id subject).foldl Runner.wake begun).state
      rw [states]
      exact orderly.change changed
    · show ((fetches id subject).foldl Runner.wake begun).state.Owns subject id
      rw [states]
      exact owns.change orderly changed

/-- The image of the step of a fetch that looks at its call. -/
theorem endingAction? {call : Call} (mirrors : Mirrors decided subject rename channels runner image)
    (own : call.subject = subject) :
    image.endingAction? (call.renamed rename) =
      (runner.endingAction? call).map (Action.renamed rename) := by
  subst own
  have same : (call.renamed rename).subject = call.subject := rfl
  unfold Runner.endingAction?
  rw [same, mirrors.statistics, mirrors.listings, mirrors.now]
  obtain ⟨id, subject, kind, course, wait⟩ := call
  cases kind
  all_goals
    simp only [Call.renamed, Option.map_map]
    rfl

theorem finish {call : Call} (mirrors : Mirrors decided subject rename channels runner image)
    (injective : rename.Injective) (orderly : Orderly runner.state) (own : call.subject = subject)
    (owns : runner.state.Owns subject call.id) :
    Mirrors decided subject rename channels (runner.finish call)
      (image.finish (call.renamed rename)) := by
  unfold Runner.finish
  rw [mirrors.endingAction? own]
  cases ends : runner.endingAction? call with
  | none => exact mirrors
  | some action =>
    have acts := actor?_of_ends (endingAction?_ends ends)
    have ended : Mirrors decided subject rename channels (runner.act action)
        (image.act (action.renamed rename)) := by
      unfold Runner.act
      rcases mirrors.act? injective orderly owns acts with
        ⟨stays, still⟩ | ⟨_, _, acted, same, kept⟩
      · rw [stays, still]
        exact mirrors
      · rw [acted, same]
        exact kept
    exact (ended.forget injective call.id call.subject call.kind).wake injective
      (.refresh call.id call.subject) own

theorem courseOf (mirrors : Mirrors decided subject rename channels runner image)
    (kind : FetchKind) :
    Runner.courseOf image.catalog subject kind = Runner.courseOf runner.catalog subject kind := by
  cases kind <;> simp only [Runner.courseOf, mirrors.statistics, mirrors.listings]

theorem goOn (mirrors : Mirrors decided subject rename channels runner image)
    (injective : rename.Injective) (orderly : Orderly runner.state)
    (owns : runner.state.Owns subject id)
    (made : ∀ call ∈ runner.calls, call.id = id → call.subject = subject) (kind : FetchKind) :
    Mirrors decided subject rename channels (runner.goOn id subject kind)
      (image.goOn (rename id) subject kind) := by
  have calls : (Action.call id kind).actor? = some id := rfl
  unfold Runner.goOn
  rcases mirrors.act? injective orderly owns calls with
    ⟨stays, still⟩ | ⟨called, _, acted, same, kept⟩
  · have still : image.act? (.call (rename id) kind) = none := still
    simp only [stays, still, mirrors.find?_calls injective kind made]
    cases found : runner.calls.find? fun call => call.id = id ∧ call.kind = kind with
    | none => exact mirrors
    | some call =>
      obtain ⟨rfl, -⟩ : call.id = id ∧ call.kind = kind := by simpa using List.find?_some found
      exact mirrors.finish injective orderly (made call (List.mem_of_find?_eq_some found) rfl) owns
  · have same : image.act? (.call (rename id) kind) = some _ := same
    simp only [acted, same, mirrors.courseOf kind, mirrors.timeout, mirrors.now]
    obtain ⟨events, taken, -⟩ := of_act? acted
    have changed := change_of_step taken
    exact (((kept.count kind).ask rfl).setAlarm rfl _).finish injective (orderly.change changed)
      rfl (owns.change orderly changed)

theorem giveUp (mirrors : Mirrors decided subject rename channels runner image)
    (injective : rename.Injective) (orderly : Orderly runner.state)
    (owns : runner.state.Owns subject id) (kind : FetchKind) :
    Mirrors decided subject rename channels (runner.giveUp id subject kind)
      (image.giveUp (rename id) subject kind) := by
  have abandons : (Action.abandon id kind).actor? = some id := rfl
  unfold Runner.giveUp
  rcases mirrors.act? injective orderly owns abandons with
    ⟨stays, still⟩ | ⟨abandoned, _, acted, same, kept⟩
  · have still : image.act? (.abandon (rename id) kind) = none := still
    simp only [stays, still]
    exact mirrors
  · have same : image.act? (.abandon (rename id) kind) = some _ := same
    simp only [acted, same]
    exact (kept.forget injective id subject kind).wake injective (.refresh id subject) rfl

/-- A fetch of a cancelled refresh has ended, and so has its image, each in its own way. -/
theorem closed {change changeToo : Run → Run}
    (mirrors : Mirrors decided subject rename channels runner image) (undecided : ¬decided)
    (injective : rename.Injective)
    (cancelled : ∀ refresh ∈ runner.state.refreshes, refresh.id = id → refresh.cancelled)
    (closes : Run.Closes kind change) (closesToo : Run.Closes kind changeToo) :
    Mirrors decided subject rename channels (runner.closed id subject kind change)
      (image.closed (rename id) subject kind changeToo) := by
  have same : ∀ refresh ∈ runner.state.refreshes, refresh.id = id →
      decided ∨ refresh.cancelled = false → change = changeToo :=
    fun refresh present acts settled =>
      absurd (cancelled refresh present acts) (by simp [settled.resolve_left undecided])
  have ended :=
    (mirrors.state.withRun injective (fun level => level.close closes closesToo) same).tidy
  have moved : Mirrors decided subject rename channels
      { runner with state := (runner.state.modify id (·.withRun change)).tidy }
      { image with state := (image.state.modify (rename id) (·.withRun changeToo)).tidy } :=
    ⟨ended, mirrors.timeout, mirrors.statistics, mirrors.listings, mirrors.ready, mirrors.calls,
      mirrors.alarms, mirrors.chance, mirrors.told⟩
  exact (moved.forget injective id subject kind).wake injective (.refresh id subject) rfl

theorem turnOfFetch (mirrors : Mirrors decided subject rename channels runner image)
    (injective : rename.Injective) (orderly : Orderly runner.state)
    (owns : runner.state.Owns subject id)
    (made : ∀ call ∈ runner.calls, call.id = id → call.subject = subject) (kind : FetchKind) :
    Mirrors decided subject rename channels (runner.turnOfFetch id subject kind)
      (image.turnOfFetch (rename id) subject kind) := by
  have abandons : (Action.abandon id kind).actor? = some id := rfl
  have drawn := mirrors.draw subject
  rcases mirrors.act? injective orderly owns abandons with
    ⟨stays, still⟩ | ⟨abandoned, _, acted, same, -⟩
  · have still : image.act? (.abandon (rename id) kind) = none := still
    unfold Runner.turnOfFetch
    simp only [stays, still, Option.isNone_none, if_true]
    exact mirrors.goOn injective orderly owns made kind
  have same : image.act? (.abandon (rename id) kind) = some _ := same
  by_cases agreed : decided
  · unfold Runner.turnOfFetch
    simp only [acted, same, Option.isNone_some, mirrors.chance agreed]
    split
    · contradiction
    · split
      · have goesOn : Does id subject (runner.draw subject)
            ((runner.draw subject).goOn id subject kind) := Does.nothing.goOn made
        have kept := Does.state (P := fun state => Orderly state ∧ state.Owns subject id)
          (fun _ taken both => ⟨both.1.change (change_of_step taken),
            both.2.change both.1 (change_of_step taken)⟩) goesOn ⟨orderly, owns⟩
        exact (drawn.goOn injective orderly owns made kind).giveUp injective kept.1 kept.2 kind
      · exact drawn.giveUp injective orderly owns kind
  · have madeToo : ∀ call ∈ image.calls, call.id = rename id → call.subject = subject := by
      intro call there _
      obtain ⟨original, own, rfl⟩ := List.mem_map.mp (mirrors.calls ▸ there)
      exact of_decide_eq_true (List.mem_filter.mp own).2
    obtain ⟨change, catalog, closes, statistics, listings, turned⟩ :=
      exists_closed (Option.isSome_of_eq_some acted) made
    obtain ⟨changeToo, catalogToo, closesToo, statisticsToo, listingsToo, turnedToo⟩ :=
      exists_closed (Option.isSome_of_eq_some same) madeToo
    obtain ⟨refresh, run, abandons⟩ := abandons_of_act? (Option.isSome_of_eq_some acted)
    have settled : Mirrors decided subject rename channels { runner.draw subject with catalog }
        { image.draw subject with catalog := catalogToo } :=
      { drawn with
        statistics := by rw [statisticsToo, statistics, mirrors.statistics]
        listings := by rw [listingsToo, listings, mirrors.listings] }
    rw [turned, turnedToo]
    exact settled.closed agreed injective (abandons.cancelled_of_id orderly) closes closesToo

/-- A turn of a task of the account has its image in the mirror. -/
theorem turn (mirrors : Mirrors decided subject rename channels runner image)
    (injective : rename.Injective) (orderly : Orderly runner.state) (own : task.subject = subject)
    (owns : runner.state.Owns subject task.id)
    (made : ∀ call ∈ runner.calls, call.id = task.id → call.subject = subject) :
    Mirrors decided subject rename channels (runner.turn task)
      (image.turn (task.renamed rename)) := by
  subst own
  cases task with
  | refresh id subject => exact mirrors.turnOfRefresh injective orderly owns
  | fetch id subject kind => exact mirrors.turnOfFetch injective orderly owns made kind

end Mirrors

end Runner

end UserDashboard.Dashboard
