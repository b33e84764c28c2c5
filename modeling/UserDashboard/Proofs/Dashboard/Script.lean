/-
This file says what a run is to an account.

It is a script: what is done for the account and how time passes, with what the catalog says about
the account whenever tasks take turns while it is being refreshed. What is done for others is not
part of it, and neither is what the catalog says when nobody asks. A script can be played by a
runner that works for nobody else.
-/

import UserDashboard.Proofs.Dashboard.Idle

namespace UserDashboard

namespace Catalog

instance {α : Type} [DecidableEq α] : DecidableEq (Plan α) := fun first second =>
  decidable_of_iff
    (first.value = second.value ∧ first.course = second.course ∧ first.delay = second.delay) (by
      cases first
      cases second
      simp)

/-- What a catalog says about an account. -/
structure Advice where
  /-- How calls for its statistics go. -/
  statistics : Plan Statistics
  /-- How calls for its listings go. -/
  listings : Plan (List Listing)
  deriving DecidableEq

/-- What there is to say about an account. -/
def Scripted.advice (catalog : Scripted) (subject : SubjectId) : Advice :=
  ⟨catalog.statistics.plan subject, catalog.listings.plan subject⟩

/-- A catalog that says the same about everybody. -/
def Advice.catalog (advice : Advice) : Scripted :=
  ⟨⟨fun _ => advice.statistics, 0⟩, ⟨fun _ => advice.listings, 0⟩⟩

end Catalog

namespace Dashboard

open Catalog Time

/-! ### What is done for an account -/

/-- What is done for an account, and what time does. -/
inductive Doing where
  /-- Someone reads the dashboard. -/
  | read
  /-- Someone looks the dashboard up. -/
  | lookUp
  /-- Someone asks for a refresh. -/
  | ask
  /-- Someone has the account invalidated. -/
  | invalidate
  /-- Time passes from alarm to alarm. -/
  | sleep (nanos : Nat)
  /-- Time passes at once. -/
  | jump (millis : Nat)
  /-- Tasks take their turns at the end. -/
  | rest
  deriving DecidableEq

/-- What is done when it is done for an account. -/
def Doing.errands (subject : SubjectId) : Doing → List Errand
  | .read => [.read subject]
  | .lookUp => [.lookUp subject]
  | .ask => [.ask subject]
  | .invalidate => [.invalidate subject]
  | .sleep nanos => [.sleep nanos]
  | .jump millis => [.jump millis]
  | .rest => []

namespace Errand

variable {errand : Errand} {subject other : SubjectId} {doing : Doing}

/-- The account that something is done for. -/
def account? : Errand → Option SubjectId
  | .read subject | .lookUp subject | .ask subject | .invalidate subject | .list subject _ =>
    some subject
  | _ => none

/-- What an errand is for an account, if it concerns the account. -/
def doing? (subject : SubjectId) : Errand → Option Doing
  | .read other => if other = subject then some .read else none
  | .lookUp other => if other = subject then some .lookUp else none
  | .ask other => if other = subject then some .ask else none
  | .invalidate other => if other = subject then some .invalidate else none
  | .sleep nanos => some (.sleep nanos)
  | .jump millis => some (.jump millis)
  | .sweep | .list _ _ | .instruct _ | .take _ => none

/-- Whether tasks take their turns. -/
def takesTurns : Errand → Bool
  | .list _ _ | .take _ | .sleep _ => true
  | _ => false

/-- Whether something is done with dashboards, and tasks are not stopped halfway. How far those of
an account come in so many turns would depend on the others. -/
def isWhole : Errand → Bool
  | .list _ _ | .take _ => false
  | _ => true

theorem errands_of_doing? (concerned : errand.doing? subject = some doing) :
    doing.errands subject = [errand] := by
  cases errand
  all_goals
    simp only [doing?, Option.ite_none_right_eq_some, Option.some.injEq, reduceCtorEq] at concerned
  case read | lookUp | ask | invalidate =>
    obtain ⟨rfl, rfl⟩ := concerned
    rfl
  case sleep | jump =>
    obtain rfl := concerned
    rfl

theorem doing?_ne_rest : errand.doing? subject ≠ some .rest := by
  intro concerned
  cases (errands_of_doing? concerned)

theorem account_of_doing? (concerned : errand.doing? subject = some doing)
    (account : errand.account? = some other) : other = subject := by
  cases errand <;> cases account
  case list => cases concerned
  all_goals exact (Option.ite_none_right_eq_some.mp concerned).1

theorem account_ne_of_doing? (passing : errand.doing? subject = none) (whole : errand.isWhole)
    (account : errand.account? = some other) : other ≠ subject := by
  rintro rfl
  cases errand <;> cases account
  case list => cases whole
  all_goals exact absurd passing (by simp [doing?])

end Errand

/-! ### Scripts -/

/-- A line of a script. -/
structure Line where
  /-- What is done. -/
  doing : Doing
  /-- What the catalog says about the account, if it may be asked. -/
  advice : Option Advice
  deriving DecidableEq

namespace Line

/-- What is done on a line. -/
def errands (subject : SubjectId) (line : Line) : List Errand :=
  (line.advice.map fun advice => Errand.instruct advice.catalog).toList ++
    line.doing.errands subject

/-- The same is done on both lines, and the advice is the same if there is some on both. -/
def Matches (line other : Line) : Prop :=
  line.doing = other.doing ∧
    (line.advice = none ∨ other.advice = none ∨ line.advice = other.advice)

instance (line other : Line) : Decidable (line.Matches other) :=
  inferInstanceAs (Decidable (_ ∧ _))

end Line

/-- What a caller is told. -/
inductive Errand.Answer where
  /-- The dashboard, or a placeholder. -/
  | dashboard (snapshot : Snapshot)
  /-- The dashboard, if there is one. -/
  | found (snapshot? : Option Snapshot)
  /-- Whether a refresh was scheduled. -/
  | scheduled (started : Bool)
  deriving DecidableEq

namespace Runner

/-- What the caller is told when something is done. -/
def answer? (runner : Runner) : Errand → Option Errand.Answer
  | .read subject => some (.dashboard (runner.snapshot subject).1)
  | .lookUp subject => some (.found (runner.cached subject).1)
  | .ask subject => some (.scheduled (runner.schedule subject).1)
  | _ => none

/-- What the callers of an account are told one after another. -/
def answers (subject : SubjectId) : Runner → List Errand → List Errand.Answer
  | _, [] => []
  | runner, errand :: rest =>
    (if errand.account? = some subject then (runner.answer? errand).toList else []) ++
      answers subject (runner.perform errand) rest

/-- What the catalog says about an account, if the account is being refreshed. -/
def advice? (runner : Runner) (subject : SubjectId) : Option Advice :=
  if (runner.state.refreshesOf subject).isEmpty then none
  else some (runner.catalog.advice subject)

/-- The line of an errand that concerns an account. -/
def line (runner : Runner) (subject : SubjectId) (errand : Errand) (doing : Doing) : Line :=
  ⟨doing, if errand.takesTurns then runner.advice? subject else none⟩

/-- What happens to an account. -/
def script (subject : SubjectId) : Runner → List Errand → List Line
  | runner, [] => [⟨.rest, runner.advice? subject⟩]
  | runner, errand :: rest =>
    ((errand.doing? subject).map (runner.line subject errand)).toList ++
      script subject (runner.perform errand) rest

variable {runner image : Runner} {subject : SubjectId} {errand : Errand} {doing : Doing}

theorem script_of_concerned (runner : Runner) (concerned : errand.doing? subject = some doing)
    (rest : List Errand) : runner.script subject (errand :: rest) =
      runner.line subject errand doing :: (runner.perform errand).script subject rest := by
  rw [script, concerned]
  rfl

theorem script_of_passing (runner : Runner) (passing : errand.doing? subject = none)
    (rest : List Errand) :
    runner.script subject (errand :: rest) = (runner.perform errand).script subject rest := by
  rw [script, passing]
  rfl

/-- The runner after a script was played to it. -/
def play (subject : SubjectId) (runner : Runner) (script : List Line) : Runner :=
  (script.flatMap (Line.errands subject)).foldl perform runner

theorem play_cons (runner : Runner) (line : Line) (rest : List Line) :
    runner.play subject (line :: rest) = (runner.play subject [line]).play subject rest := by
  unfold play
  rw [List.flatMap_cons, List.foldl_append, List.flatMap_singleton]

/-- What the callers are told when a script is played. -/
def played (subject : SubjectId) (runner : Runner) (script : List Line) : List Errand.Answer :=
  runner.answers subject (script.flatMap (Line.errands subject))

theorem answers_append (runner : Runner) (first second : List Errand) :
    runner.answers subject (first ++ second) =
      runner.answers subject first ++ (first.foldl perform runner).answers subject second := by
  induction first generalizing runner with
  | nil => rfl
  | cons errand rest inductionHypothesis =>
    rw [List.cons_append, answers, answers, inductionHypothesis, List.append_assoc]
    rfl

theorem played_cons (runner : Runner) (line : Line) (rest : List Line) :
    runner.played subject (line :: rest) =
      runner.played subject [line] ++ (runner.play subject [line]).played subject rest := by
  unfold played play
  rw [List.flatMap_cons, answers_append, List.flatMap_singleton]

theorem answer?_instruct (runner : Runner) (catalog : Scripted) (errand : Errand) :
    { runner with catalog }.answer? errand = runner.answer? errand := by
  cases errand with
  | ask subject =>
    have same : ({ runner with catalog }.schedule subject).1 = (runner.schedule subject).1 := by
      rw [schedule_fst, schedule_fst]
    exact congrArg (some ∘ Errand.Answer.scheduled) same
  | _ => rfl

/-- The catalog only matters when tasks take turns. -/
theorem perform_instruct (runner : Runner) (catalog : Scripted) (still : errand.takesTurns = false)
    (tolerant : ∀ next, errand ≠ .instruct next) :
    { runner with catalog }.perform errand = { runner.perform errand with catalog } := by
  cases errand with
  | read subject => exact snapshot_instruct runner catalog subject
  | lookUp | sweep => rfl
  | ask subject => exact schedule_instruct runner catalog subject
  | invalidate subject => exact invalidate_instruct runner catalog subject
  | list | take | sleep => cases still
  | instruct next => exact absurd rfl (tolerant next)
  | jump millis =>
    exact ring_instruct (runner.waitUntil (runner.now + (millis * nanosPerMilli : Nat))) catalog

end Runner

end Dashboard

end UserDashboard
