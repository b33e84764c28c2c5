/-
This file proves that accounts do not interfere as long as there is room for all of them.

A runner that is given nothing but the script of an account mirrors the whole run, whatever is done
for others meanwhile and whatever comes of it. So two runs whose scripts match answer callers of the
account alike and make the same known about it. Refreshes of the account are under way in both at
the same time, for both have the same mirror, and so they are given the same advice. The bound on
the number of dashboards is all that could tell one account of others, and it drops nothing while it
is not below their number.
-/

import Mathlib.Data.List.Dedup
import UserDashboard.Proofs.Dashboard.Deadline
import UserDashboard.Proofs.Dashboard.Echo
import UserDashboard.Proofs.Dashboard.Script

namespace UserDashboard.Dashboard.Runner

open Cache Catalog Time

variable {decided : Prop} {runner other image : Runner} {subject : SubjectId} {rename : Nat → Nat}
  {errand : Errand} {doing : Doing} {channels channelsToo : Broadcast Event × Broadcast Event}
  {accounts accountsToo : List SubjectId} {errands errandsToo rest : List Errand}

/-! ### One thing after another -/

/-- There still is room for all dashboards after something was done for one of the accounts. -/
theorem Lodged.perform (lodged : runner.Lodged accounts) (whole : errand.isWhole)
    (known : ∀ subject, errand.account? = some subject → subject ∈ accounts) :
    (runner.perform errand).Lodged accounts := by
  have housed := lodged.housed
  refine ⟨lodged.inHand.perform errand, ?_⟩
  cases errand with
  | read subject =>
    have taken : runner.state.step? (.snapshot subject) =
        some ((runner.snapshot subject).2.state, []) := by
      rw [(runner.snapshot_same subject).1]
      rfl
    exact housed.step taken known
  | lookUp subject =>
    have taken : runner.state.step? (.cached subject) =
        some ((runner.cached subject).2.state, []) := rfl
    exact housed.step taken nofun
  | ask subject =>
    have taken : runner.state.step? (.schedule subject) =
        some ((runner.schedule subject).2.state, []) := by
      rw [schedule_snd]
      split
      · rw [(wake_same _ _).1]
        rfl
      · rfl
    exact housed.step taken known
  | invalidate subject =>
    have taken : runner.state.step? (.invalidate subject) =
        some ((runner.invalidate subject).state, [.invalidated subject]) := by
      rw [(runner.invalidate_same subject).1]
      rfl
    exact housed.step taken nofun
  | sweep =>
    have taken : runner.state.step? .sweep = some (runner.sweep.2.state, []) := rfl
    exact housed.step taken nofun
  | list | take => cases whole
  | instruct catalog => exact housed
  | sleep nanos => exact (lodged.reach _).housed
  | jump millis => exact (lodged.ring _).housed

/-- Nothing that is done for others touches the account. -/
theorem Untouched.perform (lodged : runner.Lodged accounts) (whole : errand.isWhole)
    (passing : errand.doing? subject = none) (tolerant : ∀ catalog, errand ≠ .instruct catalog) :
    Untouched subject runner (runner.perform errand) := by
  have different (other : SubjectId) : errand.account? = some other → other ≠ subject :=
    Errand.account_ne_of_doing? passing whole
  cases errand with
  | read other => exact .snapshot runner (different other rfl)
  | lookUp other => exact .cached runner subject other
  | ask other => exact .schedule runner (different other rfl)
  | invalidate other => exact .invalidate lodged.housed.orderly (different other rfl)
  | sweep => exact .sweep lodged subject
  | list | take => cases whole
  | instruct catalog => exact absurd rfl (tolerant catalog)
  | sleep | jump => cases passing

namespace Mirrors

/-- The mirror's catalog may be told anew what there is to say about the account. -/
theorem instruct (mirrors : Mirrors decided subject rename channels runner image)
    (catalog : Scripted) :
    Mirrors decided subject rename channels { runner with catalog }
      { image with catalog := (catalog.advice subject).catalog } :=
  { mirrors with statistics := rfl, listings := rfl }

/-- What concerns the account is done in the mirror as well, and both answer alike. -/
theorem perform (mirrors : Mirrors decided subject rename channels runner image)
    (injective : rename.Injective) (lodged : runner.Lodged accounts) (inHand : image.InHand)
    (concerned : errand.doing? subject = some doing) :
    ∃ aligned : Nat → Nat, aligned.Injective ∧
      Mirrors decided subject aligned channels (runner.perform errand) (image.perform errand) ∧
      image.answer? errand = runner.answer? errand := by
  obtain ⟨aligned, fresh, next, kept⟩ :=
    mirrors.align injective lodged.inHand.attributed inHand.attributed
  have own (other : SubjectId) : errand.account? = some other → other = subject :=
    Errand.account_of_doing? concerned
  cases errand with
  | read other =>
    obtain rfl := own other rfl
    obtain ⟨answer, kept⟩ := kept.snapshot fresh next
    exact ⟨aligned, fresh, kept, congrArg (some ∘ Errand.Answer.dashboard) answer⟩
  | lookUp other =>
    obtain rfl := own other rfl
    obtain ⟨answer, kept⟩ := mirrors.cached
    exact ⟨rename, injective, kept, congrArg (some ∘ Errand.Answer.found) answer⟩
  | ask other =>
    obtain rfl := own other rfl
    obtain ⟨answer, kept⟩ := kept.schedule fresh next
    exact ⟨aligned, fresh, kept, congrArg (some ∘ Errand.Answer.scheduled) answer⟩
  | invalidate other =>
    obtain rfl := own other rfl
    exact ⟨rename, injective, mirrors.invalidate injective lodged.housed.orderly, rfl⟩
  | sweep | list | instruct | take => cases concerned
  | sleep nanos => exact ⟨rename, injective, mirrors.sleep injective lodged inHand nanos, rfl⟩
  | jump millis =>
    refine ⟨rename, injective, ?_, rfl⟩
    unfold Runner.perform
    rw [mirrors.now]
    exact (mirrors.waitUntil _).ring injective

/-- Nothing is done in the mirror when the account is not concerned. -/
theorem pass (mirrors : Mirrors decided subject rename channels runner image)
    (lodged : runner.Lodged accounts) (whole : errand.isWhole)
    (passing : errand.doing? subject = none) :
    Mirrors decided subject rename channels (runner.perform errand)
      { image with catalog := ((runner.perform errand).catalog.advice subject).catalog } := by
  have tolerated (tolerant : ∀ catalog, errand ≠ .instruct catalog) :=
    (mirrors.of_untouched (.perform lodged whole passing tolerant)).instruct
      (runner.perform errand).catalog
  cases errand with
  | instruct next => exact mirrors.instruct next
  | _ => exact tolerated nofun

end Mirrors

/-- A run and a runner that mirrors it so far. What the mirror's catalog says is of no account until
it is asked. -/
structure Mirrored (decided : Prop) (subject : SubjectId)
    (channels : Broadcast Event × Broadcast Event) (accounts : List SubjectId)
    (image runner : Runner) (errands : List Errand) : Prop where
  mirrors : ∃ rename : Nat → Nat, rename.Injective ∧ Mirrors decided subject rename channels runner
    { image with catalog := (runner.catalog.advice subject).catalog }
  lodged : runner.Lodged accounts
  inHand : image.InHand
  whole : ∀ errand ∈ errands, errand.isWhole
  known : ∀ errand ∈ errands, ∀ subject, errand.account? = some subject → subject ∈ accounts

namespace Mirrored

/-- The account is being refreshed in both or in neither. -/
theorem isEmpty (mirrored : Mirrored decided subject channels accounts image runner errands) :
    (runner.state.refreshesOf subject).isEmpty = image.state.refreshes.isEmpty := by
  obtain ⟨rename, -, mirrors⟩ := mirrored.mirrors
  have refreshes : List.Forall₂ _ (runner.state.refreshesOf subject) image.state.refreshes :=
    mirrors.state.refreshes
  generalize runner.state.refreshesOf subject = one, image.state.refreshes = other at refreshes ⊢
  cases refreshes <;> rfl

theorem pass (mirrored : Mirrored decided subject channels accounts image runner (errand :: rest))
    (passing : errand.doing? subject = none) :
    Mirrored decided subject channels accounts image (runner.perform errand) rest := by
  obtain ⟨⟨rename, injective, mirrors⟩, lodged, inHand, whole, known⟩ := mirrored
  obtain ⟨whole, wholeLater⟩ := List.forall_mem_cons.mp whole
  obtain ⟨known, knownLater⟩ := List.forall_mem_cons.mp known
  exact ⟨⟨rename, injective, mirrors.pass lodged whole passing⟩, lodged.perform whole known, inHand,
    wholeLater, knownLater⟩

/-- With the advice, the mirror's catalog says what there is to say about the account, or else the
mirror is idle. -/
theorem advised (mirrored : Mirrored decided subject channels accounts image runner errands) :
    let advice := (runner.advice? subject).map fun advice => Errand.instruct advice.catalog
    advice.toList.foldl Runner.perform image =
        { image with catalog := (runner.catalog.advice subject).catalog } ∨
      advice.toList.foldl Runner.perform image = image ∧ image.Idle := by
  intro advice
  have same := mirrored.isEmpty
  unfold advice advice?
  split
  · rename_i nothing
    exact Or.inr ⟨rfl, mirrored.inHand.idle (List.isEmpty_iff.mp (same.symm.trans nothing))⟩
  · exact Or.inl rfl

/-- On the line of what concerns the account, the mirror does what it would do if its catalog said
what there is to say about the account. -/
theorem play_line (mirrored : Mirrored decided subject channels accounts image runner errands)
    (concerned : errand.doing? subject = some doing) (catalog : Scripted) :
    let advised := { image with catalog := (runner.catalog.advice subject).catalog }
    { image.play subject [runner.line subject errand doing] with catalog } =
        { advised.perform errand with catalog } ∧
      image.played subject [runner.line subject errand doing] =
        if errand.account? = some subject then (advised.answer? errand).toList else [] := by
  intro advised
  unfold play played
  rw [List.flatMap_singleton, Line.errands, line, Errand.errands_of_doing? concerned]
  cases turns : errand.takesTurns with
  | false =>
    have tolerant : ∀ next, errand ≠ .instruct next := by
      rintro next rfl
      cases concerned
    rw [perform_instruct image _ turns tolerant, answer?_instruct]
    exact ⟨rfl, List.append_nil _⟩
  | true =>
    cases errand with
    | sleep nanos =>
      rw [if_pos rfl, answers_append, List.foldl_append]
      refine ⟨?_, ?_⟩
      · rcases mirrored.advised with same | ⟨same, idle⟩
        · rw [same]
          rfl
        · have slept : advised.perform (.sleep nanos) =
              { image.sleep nanos with catalog := (runner.catalog.advice subject).catalog } :=
            idle.sleep_instruct _ nanos
          rw [same, slept]
          rfl
      · cases runner.advice? subject <;> rfl
    | list | take => cases concerned
    | _ => cases turns

/-- The mirror follows the script when the account is concerned. -/
theorem follow (mirrored : Mirrored decided subject channels accounts image runner (errand :: rest))
    (concerned : errand.doing? subject = some doing) :
    Mirrored decided subject channels accounts
        (image.play subject [runner.line subject errand doing]) (runner.perform errand) rest ∧
      image.played subject [runner.line subject errand doing] =
        if errand.account? = some subject then (runner.answer? errand).toList else [] := by
  obtain ⟨played, said⟩ :=
    mirrored.play_line concerned ((runner.perform errand).catalog.advice subject).catalog
  obtain ⟨⟨rename, injective, mirrors⟩, lodged, inHand, whole, known⟩ := mirrored
  obtain ⟨whole, wholeLater⟩ := List.forall_mem_cons.mp whole
  obtain ⟨known, knownLater⟩ := List.forall_mem_cons.mp known
  obtain ⟨aligned, fresh, kept, answer⟩ :=
    mirrors.perform injective lodged (inHand.instruct _) concerned
  refine ⟨⟨⟨aligned, fresh, ?_⟩, lodged.perform whole known, (inHand.performAll _).1, wholeLater,
    knownLater⟩, ?_⟩
  · rw [played]
    exact kept.instruct (runner.perform errand).catalog
  · rw [said, answer]

/-- A runner that is given the script of an account mirrors the run, and gives the same answers. -/
theorem performAll (mirrored : Mirrored decided subject channels accounts image runner errands) :
    (∃ aligned catalog,
      Mirrors decided subject aligned channels (errands.foldl Runner.perform runner).settle
        { (image.play subject (runner.script subject errands)).settle with catalog }) ∧
      image.played subject (runner.script subject errands) = runner.answers subject errands := by
  induction errands generalizing runner image with
  | nil =>
    have advised := mirrored.advised
    obtain ⟨⟨rename, injective, mirrors⟩, lodged, inHand, -, -⟩ := mirrored
    have settled := (mirrors.settle injective lodged (inHand.instruct _)).instruct
      runner.settle.catalog
    unfold play played
    rw [script, List.flatMap_singleton, Line.errands, Doing.errands, List.append_nil]
    refine ⟨⟨rename, (runner.settle.catalog.advice subject).catalog, ?_⟩, ?_⟩
    · rcases advised with same | ⟨same, idle⟩
      · rw [same]
        exact settled
      · rw [idle.settle_instruct] at settled
        rw [same]
        exact settled
    · cases runner.advice? subject <;> rfl
  | cons errand rest inductionHypothesis =>
    cases concerned : errand.doing? subject with
    | none =>
      have foreign : errand.account? ≠ some subject := fun own =>
        Errand.account_ne_of_doing? concerned (mirrored.whole errand List.mem_cons_self) own rfl
      rw [script_of_passing runner concerned, answers, if_neg foreign]
      exact inductionHypothesis (mirrored.pass concerned)
    | some doing =>
      obtain ⟨kept, answer⟩ := mirrored.follow concerned
      obtain ⟨ended, later⟩ := inductionHypothesis kept
      rw [script_of_concerned runner concerned, play_cons, played_cons, answer, later]
      exact ⟨ended, rfl⟩

/-- Advice is given in both runs or in neither, so it is the same if the lines match. -/
theorem advice?_eq (mirrored : Mirrored decided subject channels accounts image runner errands)
    (mirroredToo : Mirrored decided subject channelsToo accountsToo image other errandsToo)
    (alike : runner.advice? subject = none ∨ other.advice? subject = none ∨
      runner.advice? subject = other.advice? subject) :
    runner.advice? subject = other.advice? subject := by
  have same := mirrored.isEmpty.trans mirroredToo.isEmpty.symm
  unfold advice? at alike ⊢
  rw [same] at alike ⊢
  by_cases rests : (other.state.refreshesOf subject).isEmpty
  · rw [if_pos rests, if_pos rests]
  · rw [if_neg rests, if_neg rests] at alike ⊢
    rcases alike with none | none | equal
    · cases none
    · cases none
    · exact equal

/-- What is done for the account in both runs has the same line in both. -/
theorem line_eq {errandToo : Errand} {doingToo : Doing}
    (mirrored : Mirrored decided subject channels accounts image runner errands)
    (mirroredToo : Mirrored decided subject channelsToo accountsToo image other errandsToo)
    (concerned : errand.doing? subject = some doing)
    (concernedToo : errandToo.doing? subject = some doingToo)
    (alike : (runner.line subject errand doing).Matches (other.line subject errandToo doingToo)) :
    runner.line subject errand doing = other.line subject errandToo doingToo := by
  obtain ⟨same, advice⟩ := alike
  obtain rfl : doing = doingToo := same
  obtain rfl : errand = errandToo := List.singleton_inj.mp
    ((Errand.errands_of_doing? concerned).symm.trans (Errand.errands_of_doing? concernedToo))
  unfold line at advice ⊢
  cases turns : errand.takesTurns with
  | false => rfl
  | true =>
    rw [turns] at advice
    rw [mirrored.advice?_eq mirroredToo advice]

/-- Runs that have one mirror and scripts that match have the same script. -/
theorem script_eq (mirrored : Mirrored decided subject channels accounts image runner errands)
    (mirroredToo : Mirrored decided subject channelsToo accountsToo image other errandsToo)
    (alike : List.Forall₂ Line.Matches (runner.script subject errands)
      (other.script subject errandsToo)) :
    runner.script subject errands = other.script subject errandsToo := by
  -- What does not concern the account is skipped, first in one run and then in the other.
  induction errands generalizing runner other image errandsToo with
  | nil =>
    induction errandsToo generalizing other with
    | nil =>
      obtain ⟨⟨-, advice⟩, -⟩ := List.forall₂_cons.mp alike
      rw [script, script, mirrored.advice?_eq mirroredToo advice]
    | cons errandToo restToo inductionHypothesis =>
      cases concernedToo : errandToo.doing? subject with
      | none =>
        rw [script_of_passing other concernedToo] at alike ⊢
        exact inductionHypothesis (mirroredToo.pass concernedToo) alike
      | some doingToo =>
        rw [script_of_concerned other concernedToo] at alike
        obtain ⟨⟨same, -⟩, -⟩ := List.forall₂_cons.mp alike
        obtain rfl : .rest = doingToo := same
        exact absurd concernedToo Errand.doing?_ne_rest
  | cons errand rest skipped =>
    cases concerned : errand.doing? subject with
    | none =>
      rw [script_of_passing runner concerned] at alike ⊢
      exact skipped (mirrored.pass concerned) mirroredToo alike
    | some doing =>
      rw [script_of_concerned runner concerned] at alike ⊢
      induction errandsToo generalizing other with
      | nil =>
        obtain ⟨⟨same, -⟩, -⟩ := List.forall₂_cons.mp alike
        obtain rfl : doing = .rest := same
        exact absurd concerned Errand.doing?_ne_rest
      | cons errandToo restToo skippedToo =>
        cases concernedToo : errandToo.doing? subject with
        | none =>
          rw [script_of_passing other concernedToo] at alike ⊢
          exact skippedToo (mirroredToo.pass concernedToo) alike
        | some doingToo =>
          rw [script_of_concerned other concernedToo] at alike ⊢
          obtain ⟨first, later⟩ := List.forall₂_cons.mp alike
          have same := mirrored.line_eq mirroredToo concerned concernedToo first
          obtain ⟨kept, -⟩ := mirrored.follow concerned
          obtain ⟨keptToo, -⟩ := mirroredToo.follow concernedToo
          rw [← same] at keptToo ⊢
          rw [skipped kept keptToo later]

end Mirrored

/-! ### Whole runs -/

/-- What is done is whole, and is done for no more accounts than there is room for. -/
structure Fits (maxEntries : Nat) (errands : List Errand) : Prop where
  /-- Nothing is stopped halfway. -/
  whole : ∀ errand ∈ errands, errand.isWhole
  /-- No dashboard has to make room for that of another account. -/
  few : (errands.filterMap Errand.account?).dedup.length ≤ max maxEntries 1

/-- How a runner is set up. -/
structure Setup where
  /-- When it is. -/
  now : Moment
  /-- How many listings and records a dashboard shows. -/
  recentLimit : Nat
  /-- How long a refresh may take. -/
  deadline : Span
  /-- How long a dashboard is remembered. -/
  ttl : Span
  /-- How many dashboards are remembered, if there may be any. -/
  maxEntries : Nat
  /-- How long a fetch waits. -/
  timeout : Span
  /-- How many events the channel remembers. -/
  capacity : Nat

/-- A runner with nothing done yet, and someone who listens to what it makes known. -/
def Setup.start (setup : Setup) (catalog : Scripted) (chance : Chance) : Runner :=
  { new (.new setup.now setup.recentLimit setup.deadline chance.reports
      (.new setup.ttl setup.maxEntries)) catalog setup.timeout chance.callFirst with
    channel := .listened setup.capacity }

theorem Setup.lodged (setup : Setup) (few : accounts.length ≤ max setup.maxEntries 1)
    (catalog : Scripted) (chance : Chance) : (setup.start catalog chance).Lodged accounts := by
  have orderly := Orderly.new setup.now setup.recentLimit setup.deadline chance.reports
    (.new setup.ttl setup.maxEntries)
  obtain ⟨⟨orderly, ready, alarms, calls⟩, lingering, calling, attended⟩ :=
    inHand_new orderly rfl catalog setup.timeout chance.callFirst
  refine ⟨⟨⟨orderly, ready, alarms, calls⟩, lingering, calling, List.forall_mem_nil _⟩, orderly,
    lingering, ⟨?_, List.forall_mem_nil _, few⟩, List.forall_mem_nil _⟩
  exact ExpiringMap.Regular.new setup.ttl setup.maxEntries

/-- What a runner has made known. All of it was sent, and the channel remembers the newest of it, as
much as there is room for. -/
structure HasTold (capacity : Nat) (runner : Runner) (events : List Event) : Prop where
  /-- It is what was sent. -/
  sent : runner.channel = (Broadcast.listened capacity).sendAll events
  /-- There were as many events. -/
  counted : runner.channel.sent = events.length
  /-- They are the events that are remembered, but for the oldest if there are too many. -/
  remembered : runner.channel.recent = events.drop (events.length - capacity)

theorem hasTold_of_sent {capacity : Nat} {events : List Event}
    (sent : runner.channel = (Broadcast.listened capacity).sendAll events) :
    runner.HasTold capacity events :=
  ⟨sent, sent ▸ Broadcast.sent_listened capacity events,
    sent ▸ Broadcast.recent_listened capacity events⟩

/-- All is remembered as long as there is room. -/
theorem HasTold.recent {capacity : Nat} {events : List Event}
    (told : runner.HasTold capacity events) (room : runner.channel.sent ≤ capacity) :
    runner.channel.recent = events := by
  rw [told.counted] at room
  rw [told.remembered, Nat.sub_eq_zero_of_le room, List.drop_zero]

/-- A run looks to an account like that of a runner which is given nothing but the script, however
many events that one can remember and whatever is left to chance there. -/
theorem Setup.mirrored (decided : Prop) (setup : Setup) (own : Nat) (subject : SubjectId)
    (catalog : Scripted) (chance chanceToo : Chance) (fits : Fits setup.maxEntries errands)
    (alike : decided → chanceToo.callFirst subject = chance.callFirst subject) :
    Mirrored decided subject (.listened setup.capacity, .listened own)
      (errands.filterMap Errand.account?).dedup
      ({ setup with capacity := own }.start .new chanceToo) (setup.start catalog chance)
      errands where
  mirrors := ⟨id, Function.injective_id, ⟨rfl, rfl, rfl, rfl, fun _ _ => rfl, rfl, .nil⟩, rfl, rfl,
    rfl, rfl, rfl, rfl, alike, [], [], rfl, rfl, .nil⟩
  lodged := setup.lodged fits.few catalog chance
  inHand := (Setup.lodged { setup with capacity := own } fits.few .new chanceToo).inHand
  whole := fits.whole
  known errand done _ own :=
    List.mem_dedup.mpr (List.mem_filterMap.mpr ⟨errand, done, own⟩)

/-- What a mirror with enough room remembers is like what the runner has made known about the
account. -/
theorem Mirrors.exists_told {capacity own : Nat}
    (mirrors : Mirrors decided subject rename (.listened capacity, .listened own) runner image)
    (room : runner.channel.sent ≤ own) :
    ∃ told, runner.HasTold capacity told ∧
      List.Forall₂ (Event.Alike decided) (told.filter (·.subject = subject))
        image.channel.recent := by
  obtain ⟨told, reflected, sent, sentToo, alike⟩ := mirrors.told
  refine ⟨told, hasTold_of_sent sent, ?_⟩
  have counted := (hasTold_of_sent sent).counted
  have countedToo := (hasTold_of_sent sentToo).counted
  have fewer := List.length_filter_le (·.subject = subject) told
  have lengths := alike.length_eq
  rw [(hasTold_of_sent sentToo).recent (by omega)]
  exact alike

/-- Accounts do not interfere. Two runs whose scripts for an account match give the same answers to
all who read, look up or ask for it, whatever is done for others, whatever comes of it and whatever
is left to chance. When nobody can go on they have made the like known about it: the events about it
are the same one by one but for what was reported of a fetch that broke off and, if chance did not
decide alike for the account, for the fetches on whose account refreshes failed. Only there has to
be room for the dashboards of all accounts in either run. -/
theorem accounts_do_not_interfere (setup : Setup) (subject : SubjectId)
    (catalog otherCatalog : Scripted) (chance otherChance : Chance)
    (errands otherErrands : List Errand)
    (fits : Fits setup.maxEntries errands) (fitsToo : Fits setup.maxEntries otherErrands)
    (alike : List.Forall₂ Line.Matches ((setup.start catalog chance).script subject errands)
      ((setup.start otherCatalog otherChance).script subject otherErrands)) :
    (setup.start catalog chance).answers subject errands =
        (setup.start otherCatalog otherChance).answers subject otherErrands ∧
      ∃ told toldToo,
        (errands.foldl perform (setup.start catalog chance)).settle.HasTold setup.capacity told ∧
        (otherErrands.foldl perform (setup.start otherCatalog otherChance)).settle.HasTold
          setup.capacity toldToo ∧
        List.Forall₂
          (Event.Alike (chance.callFirst subject = otherChance.callFirst subject))
          (told.filter (·.subject = subject)) (toldToo.filter (·.subject = subject)) := by
  -- Both are compared with one mirror, which remembers what either can have told.
  let decided := chance.callFirst subject = otherChance.callFirst subject
  let own := max (errands.foldl perform (setup.start catalog chance)).settle.channel.sent
    (otherErrands.foldl perform (setup.start otherCatalog otherChance)).settle.channel.sent
  have mirrored := setup.mirrored decided own subject catalog chance chance fits fun _ => rfl
  have mirroredToo := setup.mirrored decided own subject otherCatalog otherChance chance fitsToo id
  have same := mirrored.script_eq mirroredToo alike
  obtain ⟨⟨rename, said, mirrors⟩, answers⟩ := mirrored.performAll
  obtain ⟨⟨renameToo, saidToo, mirrorsToo⟩, answersToo⟩ := mirroredToo.performAll
  rw [← same] at mirrorsToo answersToo
  obtain ⟨told, hasTold, about⟩ := mirrors.exists_told (le_max_left _ _)
  obtain ⟨toldToo, hasToldToo, aboutToo⟩ := mirrorsToo.exists_told (le_max_right _ _)
  exact ⟨answers.symm.trans answersToo, told, toldToo, hasTold, hasToldToo,
    Event.Alike.all_trans about aboutToo⟩

/-! ### Two accounts -/

/-- A catalog whose calls for the statistics of an account go some course and take a tenth of a
second. All others are answered at once. -/
def goingFor (subject : SubjectId) (course : Course) : Scripted :=
  { Scripted.new with
    statistics := ⟨fun other =>
      if other = subject then ⟨.zero, course, 100 * nanosPerMilli⟩ else ⟨.zero, .answer, 0⟩, 0⟩ }

/-- Fetches look first whether their refresh was cancelled, and reports say which it was. -/
def cautious : Chance :=
  ⟨fun _ _ => false, fun id _ => "task " ++ toString id ++ " panicked"⟩

/-- Fetches look first how far their calls are. -/
def hasty : Chance :=
  { cautious with callFirst := fun _ _ => true }

/-- A runner with room for two dashboards, and for as many events as there usually is. -/
def forTwo : Setup :=
  ⟨0, 2, .ofSeconds 5, .ofSeconds 60, 2, .ofSeconds 3, 256⟩

/-- An account reads its dashboard twice and asks for a new one. -/
def alone : List Errand :=
  [.read ⟨7⟩, .sleep 1000000000, .read ⟨7⟩, .ask ⟨7⟩]

/-- It does the same among refreshes of another account. -/
def among : List Errand :=
  [.ask ⟨8⟩, .read ⟨7⟩, .invalidate ⟨8⟩, .ask ⟨8⟩, .sleep 1000000000, .sweep, .read ⟨8⟩, .read ⟨7⟩,
    .instruct .new, .ask ⟨7⟩, .lookUp ⟨8⟩]

/-- One of the other refreshes is cancelled and the next one hangs. The account is answered as when
it is alone, and has its dashboard refreshed as often. -/
theorem accounts_do_not_interfere_of_silent :
    let lonely := (alone.foldl perform (forTwo.start .new cautious)).settle
    let crowded := (among.foldl perform (forTwo.start (goingFor ⟨8⟩ .hang) hasty)).settle
    (forTwo.start .new cautious).answers ⟨7⟩ alone =
        (forTwo.start (goingFor ⟨8⟩ .hang) hasty).answers ⟨7⟩ among ∧
      lonely.channel.recent = [.refreshed ⟨7⟩ 0, .refreshed ⟨7⟩ 0] ∧ crowded.channel.sent = 4 ∧
      List.Forall₂ (Event.Alike (cautious.callFirst ⟨7⟩ = hasty.callFirst ⟨7⟩))
        lonely.channel.recent (crowded.channel.recent.filter (·.subject = ⟨7⟩)) := by
  intro lonely crowded
  have fits : Fits 2 alone := ⟨by decide, by decide⟩
  have fitsToo : Fits 2 among := ⟨by decide, by decide⟩
  have alike : List.Forall₂ Line.Matches ((forTwo.start .new cautious).script ⟨7⟩ alone)
      ((forTwo.start (goingFor ⟨8⟩ .hang) hasty).script ⟨7⟩ among) := by decide +kernel
  obtain ⟨answers, told, toldToo, hasTold, hasToldToo, about⟩ := accounts_do_not_interfere forTwo
    ⟨7⟩ .new (goingFor ⟨8⟩ .hang) cautious hasty alone among fits fitsToo alike
  have twice : lonely.channel.recent = [.refreshed ⟨7⟩ 0, .refreshed ⟨7⟩ 0] := by decide +kernel
  have two : lonely.channel.sent = 2 := by decide +kernel
  have four : crowded.channel.sent = 4 := by decide +kernel
  have all : lonely.channel.recent = told := hasTold.recent (two ▸ by decide)
  have allToo : crowded.channel.recent = toldToo := hasToldToo.recent (four ▸ by decide)
  have own : told.filter (·.subject = ⟨7⟩) = told := by
    rw [← all, twice]
    rfl
  exact ⟨answers, twice, four, all ▸ allToo ▸ own ▸ about⟩

/-- An account is invalidated when a call for its refresh has ended and nobody has looked yet. -/
def revoked : List Errand :=
  [.ask ⟨7⟩, .sleep 0, .jump 100, .invalidate ⟨7⟩]

/-- An account asks for its dashboard. -/
def once : List Errand :=
  [.ask ⟨7⟩, .sleep 100000000]

/-- It does so after another one. -/
def afterwards : List Errand :=
  .ask ⟨8⟩ :: once

/-- It does so, and then another one is invalidated as often as there are events to remember. -/
def drowned : List Errand :=
  once ++ List.replicate 256 (.invalidate ⟨8⟩)

/-- All that was told of an account can differ in three ways between runs that are the same to it:
what was left to chance shows in the reasons why refreshes failed, what is reported of a fetch that
broke off says which one it was, and a channel that is full has forgotten the oldest events. -/
theorem told_apart :
    (Fits 2 revoked ∧
      List.Forall₂ Line.Matches ((forTwo.start (goingFor ⟨7⟩ .fail) cautious).script ⟨7⟩ revoked)
        ((forTwo.start (goingFor ⟨7⟩ .fail) hasty).script ⟨7⟩ revoked) ∧
      (revoked.foldl perform (forTwo.start (goingFor ⟨7⟩ .fail) cautious)).settle.channel.recent =
        [.invalidated ⟨7⟩, .refreshFailed ⟨7⟩ "Refresh cancelled"] ∧
      (revoked.foldl perform (forTwo.start (goingFor ⟨7⟩ .fail) hasty)).settle.channel.recent =
        [.invalidated ⟨7⟩,
          .refreshFailed ⟨7⟩ "Upstream unavailable: statistics fell back to defaults"]) ∧
    (Fits 2 once ∧ Fits 2 afterwards ∧
      List.Forall₂ Line.Matches ((forTwo.start (goingFor ⟨7⟩ .crash) cautious).script ⟨7⟩ once)
        ((forTwo.start (goingFor ⟨7⟩ .crash) cautious).script ⟨7⟩ afterwards) ∧
      (once.foldl perform (forTwo.start (goingFor ⟨7⟩ .crash) cautious)).settle.channel.recent =
        [.refreshFailed ⟨7⟩ "Upstream unavailable: statistics task failed: task 1 panicked"] ∧
      (afterwards.foldl perform
          (forTwo.start (goingFor ⟨7⟩ .crash) cautious)).settle.channel.recent =
        [.refreshed ⟨8⟩ 0,
          .refreshFailed ⟨7⟩ "Upstream unavailable: statistics task failed: task 2 panicked"]) ∧
    (Fits 2 drowned ∧
      List.Forall₂ Line.Matches ((forTwo.start .new cautious).script ⟨7⟩ once)
        ((forTwo.start .new cautious).script ⟨7⟩ drowned) ∧
      (once.foldl perform (forTwo.start .new cautious)).settle.channel.recent =
        [.refreshed ⟨7⟩ 0] ∧
      (drowned.foldl perform (forTwo.start .new cautious)).settle.channel.recent =
        List.replicate 256 (.invalidated ⟨8⟩)) := by
  refine ⟨⟨⟨?_, ?_⟩, ?_, ?_, ?_⟩, ⟨⟨?_, ?_⟩, ⟨?_, ?_⟩, ?_, ?_, ?_⟩, ⟨?_, ?_⟩, ?_, ?_, ?_⟩
  all_goals decide +kernel

-- With room for one dashboard only, that of another account takes its place.
example :
    let start := { forTwo with maxEntries := 1 }.start .new cautious
    let alone : List Errand := [.read ⟨7⟩, .sleep 1000000000, .read ⟨7⟩]
    let among : List Errand := [.read ⟨7⟩, .ask ⟨8⟩, .sleep 1000000000, .read ⟨7⟩]
    List.Forall₂ Line.Matches (start.script ⟨7⟩ alone) (start.script ⟨7⟩ among) ∧
      start.answers ⟨7⟩ alone ≠ start.answers ⟨7⟩ among := by
  decide +kernel

end UserDashboard.Dashboard.Runner
