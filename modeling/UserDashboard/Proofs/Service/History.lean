/-
This file says what can happen to the service, and what of it reaches its parts.

Requests arrive, the catalog comes to say something else, tasks take their turns, time passes and
what is out of date is swept. Of all this the credentials only see that some are presented,
forgotten or swept and that time passes, and what is presented was in a request. The dashboards only
see steps of the aggregation, and refreshes are told what the catalog just then says about their
accounts.
-/

import UserDashboard.Proofs.Credential.Reuse
import UserDashboard.Proofs.Dashboard.Running
import UserDashboard.Service.Core

namespace UserDashboard.Service

open Catalog Credential Dashboard Http Settings Time

/-- The credential that a request presents, if its header is there and can be read. -/
def credentialOf? (request : Request) : Option String :=
  (request.header? "authorization").bind Request.visibleText?

/-- The method by which callers ask for what is theirs. -/
def Route.callerMethod? : Route → Option String
  | .profile | .dashboard | .refreshedDashboard | .listings => some "GET"
  | .forgetCredentials | .forgetDashboard => some "DELETE"
  | .health | .notice _ => none

namespace Core

/-! ### What can happen -/

/-- What can happen to the service. -/
inductive Action where
  /-- A request arrives and is answered. -/
  | request (request : Request)
  /-- The catalog says something else from now on. -/
  | instruct (statistics : SubjectId → Plan Statistics)
    (listings : SubjectId → Plan (List Listing))
  /-- So many of the tasks that can go on take their turns. -/
  | turns (count : Nat)
  /-- Time passes, with everything that is due on the way. -/
  | sleep (nanos : Nat)
  /-- What is out of date is dropped. -/
  | sweep

/-- The service with a catalog that says something else. -/
def instruct (core : Core) (statistics : SubjectId → Plan Statistics)
    (listings : SubjectId → Plan (List Listing)) : Core :=
  let catalog := core.runner.catalog
  { core with
    runner := { core.runner with
      catalog := ⟨{ catalog.statistics with plan := statistics },
        { catalog.listings with plan := listings }⟩ } }

/-- The service after an action, and the answer to a request. -/
def step? (core : Core) : Action → Option (Core × Option Response)
  | .request request => some ((core.handle request).2, (core.handle request).1)
  | .instruct statistics listings => some (core.instruct statistics listings, none)
  | .turns count => some ({ core with runner := core.runner.turns count }, none)
  | .sleep nanos => some (core.sleep nanos, none)
  | .sweep => some (core.sweep.2, none)

/-- Something that happened to the service. -/
abbrev Episode := Step Core Action (Option Response)

/-- The credential that is presented in an action. -/
def Action.credential? : Action → Option String
  | .request sent => credentialOf? sent
  | _ => none

/-- The credentials that were presented in a history. -/
def credentialsIn (episodes : List Episode) : List String :=
  episodes.filterMap (·.action.credential?)

/-- The credentials of the service at its moment. -/
def desk (core : Core) : Desk :=
  ⟨core.now, core.credentials⟩

variable {core after next : Core} {request : Request} {raw : String} {presents : String → Prop}

/-! ### Authentication -/

theorem authenticate_of_none (missing : credentialOf? request = none) :
    ∃ detail, core.authenticate request = (some (.error (.malformed detail)), core) := by
  unfold authenticate
  split
  · exact ⟨_, rfl⟩
  · rename_i value found
    split
    · exact ⟨_, rfl⟩
    · rename_i raw readable
      rw [credentialOf?, found, Option.bind_some, readable] at missing
      cases missing

theorem authenticate_of_some (given : credentialOf? request = some raw) :
    core.authenticate request = ((core.credentials.resolve core.now raw).1,
      { core with credentials := (core.credentials.resolve core.now raw).2 }) := by
  obtain ⟨value, found, readable⟩ := Option.bind_eq_some_iff.mp given
  unfold authenticate
  rw [found]
  simp only [readable]

/-- What is asked for by callers is answered when they are known. -/
theorem answer_of_caller {route : Route} {method : String}
    (asked : route.callerMethod? = some method) :
    core.answer route request =
      match core.authenticate request with
      | (some (.ok identity), core) => core.serve identity route
      | (some (.error error), core) => (some (.refused error), core)
      | (none, core) => (none, core) := by
  cases route <;> first | rfl | cases asked

/-! ### What reaches the parts -/

/-- The service comes from another one: its credentials saw nothing but credentials that were
presented and time, and its runner comes from the other one's. -/
structure Leads (presents : String → Prop) (before after : Core) : Prop where
  desk : ∃ turns, Trace Desk.step? before.desk turns after.desk ∧
    ∀ raw ∈ Desk.raws turns, presents raw
  runner : before.runner.Leads after.runner

namespace Leads

theorem refl (attributed : core.runner.Attributed) : Leads presents core core :=
  ⟨⟨[], .nil, fun raw member => by cases member⟩, .refl attributed⟩

theorem trans (leads : Leads presents core next) (later : Leads presents next after) :
    Leads presents core after := by
  obtain ⟨turns, trace, known⟩ := leads.desk
  obtain ⟨others, rest, knownLater⟩ := later.desk
  refine ⟨⟨turns ++ others, trace.append rest, fun raw member => ?_⟩,
    leads.runner.trans later.runner⟩
  rw [Desk.raws, List.filterMap_append] at member
  rcases List.mem_append.mp member with early | late
  · exact known raw early
  · exact knownLater raw late

/-- Whatever the runner does, the credentials only see that time passes. -/
theorem run {runner : Runner} (leads : Leads presents core next)
    (ran : next.runner.Leads runner) : Leads presents core { next with runner } := by
  have time : next.now + ((runner.now - next.now).toNat : Int) = runner.now := by
    have later : next.now ≤ runner.now := ran.onward.time
    rw [Int.toNat_of_nonneg (Int.sub_nonneg_of_le later), Int.add_comm, Int.sub_add_cancel]
  refine leads.trans ⟨⟨[⟨next.desk, .wait (runner.now - next.now).toNat, none,
    ⟨runner.now, next.credentials⟩⟩], .cons ?_ .nil, fun raw member => by cases member⟩, ran⟩
  simp only [Desk.step?, Core.desk, time]

/-- The credentials take a step of their own. -/
theorem act (leads : Leads presents core next) (action : Desk.Action) {output : Option Answer}
    {cache : CredentialCache}
    (taken : next.desk.step? action = some (⟨next.now, cache⟩, output))
    (known : ∀ raw, action.raw? = some raw → presents raw) :
    Leads presents core { next with credentials := cache } := by
  refine leads.trans ⟨⟨_, .snoc .nil taken, fun raw member => ?_⟩,
    .refl leads.runner.attributed⟩
  obtain ⟨turn, present, acts⟩ := List.mem_filterMap.mp member
  rw [List.mem_singleton.mp present] at acts
  exact known raw acts

theorem authenticate (leads : Leads presents core next)
    (known : ∀ raw, credentialOf? request = some raw → presents raw) :
    Leads presents core (next.authenticate request).2 := by
  cases given : credentialOf? request with
  | none =>
    obtain ⟨detail, came⟩ := authenticate_of_none given
    rw [came]
    exact leads
  | some raw =>
    rw [authenticate_of_some given]
    refine leads.act (.resolve raw) rfl fun other presented => ?_
    obtain rfl := Option.some.inj presented
    exact known raw given

theorem dashboard (leads : Leads presents core next) (identity : Identity) :
    Leads presents core (next.dashboard identity).2 :=
  leads.run ((Runner.Leads.refl leads.runner.attributed).snapshot identity.subject)

theorem serve (leads : Leads presents core next) (identity : Identity) (route : Route) :
    Leads presents core (next.serve identity route).2 := by
  have here := Runner.Leads.refl leads.runner.attributed
  cases route with
  | profile | health | notice => exact leads
  | dashboard => exact leads.dashboard identity
  | refreshedDashboard =>
    have looked := leads.run (here.cached identity.subject)
    unfold Core.serve refreshedDashboard
    simp only
    split
    · exact looked
    · exact looked.dashboard identity
  | listings => exact leads.run (here.fetchListings identity.subject next.listingTimeout)
  | forgetCredentials =>
    exact leads.act (.invalidate identity.subject) rfl nofun
  | forgetDashboard => exact leads.run (here.invalidate identity.subject)

theorem take (leads : Leads presents core next) (notice : Notice) :
    Leads presents core (next.take notice) := by
  unfold Core.take
  generalize notice.subjects = subjects
  induction subjects generalizing next with
  | nil => exact leads
  | cons subject rest inductionHypothesis =>
    have here := Runner.Leads.refl leads.runner.attributed
    exact inductionHypothesis (leads.run (here.invalidate subject))

theorem acknowledge (leads : Leads presents core next) (kind : NoticeKind) (request : Request) :
    Leads presents core (next.acknowledge kind request).2 := by
  unfold Core.acknowledge
  cases noticeOf? kind request with
  | none => exact leads
  | some notice => exact leads.take notice

theorem answer (leads : Leads presents core next) (route : Route)
    (known : ∀ raw, credentialOf? request = some raw → presents raw) :
    Leads presents core (next.answer route request).2 := by
  cases asked : route.callerMethod? with
  | none =>
    cases route with
    | health => exact leads
    | notice kind => exact leads.acknowledge kind request
    | _ => cases asked
  | some method =>
    have authenticated := leads.authenticate known
    rw [answer_of_caller asked]
    split
    · rename_i identity after came
      rw [came] at authenticated
      exact authenticated.serve identity route
    · rename_i error after came
      rw [came] at authenticated
      exact authenticated
    · rename_i after came
      rw [came] at authenticated
      exact authenticated

theorem handle (leads : Leads presents core next)
    (known : ∀ raw, credentialOf? request = some raw → presents raw) :
    Leads presents core (next.handle request).2 := by
  show Leads presents core (next.route request).2
  unfold Core.route
  simp only
  split
  · exact leads
  · split
    · exact leads
    · split
      · exact leads.answer _ known
      · exact leads

end Leads

/-! ### Histories -/

/-- What is known of the parts of the service after a history in which these reports were made of
fetches that broke off. -/
structure Lived (start : Moment) (settings : ServiceSettings) (reports : Nat → FetchKind → String)
    (episodes : List Episode) (core : Core) : Prop where
  /-- The credentials that the cache saw were in requests. -/
  desk : ∃ turns, Trace Desk.step? ⟨start, .new (verifierOf settings.auth) settings.auth.scheme
      settings.auth.cacheTtl settings.auth.maxEntries.toNat⟩ turns core.desk ∧
    ∀ raw ∈ Desk.raws turns, raw ∈ credentialsIn episodes
  /-- Refreshes were told what the catalog said just then about their accounts. -/
  moves : ∃ moves, Trace Aggregation.step? (.new start settings.dashboard.recentLimit.toNat
      settings.dashboard.deadline reports
      (.new settings.dashboard.snapshotTtl settings.dashboard.maxEntries.toNat)) moves
      core.runner.state ∧
    ∀ move ∈ moves, ∃ episode ∈ episodes,
      move.action.Fair episode.before.runner.catalog move.before
  /-- Whoever is still to go on works for the account of its refresh. -/
  attributed : core.runner.Attributed

variable {start : Moment} {settings : ServiceSettings} {catalog : Scripted}
  {chance : Chance} {episodes : List Episode} {action : Action} {output : Option Response}

theorem leads_of_step (taken : core.step? action = some (after, output))
    (attributed : core.runner.Attributed) :
    Leads (fun raw => action.credential? = some raw) core after ∨
      ∃ statistics listings, after = core.instruct statistics listings := by
  have here : Leads (fun raw => action.credential? = some raw) core core := .refl attributed
  have runs := Runner.Leads.refl attributed
  cases action with
  | request sent =>
    obtain ⟨rfl, rfl⟩ := Prod.mk.inj (Option.some.inj taken)
    exact Or.inl (here.handle fun raw given => given)
  | instruct statistics listings =>
    obtain ⟨rfl, rfl⟩ := Prod.mk.inj (Option.some.inj taken)
    exact Or.inr ⟨statistics, listings, rfl⟩
  | turns count =>
    obtain ⟨rfl, rfl⟩ := Prod.mk.inj (Option.some.inj taken)
    exact Or.inl (here.run (runs.turns count))
  | sleep nanos =>
    obtain ⟨rfl, rfl⟩ := Prod.mk.inj (Option.some.inj taken)
    exact Or.inl (here.run (runs.sleep nanos))
  | sweep =>
    obtain ⟨rfl, rfl⟩ := Prod.mk.inj (Option.some.inj taken)
    exact Or.inl ((here.act .sweep rfl nofun).run runs.sweep)

theorem mem_credentialsIn_snoc {episode : Episode} :
    raw ∈ credentialsIn (episodes ++ [episode]) ↔
      raw ∈ credentialsIn episodes ∨ episode.action.credential? = some raw := by
  simp [credentialsIn]

/-- Whatever has happened to the service, this is known of its parts. -/
theorem lived_of_trace (trace : Trace step? (new start settings catalog chance) episodes core) :
    Lived start settings chance.reports episodes core := by
  induction trace with
  | nil =>
    exact ⟨⟨[], .nil, fun raw member => by cases member⟩,
      ⟨[], .nil, fun move member => by cases member⟩,
      Runner.attributed_new _ (.new _ _ _ _ _) _ _ _⟩
  | @snoc episodes before after action output trace taken inductionHypothesis =>
    obtain ⟨⟨turns, desks, known⟩, ⟨moves, states, fair⟩, attributed⟩ := inductionHypothesis
    have knownStill : ∀ raw ∈ Desk.raws turns,
        raw ∈ credentialsIn (episodes ++ [⟨before, action, output, after⟩]) :=
      fun raw member => mem_credentialsIn_snoc.mpr (Or.inl (known raw member))
    have fairStill : ∀ move ∈ moves,
        ∃ episode ∈ episodes ++ [⟨before, action, output, after⟩],
          move.action.Fair episode.before.runner.catalog move.before := fun move member =>
      have ⟨episode, present, told⟩ := fair move member
      ⟨episode, List.mem_append_left _ present, told⟩
    rcases leads_of_step taken attributed with leads | ⟨statistics, listings, rfl⟩
    · obtain ⟨others, rest, knownLater⟩ := leads.desk
      obtain ⟨more, later, fairLater⟩ := leads.runner.moves
      refine ⟨⟨turns ++ others, desks.append rest, fun raw member => ?_⟩,
        ⟨moves ++ more, states.append later, fun move member => ?_⟩, leads.runner.attributed⟩
      · rw [Desk.raws, List.filterMap_append] at member
        rcases List.mem_append.mp member with early | late
        · exact knownStill raw early
        · exact mem_credentialsIn_snoc.mpr (Or.inr (knownLater raw late))
      · rcases List.mem_append.mp member with early | late
        · exact fairStill move early
        · exact ⟨_, List.mem_append_right _ List.mem_cons_self, fairLater move late⟩
    · -- The state stays as it is when the catalog comes to say something else.
      exact ⟨⟨turns, desks, knownStill⟩, ⟨moves, states, fairStill⟩, attributed.orderly,
        attributed.ready, attributed.alarms, attributed.calls⟩

end Core

end UserDashboard.Service
