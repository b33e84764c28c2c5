/-
This file proves that notices are always acknowledged, and that they drop the dashboards that they
make out of date and no others.

What is sent to the place for notices of a kind either cannot be taken for such a notice, and then
nothing at all has happened to the service, or it names the accounts in the fields of its kind.
Then they have neither dashboards nor refreshes in flight when the answer is given, whatever was
under way for them and for others.
-/

import UserDashboard.Proofs.Credential.Invalidation
import UserDashboard.Proofs.Dashboard.Dropping
import UserDashboard.Proofs.Service.Authentication

namespace UserDashboard.Service

open Catalog Credential Dashboard Http Json Settings Time

/-! ### The accounts of a notice -/

/-- The fields of the notices of a kind. -/
def NoticeKind.fields : NoticeKind → List FieldName
  | .productRegistered => ["userId", "productId", "productName"]
  | .productPurchased => ["sellerId", "buyerId", "productId", "productName", "price"]
  | .productStatusChanged => ["userId", "productName", "oldStatus", "newStatus"]
  | .dashboardRefresh => ["userId", "eventType"]

/-- Those of them that name accounts. -/
def NoticeKind.accounts : NoticeKind → List String
  | .productPurchased => ["sellerId", "buyerId"]
  | .productRegistered | .productStatusChanged | .dashboardRefresh => ["userId"]

variable {kind : NoticeKind} {notice : Notice} {json : Json} {request : Request}

/-- A notice makes the dashboards of those accounts out of date that its fields name. -/
theorem Notice.subjects_of_ofJson? (read : Notice.ofJson? kind json = some notice) :
    ∃ record, json.record? kind.fields = some record ∧
      kind.accounts.mapM (record.required · SubjectId.ofJson?) = some notice.subjects := by
  cases kind with
  | productPurchased =>
    simp only [Notice.ofJson?, Option.bind_eq_bind, Option.bind_eq_some_iff] at read
    obtain ⟨record, opened, seller, sold, buyer, bought, product, -, name, -, price, -, same⟩ := read
    cases same
    exact ⟨record, opened, by simp [NoticeKind.accounts, sold, bought, subjects]⟩
  | productRegistered =>
    simp only [Notice.ofJson?, Option.bind_eq_bind, Option.bind_eq_some_iff] at read
    obtain ⟨record, opened, user, named, product, -, name, -, same⟩ := read
    cases same
    exact ⟨record, opened, by simp [NoticeKind.accounts, named, subjects]⟩
  | productStatusChanged =>
    simp only [Notice.ofJson?, Option.bind_eq_bind, Option.bind_eq_some_iff] at read
    obtain ⟨record, opened, user, named, name, -, before, -, after, -, same⟩ := read
    cases same
    exact ⟨record, opened, by simp [NoticeKind.accounts, named, subjects]⟩
  | dashboardRefresh =>
    simp only [Notice.ofJson?, Option.bind_eq_bind, Option.bind_eq_some_iff] at read
    obtain ⟨record, opened, user, named, reason, -, same⟩ := read
    cases same
    exact ⟨record, opened, by simp [NoticeKind.accounts, named, subjects]⟩

/-! ### Requests that bring notices -/

/-- A request is sent to the place for notices of a kind. -/
structure Posts (request : Request) (kind : NoticeKind) : Prop where
  path : request.path = (Route.notice kind).path
  method : request.method = "POST"

/-- Why a request does not bring a notice. -/
inductive Rejected (kind : NoticeKind) (request : Request) : Prop where
  /-- It does not say that its body is JSON. -/
  | mediaType (silent : request.saysJson = false)
  /-- Its body is too large. -/
  | oversized (large : Core.largestBody < request.body.length)
  /-- Its body is no JSON. -/
  | noJson (unreadable : Json.parseOctets? request.body = none)
  /-- What it says is no notice of the kind. -/
  | noNotice {json : Json} (read : Json.parseOctets? request.body = some json)
      (other : Notice.ofJson? kind json = none)

/-- The accounts that a request names in the fields of a kind of notices. -/
def Names (kind : NoticeKind) (request : Request) (subjects : List SubjectId) : Prop :=
  ∃ json record, Json.parseOctets? request.body = some json ∧
    json.record? kind.fields = some record ∧
    kind.accounts.mapM (record.required · SubjectId.ofJson?) = some subjects

namespace Core

variable {core after : Core} {subjects : List SubjectId}

theorem noticeOf?_of_rejected (rejected : Rejected kind request) :
    noticeOf? kind request = none := by
  unfold noticeOf?
  split
  · rename_i taken
    cases rejected with
    | mediaType silent =>
      rw [silent] at taken
      exact absurd taken.1 Bool.false_ne_true
    | oversized large => exact absurd taken.2 (Nat.not_le.mpr large)
    | noJson unreadable => rw [unreadable, Option.bind_none]
    | noNotice read other => rw [read, Option.bind_some, other]
  · rfl

theorem exists_noticeOf? (accepted : ¬Rejected kind request) :
    ∃ notice, noticeOf? kind request = some notice ∧ Names kind request notice.subjects := by
  have told : request.saysJson := by
    rw [← Bool.not_eq_false]
    exact fun silent => accepted (.mediaType silent)
  have small : request.body.length ≤ largestBody :=
    Nat.not_lt.mp fun large => accepted (.oversized large)
  cases parsed : Json.parseOctets? request.body with
  | none => exact absurd (.noJson parsed) accepted
  | some json =>
    cases read : Notice.ofJson? kind json with
    | none => exact absurd (.noNotice parsed read) accepted
    | some notice =>
      obtain ⟨record, opened, named⟩ := Notice.subjects_of_ofJson? read
      refine ⟨notice, ?_, json, record, parsed, opened, named⟩
      rw [noticeOf?, if_pos ⟨told, small⟩, parsed, Option.bind_some, read]

/-- A notice is acknowledged at its place. -/
theorem handle_of_posts (posts : Posts request kind) :
    core.handle request =
      (some ((core.acknowledge kind request).1.withHeader "access-control-allow-origin" "*"),
        (core.acknowledge kind request).2) := by
  obtain ⟨path, method⟩ := posts
  have plain : "POST" ≠ "OPTIONS" ∧ "POST" ≠ "HEAD" ∧ ["POST"].contains "POST" := by decide
  obtain ⟨noOptions, noHead, allowed⟩ := plain
  unfold handle Core.route
  simp only [path, method, ofPath?_path, Route.methods, if_neg noOptions, if_neg noHead,
    if_pos allowed]
  rfl

/-! ### What a notice does -/

/-- The dashboards of some accounts were dropped, and nothing else has happened to the service. -/
structure Drops (subjects : List SubjectId) (before after : Core) : Prop where
  /-- These accounts have neither dashboards nor refreshes in flight. -/
  dropped : ∀ subject ∈ subjects, after.runner.state.stored? subject = none ∧
    after.runner.state.flight? subject = none
  /-- The refreshes that were in flight for them are cancelled. -/
  cancelled : ∀ subject ∈ subjects, ∀ id, before.runner.state.flight? subject = some id →
    ∀ refresh ∈ after.runner.state.refreshes, refresh.id = id → refresh.cancelled = true
  /-- Every other account has the same dashboard and the same refreshes. -/
  others : ∀ subject ∉ subjects,
    after.runner.state.stored? subject = before.runner.state.stored? subject ∧
    after.runner.state.flight? subject = before.runner.state.flight? subject ∧
    after.runner.state.refreshesOf subject = before.runner.state.refreshesOf subject
  /-- Nothing but this has happened to dashboards, and it was made known. -/
  runner : before.runner.Drops subjects after.runner
  /-- The credentials are the same, and so is everything else. -/
  same : after = { before with runner := after.runner }

theorem drops_take (attributed : core.runner.Attributed) (notice : Notice) :
    Drops notice.subjects core (core.take notice) := by
  have drops := Runner.drops_invalidateAll attributed notice.subjects
  have state : (core.take notice).runner.state = core.runner.state.without notice.subjects := by
    obtain ⟨woken, -, same⟩ := drops
    exact congrArg Runner.state same
  refine ⟨fun subject named => ?_, fun subject named id flying refresh present number => ?_,
    fun subject other => ?_, drops, rfl⟩
  · rw [state]
    exact Aggregation.without_of_mem named
  · rw [state] at present
    exact Aggregation.cancelled_of_without attributed.orderly named flying present number
  · rw [state]
    exact Aggregation.without_of_not_mem other

variable {start : Moment} {settings : ServiceSettings} {catalog : Scripted}
  {chance : Chance} {episodes : List Episode}

/-- Notices are acknowledged, and drop exactly the dashboards that they make out of date. After
whatever has happened to the service, whatever is sent to the place for notices of a kind is answered
with 200. If it cannot be taken for such a notice, nothing at all has happened. Otherwise the
accounts that it names have neither dashboards nor refreshes in flight, the refreshes that were in
flight for them are cancelled, and nothing has happened to other accounts and to credentials. -/
theorem notices_acknowledged
    (trace : Trace step? (new start settings catalog chance) episodes core)
    (posts : Posts request kind) :
    ∃ response after, core.handle request = (some response, after) ∧ response.status = 200 ∧
      response.member "success" = .bool true ∧
      (Rejected kind request → after = core) ∧
      (¬Rejected kind request →
        ∃ subjects, Names kind request subjects ∧ Drops subjects core after) := by
  refine ⟨_, _, handle_of_posts posts, rfl, rfl, fun rejected => ?_, fun accepted => ?_⟩
  · rw [acknowledge, noticeOf?_of_rejected rejected]
    rfl
  · obtain ⟨notice, taken, named⟩ := exists_noticeOf? accepted
    rw [acknowledge, taken]
    exact ⟨notice.subjects, named, drops_take (lived_of_trace trace).attributed notice⟩

/-- A refresh is in flight for a caller when a notice tells that they sold something. -/
theorem notices_acknowledged_of_sale :
    ∃ episodes core request response after,
      Trace step? (new 5 { auth := { secret := "\x01\x01\x01\x01" } } .new .plain) episodes core ∧
      core.runner.state.flight? ⟨7⟩ = some 1 ∧ Posts request .productPurchased ∧
      ¬Rejected .productPurchased request ∧ core.handle request = (some response, after) ∧
      response.status = 200 ∧ Drops [⟨7⟩, ⟨8⟩] core after := by
  let settings : ServiceSettings := { auth := { secret := "\x01\x01\x01\x01" } }
  let start : Core := new 5 settings .new .plain
  let asking : Request :=
    ⟨"GET", "/api/users/dashboard", [("authorization", Desk.hourly.toUTF8.toList)], []⟩
  let core : Core := (start.handle asking).2
  let request : Request := ⟨"POST", "/api/events/product/purchased",
    [("content-type", "application/json".toUTF8.toList)],
    "\x7b\"sellerId\":7,\"buyerId\":8\x7d".toUTF8.toList⟩
  have trace : Trace step? start [⟨start, .request asking, (start.handle asking).1, core⟩] core :=
    .snoc .nil rfl
  have flight : core.runner.state.flight? ⟨7⟩ = some 1 := by
    have given : credentialOf? asking = some Desk.hourly := by decide +kernel
    have octets : "\x01\x01\x01\x01".toUTF8.toList = [1, 1, 1, 1] := by decide +kernel
    have secret : verifierOf settings.auth = ⟨.hs256, [1, 1, 1, 1]⟩ :=
      congrArg (Verifier.mk .hs256) octets
    obtain ⟨verified, accepted, -⟩ := Desk.exists_hourly
    have something := CredentialCache.something_of_verify accepted
    have own := Desk.subject_of_hourly accepted
    rw [← secret] at accepted
    have lived := lived_of_trace (.nil : Trace step? start [] start)
    have known := authenticate_of_success lived.guarded given something
      (fun other present => by cases present) accepted (by decide)
    have asks : AsksFor asking .dashboard := ⟨rfl, rfl⟩
    have runner : core.runner = (start.runner.snapshot verified.identity.subject).2 :=
      congrArg (·.2.runner) (handle_of_ok asks known)
    rw [runner, own]
    decide
  have posts : Posts request .productPurchased := ⟨rfl, rfl⟩
  have taken : (noticeOf? .productPurchased request).isSome := by decide +kernel
  have accepted : ¬Rejected .productPurchased request := fun rejected => by
    rw [noticeOf?_of_rejected rejected] at taken
    cases taken
  obtain ⟨response, after, handled, status, -, -, drops⟩ := notices_acknowledged trace posts
  obtain ⟨subjects, ⟨json, record, parsed, opened, named⟩, drops⟩ := drops accepted
  have accounts : ((Json.parseOctets? request.body).bind fun json =>
      (json.record? NoticeKind.productPurchased.fields).bind fun record =>
        NoticeKind.productPurchased.accounts.mapM (record.required · SubjectId.ofJson?)) =
          some [⟨7⟩, ⟨8⟩] := by decide +kernel
  rw [parsed, Option.bind_some, opened, Option.bind_some, named] at accounts
  obtain rfl := Option.some.inj accounts
  exact ⟨_, core, request, response, after, trace, flight, posts, accepted, handled, status, drops⟩

end Core

end UserDashboard.Service
