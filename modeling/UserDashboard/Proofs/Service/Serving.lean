/-
This file proves that a caller is never left without an answer because of their dashboard.

What is shown is the placeholder or a dashboard that is remembered, and both can be written as long
as the clock stays between the years 1970 and 9999. So whoever is let in and asks for their
dashboard, by either path, is told it.
-/

import UserDashboard.Proofs.Dashboard.Presentable
import UserDashboard.Proofs.Service.Authentication

namespace UserDashboard.Service.Core

open Cache Catalog Credential Dashboard Http Settings Time Timestamp

variable {core after : Core} {request : Request} {route : Route} {identity : Identity}
  {episodes : List Episode} {start : Moment} {settings : ServiceSettings} {catalog : Scripted}
  {reports : Nat → FetchKind → String}

/-- A response tells a caller a dashboard. -/
structure Tells (response : Response) (identity : Identity) (snapshot : Snapshot) : Prop where
  status : response.status = 200
  success : response.member "success" = .bool true
  profile : (response.member "data").get "profile" = identity.toJson
  data : snapshot.Presents ((response.member "data").get "data")

/-- Looking at a credential changes nothing but what is known of credentials. -/
theorem exists_credentials_of_authenticate
    (known : core.authenticate request = (some (.ok identity), after)) :
    ∃ credentials, after = { core with credentials } := by
  cases given : credentialOf? request with
  | none =>
    obtain ⟨detail, turnedAway⟩ := authenticate_of_none given
    rw [turnedAway] at known
    cases known
  | some raw =>
    rw [authenticate_of_some given] at known
    exact ⟨_, (Prod.mk.inj known).2.symm⟩

/-- The dashboard that is shown can be written, whatever has happened to the service. -/
theorem Lived.writable (lived : Lived start settings reports episodes core)
    (few : settings.dashboard.recentLimit.toNat ≤ mostRecent) (first : 1970 ≤ yearAt start)
    (last : yearAt core.now ≤ 9999) (subject : SubjectId) :
    (core.runner.state.snapshot subject).1.Writable := by
  obtain ⟨moves, trace, -⟩ := lived.moves
  have since : yearAt start ≤ yearAt core.now :=
    yearAt_mono (Aggregation.onward_of_trace trace).time
  cases hit : (core.runner.state.cached subject).1 with
  | none =>
    rw [Aggregation.snapshot_of_none hit]
    have early : 0 ≤ yearAt core.now := by omega
    exact Snapshot.writable_placeholder early last
  | some snapshot =>
    rw [Aggregation.snapshot_of_some hit]
    obtain ⟨entry, found, -, rfl⟩ := ExpiringMap.live?_eq_some_iff.mp
      ((ExpiringMap.get_fst _ _ _).symm.trans hit)
    exact Aggregation.writable_of_stored (.new _ _ _ _ _) rfl rfl few first trace last
      (ExpiringMap.mem_entries_of_found found)

/-- What is granted at a path of dashboards tells the dashboard that is shown. -/
theorem tells_of_granted {result : Option Response × Core}
    (asked : route = .dashboard ∨ route = .refreshedDashboard)
    (writable : (core.runner.state.snapshot identity.subject).1.Writable)
    (granted : Granted episodes core identity route result) :
    ∃ response, result.1 = some response ∧
      Tells response identity (core.runner.state.snapshot identity.subject).1 := by
  obtain ⟨response, served, status, success, serves⟩ := granted
  have shown : ∃ snapshot, (core.runner.state.snapshot identity.subject).1 = snapshot ∧
      (response.member "data").get "profile" = identity.toJson ∧
      snapshot.toJson? = some ((response.member "data").get "data") := by
    rcases asked with rfl | rfl
    · obtain ⟨⟨snapshot, -, shown⟩, -⟩ := serves
      exact ⟨snapshot, shown⟩
    · obtain ⟨⟨snapshot, -, shown⟩, -⟩ := serves
      exact ⟨snapshot, shown⟩
  obtain ⟨snapshot, rfl, profile, told⟩ := shown
  obtain ⟨json, written, records⟩ := writable.presents
  rw [written] at told
  obtain rfl := Option.some.inj told
  exact ⟨response, served, status, success, profile, written, records⟩

/-- Every dashboard that is remembered can be served. As long as the clock stays between the years
1970 and 9999 and no more than a million listings are to be shown, whatever the catalog tells: each
dashboard that is remembered after any step of any run has a written form, in which the time of each
activity is a text that is read as this time; and whoever is let in and asks for their dashboard, by
either path and whatever has happened to the service before, is answered with 200 and told it. -/
theorem dashboards_told {limit : Nat} (few : limit ≤ mostRecent) (first : 1970 ≤ yearAt start) :
    (∀ deadline reports ttl maxEntries moves state,
      Trace Aggregation.step? (.new start limit deadline reports (.new ttl maxEntries)) moves
        state →
      yearAt state.now ≤ 9999 →
      ∀ move ∈ moves, ∀ stored ∈ move.after.stores, ∃ json, stored.2.value.Presents json) ∧
    ∀ settings catalog chance episodes core,
      settings.dashboard.recentLimit.toNat = limit →
      Trace step? (new start settings catalog chance) episodes core →
      yearAt core.now ≤ 9999 →
      ∀ request route identity after, route = .dashboard ∨ route = .refreshedDashboard →
        AsksFor request route →
        core.authenticate request = (some (.ok identity), after) →
        ∃ response, (core.handle request).1 = some response ∧
          Tells response identity (core.runner.state.snapshot identity.subject).1 := by
  constructor
  · intro deadline reports ttl maxEntries moves state trace last move member stored present
    obtain ⟨earlier, later, rfl⟩ := List.append_of_mem member
    obtain ⟨before, taken, rest⟩ := trace.split
    have inTime : yearAt move.after.now ≤ yearAt state.now :=
      yearAt_mono (Aggregation.onward_of_trace rest).time
    exact (Aggregation.writable_of_stored (.new _ _ _ _ _) rfl rfl few first (before.snoc taken)
      (Int.le_trans inTime last) present).presents
  · rintro settings catalog chance episodes core rfl trace last request route identity after asked
      asks known
    have lived := lived_of_trace trace
    obtain ⟨credentials, rfl⟩ := exists_credentials_of_authenticate known
    let after : Core := { core with credentials }
    have writable : (after.runner.state.snapshot identity.subject).1.Writable :=
      lived.writable few first last identity.subject
    have shows : Shows episodes after identity.subject
        (after.runner.state.snapshot identity.subject).1 := lived.shows identity.subject
    obtain ⟨json, written, -⟩ := writable.presents
    have isWritten := Option.isSome_iff_exists.mpr ⟨json, written⟩
    have granted : Granted episodes after identity route (after.serve identity route) := by
      rcases asked with rfl | rfl
      · exact granted_dashboard shows isWritten
      · exact granted_refreshedDashboard shows isWritten
    obtain ⟨response, served, tells⟩ := tells_of_granted asked writable granted
    refine ⟨response.withHeader "access-control-allow-origin" "*", ?_, tells.status, tells.success,
      tells.profile, tells.data⟩
    rw [handle_of_ok asks known, served]
    rfl

/-- A dashboard is remembered with activity in a leap second, told five hours behind universal time,
and a caller is told a placeholder by the path that looks for what is remembered. -/
theorem dashboards_told_of_leap :
    (5 ≤ mostRecent ∧ 1970 ≤ yearAt 5) ∧
    (∃ moves state, Trace Aggregation.step? (.new 5 5 ⟨8000000000, by decide⟩
        (fun _ _ => "") (.new ⟨300000000000, by decide⟩ 10)) moves state ∧
      yearAt state.now ≤ 9999 ∧
      ∃ move ∈ moves, ∃ stored ∈ move.after.stores,
        stored.2.value.activity.map (·.timestamp) = [⟨1483228799999999999, -300⟩] ∧
        ∃ json, stored.2.value.Presents json) ∧
    ∃ core request identity after response,
      Trace step? (new 5 { auth := { secret := "\x01\x01\x01\x01" } } .new .plain) [] core ∧
      yearAt core.now ≤ 9999 ∧ AsksFor request .refreshedDashboard ∧
      core.authenticate request = (some (.ok identity), after) ∧
      (core.handle request).1 = some response ∧
      Tells response identity (core.runner.state.snapshot identity.subject).1 := by
  have few : 5 ≤ mostRecent := by decide
  have first : 1970 ≤ yearAt 5 := by decide
  obtain ⟨remembered, told⟩ := dashboards_told few first
  refine ⟨⟨few, first⟩, ?_, ?_⟩
  · obtain ⟨moves, state, trace, checked⟩ := Trace.exists_of_run? Aggregation.step?
      (.new 5 5 ⟨8000000000, by decide⟩ (fun _ _ => "") (.new ⟨300000000000, by decide⟩ 10))
      [.snapshot ⟨7⟩, .begin 1, .call 1 .activity, .call 1 .statistics, .call 1 .listings,
        .endStatistics 1 (.answered .zero),
        .endActivity 1 (.answered
          [⟨3, "", none, none, none, none, some "2016-12-31t18:59:60.5-05:00"⟩]),
        .endListings 1 (.answered []), .conclude 1]
      (fun moves state => decide (yearAt state.now ≤ 9999) && moves.any fun move =>
        move.after.stores.any fun stored =>
          stored.2.value.activity.map (·.timestamp) == [⟨1483228799999999999, -300⟩])
      (by decide +kernel)
    obtain ⟨last, present⟩ := (Bool.and_eq_true _ _).mp checked
    obtain ⟨move, member, present⟩ := List.any_eq_true.mp present
    obtain ⟨stored, held, told⟩ := List.any_eq_true.mp present
    have last : yearAt state.now ≤ 9999 := of_decide_eq_true last
    exact ⟨moves, state, trace, last, move, member, stored, held, eq_of_beq told,
      remembered _ _ _ _ _ _ trace last move member stored held⟩
  · let settings : ServiceSettings := { auth := { secret := "\x01\x01\x01\x01" } }
    let core : Core := new 5 settings .new .plain
    let request : Request :=
      ⟨"GET", "/api/users/dashboard/refresh", [("authorization", Desk.hourly.toUTF8.toList)], []⟩
    have trace : Trace step? core [] core := .nil
    have asks : AsksFor request .refreshedDashboard := ⟨rfl, rfl⟩
    have given : credentialOf? request = some Desk.hourly := by decide +kernel
    have something : CredentialCache.tokenIn "Bearer ".toList Desk.hourly.toList ≠ [] := by
      decide +kernel
    have octets : "\x01\x01\x01\x01".toUTF8.toList = [1, 1, 1, 1] := by decide +kernel
    have secret : verifierOf settings.auth = ⟨.hs256, [1, 1, 1, 1]⟩ :=
      congrArg (Verifier.mk .hs256) octets
    have accepted := Desk.hourly_accepted
    cases came : Verifier.verify ⟨.hs256, [1, 1, 1, 1]⟩ 5
        (CredentialCache.presented "Bearer " Desk.hourly) with
    | error error =>
      rw [came] at accepted
      cases accepted
    | ok verified =>
      rw [← secret] at came
      have known := authenticate_of_success (lived_of_trace trace).guarded given something
        (fun other present => by cases present) came (by decide)
      have last : yearAt core.now ≤ 9999 := by decide
      obtain ⟨response, answered, tells⟩ :=
        told settings .new .plain [] core rfl trace last request _ _ _ (Or.inr rfl) asks known
      exact ⟨core, request, _, _, response, trace, last, asks, known, answered, tells⟩

end UserDashboard.Service.Core
