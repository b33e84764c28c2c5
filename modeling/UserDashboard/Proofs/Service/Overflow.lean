/-
This file says when the service breaks off because the clock cannot tell a moment.

Settings that can be used say of a length of time that there is one, and nothing about how long it
is, so each may reach beyond the last moment that the clock can tell. Whoever needs the moment at
which it ends breaks off then: a credential that was just verified is not answered, a refresh that
could write its dashboard is left behind in flight, and a sweeper ends as it is started. As long as
the clock can tell these moments nothing of this happens, and a sweeper that was started goes on.
-/

import UserDashboard.Proofs.Cache.Sweeper
import UserDashboard.Proofs.Dashboard.Stranding
import UserDashboard.Proofs.Service.History
import UserDashboard.Proofs.Settings.Check
import UserDashboard.Service.Server

namespace UserDashboard.Service

open Cache Catalog Credential Dashboard Settings Time

namespace Server

variable {server : Server} {start : Moment} {catalog : Scripted} {chance : Chance} {core : Core}
  {episodes : List Core.Episode}

/-- There is no answer to a credential exactly when it is not remembered, the verifier accepts it
before it stops being valid, and the clock cannot tell until when it would be remembered. -/
theorem resolve_eq_none_iff
    (trace : Trace Core.step? (server.core start catalog chance) episodes core) (raw : String) :
    (core.credentials.resolve core.now raw).1 = none ↔
      core.credentials.entries.live? core.now
        (.of (CredentialCache.presented server.settings.auth.scheme raw)) = none ∧
      (∃ verified, (Core.verifierOf server.settings.auth).verify core.now
          (CredentialCache.presented server.settings.auth.scheme raw) = .ok verified ∧
        core.now < verified.expiresAt) ∧
      later? core.now server.settings.auth.cacheTtl = none := by
  obtain ⟨turns, desks, -⟩ := (Core.lived_of_trace trace).desk
  obtain ⟨verifier, scheme, ttl⟩ := Desk.setUp_of_new desks
  have silent := core.credentials.resolve_eq_none_iff core.now raw
  rw [← verifier, ← scheme, ← ttl]
  exact silent

/-- A sweeper ends as it is started exactly when the clock cannot tell the end of its first period,
and goes on for ever otherwise. -/
theorem sweeper_finished_iff {S : Type} [Sweepable S] (server : Server) (now : Moment)
    (targets : List (Swept S)) (passings : List Passing) :
    (passings.foldl Sweeping.pass
      ((⟨now, targets, none⟩ : Sweeping S).start server.settings.auth.sweepInterval)).isFinished? =
        some true ↔ later? now server.settings.auth.sweepInterval = none := by
  obtain ⟨-, -, -, auth, -⟩ := ServiceSettings.check_eq_ok_iff.mp server.usable
  obtain ⟨-, -, some, -⟩ := AuthSettings.check_eq_ok_iff.mp auth
  rw [Sweeping.isFinished?_foldl_pass, Sweeping.isFinished?_start_iff]
  exact or_iff_left some

/-- When a service breaks off whose settings can be used. After any history a credential is not
answered exactly when it would have to be remembered beyond what the clock can tell; a flight is
that of a refresh that does not go on exactly when its refresh was left behind because its dashboard
would have had to be; and a sweeper ends as it is started exactly when its first period would. While
the clock can tell until when a dashboard would be remembered, no refresh is left behind. -/
theorem breaks_off_iff_untold
    (trace : Trace Core.step? (server.core start catalog chance) episodes core) :
    (∀ raw, (core.credentials.resolve core.now raw).1 = none ↔
      core.credentials.entries.live? core.now
        (.of (CredentialCache.presented server.settings.auth.scheme raw)) = none ∧
      (∃ verified, (Core.verifierOf server.settings.auth).verify core.now
          (CredentialCache.presented server.settings.auth.scheme raw) = .ok verified ∧
        core.now < verified.expiresAt) ∧
      later? core.now server.settings.auth.cacheTtl = none) ∧
    (∃ moves, Trace Aggregation.step? (server.core start catalog chance).runner.state moves
        core.runner.state ∧
      (∀ move ∈ moves, move.before.ttl = server.settings.dashboard.snapshotTtl) ∧
      ∀ flight ∈ core.runner.state.flights,
        ¬core.runner.state.GoesOn flight.2 ↔ Aggregation.Stranded moves flight.2) ∧
    ((later? core.now server.settings.dashboard.snapshotTtl).isSome →
      Aggregation.Manned core.runner.state) ∧
    (∀ {S : Type} [Sweepable S] (targets : List (Swept S)) (passings : List Passing),
      (passings.foldl Sweeping.pass ((⟨start, targets, none⟩ : Sweeping S).start
          (server.core start catalog chance).sweepInterval)).isFinished? = some true ↔
        later? start server.settings.auth.sweepInterval = none) := by
  have first : Orderly (server.core start catalog chance).runner.state := .new _ _ _ _ _
  have manned : Aggregation.Manned (server.core start catalog chance).runner.state :=
    fun flight taken => nomatch taken
  obtain ⟨moves, states, -⟩ := (Core.lived_of_trace trace).moves
  refine ⟨resolve_eq_none_iff trace, ⟨moves, states, fun move member => ?_, ?_⟩, fun told => ?_,
    fun targets passings => server.sweeper_finished_iff start targets passings⟩
  · obtain ⟨earlier, later, rfl⟩ := List.append_of_mem member
    exact (Aggregation.onward_of_trace states.split.1).ttl
  · intro flight taken
    rw [Aggregation.goesOn_iff_not_stranded first manned states taken, Classical.not_not]
  · have remembered := (Aggregation.onward_of_trace states).ttl
    exact Aggregation.manned_of_trace first manned states (remembered ▸ told)

/-- A service that remembers nothing for ever. -/
def usual : Server :=
  ⟨{ auth := { secret := "0123456789abcdef0123456789abcdef" } },
    eq_ok_of_toOption (by decide +kernel), ⟨.unspecified, 8081⟩⟩

/-- A service that has slept for a second answers whoever presents a credential. -/
theorem breaks_off_iff_untold_of_usual :
    ∃ episodes core, Trace Core.step? (usual.core 0 .new .plain) episodes core ∧
      episodes.map (·.action) = [.sleep 1000000000] ∧
      (∀ raw, (core.credentials.resolve core.now raw).1 ≠ none) ∧
      Aggregation.Manned core.runner.state := by
  let first : Core := usual.core 0 .new .plain
  have trace : Trace Core.step? first [⟨first, .sleep 1000000000, none, first.sleep 1000000000⟩]
      (first.sleep 1000000000) := .cons rfl .nil
  obtain ⟨answered, -, manned, -⟩ := breaks_off_iff_untold trace
  refine ⟨_, _, trace, rfl, fun raw silent => ?_, manned (by decide +kernel)⟩
  have untold := ((answered raw).mp silent).2.2
  exact absurd untold (by decide +kernel)

/-- A service that is to remember everything for longer than the clock can tell. -/
def eternal : Server :=
  ⟨{ usual.settings with
      auth := { usual.settings.auth with
        cacheTtl := .ofSeconds 18446744073709551615
        sweepInterval := .ofSeconds 18446744073709551615 }
      dashboard := { usual.settings.dashboard with
        snapshotTtl := .ofSeconds 18446744073709551615 } },
    ServiceSettings.check_of_lengths usual.usable (by decide) (by decide) (by decide),
    usual.address⟩

/-- Its sweeper ends as it is started, and its first refresh that could write stays in flight and
does not go on. -/
theorem eternal_breaks_off :
    ((⟨0, [], none⟩ : Sweeping (ExpiringMap Credential.Fingerprint Identity)).start
      (eternal.core 0 .new .plain).sweepInterval).isFinished? = some true ∧
    ∃ moves state, Trace Aggregation.step? (eternal.core 0 .new .plain).runner.state moves state ∧
      ∃ flight ∈ state.flights, ¬state.GoesOn flight.2 := by
  refine ⟨by decide +kernel, ?_⟩
  obtain ⟨moves, state, trace, checked⟩ := Trace.exists_of_run? Aggregation.step?
    (eternal.core 0 .new .plain).runner.state
    [.snapshot ⟨7⟩, .begin 1, .call 1 .statistics, .call 1 .listings, .call 1 .activity,
      .endStatistics 1 (.answered .zero), .endListings 1 (.answered []),
      .endActivity 1 (.answered []), .conclude 1]
    (fun _ state => (⟨7⟩, 1) ∈ state.flights ∧ ∀ refresh ∈ state.refreshes, refresh.id ≠ 1)
    (by decide +kernel)
  obtain ⟨flying, gone⟩ := of_decide_eq_true checked
  exact ⟨moves, state, trace, _, flying, fun ⟨refresh, present, number, _⟩ =>
    gone refresh present number⟩

end Server

end UserDashboard.Service
