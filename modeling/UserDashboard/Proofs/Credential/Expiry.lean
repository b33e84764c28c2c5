/-
This file proves how long a credential is accepted.

A token stops being valid at the beginning of a second, and the verifier compares whole seconds: it
accepts the token until that second is over. What is remembered is dropped at its beginning. In
between the verifier is asked every time and lets the bearer in, and nothing is remembered. After
that nobody is let in with the token, whatever has happened before.
-/

import UserDashboard.Proofs.Credential.Reuse

namespace UserDashboard.Credential

open Cache Time

namespace CredentialCache

variable {cache : CredentialCache} {now : Moment} {raw : String}

/-- A token that is not remembered and has stopped being valid is as good as the verifier finds it,
and is not remembered then. -/
theorem resolve_of_passed
    (something : tokenIn cache.scheme.toList raw.toList ≠ [])
    (missing : cache.entries.live? now (.of (presented cache.scheme raw)) = none)
    (passed : ∀ verified, cache.verifier.verify now (presented cache.scheme raw) = .ok verified →
      verified.expiresAt ≤ now) :
    cache.resolve now raw =
      (some (answer (cache.verifier.verify now (presented cache.scheme raw))), { cache with
        entries := cache.looked now raw
        verifications := cache.verifications + 1 }) := by
  have resolving := cache.resolving now raw
  generalize cache.resolve now raw = led at resolving ⊢
  obtain ⟨result, after⟩ := led
  cases resolving with
  | malformed nothing => exact absurd nothing something
  | remembered _ live => exact nomatch missing.symm.trans live
  | verified _ _ came => rw [came]
  | stored _ _ came valid | untold _ _ _ came valid =>
    exact absurd valid (Int.not_lt.mpr (passed _ came))

/-- A cache that knows nothing asks the verifier. -/
theorem resolve_new_of_passed {verifier : Verifier} {scheme : String} {verified : Verified}
    (ttl : Span) (maxEntries : Nat)
    (accepted : verifier.verify now (presented scheme raw) = .ok verified)
    (passed : verified.expiresAt ≤ now) :
    ((new verifier scheme ttl maxEntries).resolve now raw).1 = some (.ok verified.identity) := by
  have led : (new verifier scheme ttl maxEntries).resolve now raw = _ :=
    resolve_of_passed (something_of_verify accepted) rfl fun other again =>
      verified_eq_of_accepted accepted again ▸ passed
  rw [led]
  exact congrArg (some <| answer ·) accepted

theorem entry?_looked_of_missing
    (missing : cache.entries.live? now (.of (presented cache.scheme raw)) = none) :
    ExpiringMap.entry? (cache.looked now raw) (.of (presented cache.scheme raw)) = none := by
  rw [looked_of_missing missing]
  exact ExpiringMap.entry?_eq_none_iff.mpr fun pair kept => (ExpiringMap.mem_erase.mp kept).2

end CredentialCache

namespace Desk

open CredentialCache

variable {desk : Desk} {turns : List Turn} {verifier : Verifier} {scheme : String} {ttl : Span}
  {maxEntries : Nat} {now : Moment} {raw : String}

/-- What is remembered was accepted under its fingerprint and has not stopped being valid. -/
theorem accepted_of_live
    (trace : Trace step? ⟨now, .new verifier scheme ttl maxEntries⟩ turns desk)
    {fingerprint : Fingerprint} {identity : Identity}
    (live : desk.cache.entries.live? desk.now fingerprint = some identity) :
    ∃ token ∈ tokens scheme (raws turns), Fingerprint.of token = fingerprint ∧
      ∃ verified, verifier.verify desk.now token = .ok verified ∧
        verified.identity = identity ∧ desk.now < verified.expiresAt := by
  obtain ⟨entry, found, early, rfl⟩ := ExpiringMap.live?_eq_some_iff.mp live
  obtain ⟨token, known, same, moment, verified, accepted, value, bound⟩ :=
    faithful_of_trace rfl trace _ (ExpiringMap.mem_entries_of_found found)
  rw [(setUp_of_new trace).1] at accepted
  have valid : desk.now < verified.expiresAt := Int.lt_of_lt_of_le early bound
  exact ⟨token, known, same, verified, verify_of_lt accepted valid, value.symm, valid⟩

theorem presented_mem_tokens (something : tokenIn scheme.toList raw.toList ≠ [])
    (others : List String) : presented scheme raw ∈ tokens scheme (raw :: others) :=
  List.mem_map_of_mem (List.mem_filter.mpr ⟨List.mem_cons_self, decide_eq_true something⟩)

/-- Whoever is let in presents a token that the verifier accepts just then, or one that cannot be
told from it. -/
theorem accepted_of_letIn
    (trace : Trace step? ⟨now, .new verifier scheme ttl maxEntries⟩ turns desk)
    {identity : Identity} (letIn : (desk.cache.resolve desk.now raw).1 = some (.ok identity)) :
    ∃ token ∈ tokens scheme (raw :: raws turns),
      Fingerprint.of token = .of (presented scheme raw) ∧
      ∃ verified, verifier.verify desk.now token = .ok verified ∧
        verified.identity = identity := by
  obtain ⟨sameVerifier, sameScheme, -⟩ := setUp_of_new trace
  have resolving := desk.cache.resolving desk.now raw
  generalize desk.cache.resolve desk.now raw = led at resolving letIn
  obtain ⟨result, after⟩ := led
  cases resolving with
  | malformed => cases letIn
  | remembered something live =>
    rw [← Except.ok.inj (Option.some.inj letIn), ← sameScheme]
    obtain ⟨token, known, same, verified, accepted, who, -⟩ := accepted_of_live trace live
    rw [← sameScheme] at known
    refine ⟨token, ?_, same, verified, accepted, who⟩
    exact tokens_subset (fun _ => List.mem_cons_of_mem raw) known
  | @verified verdict something _ came =>
    rw [sameVerifier, sameScheme] at came
    rw [sameScheme] at something
    cases verdict with
    | error error => cases letIn
    | ok verified =>
      exact ⟨_, presented_mem_tokens something _, rfl, verified, came,
        Except.ok.inj (Option.some.inj letIn)⟩
  | stored something _ came =>
    rw [sameVerifier, sameScheme] at came
    rw [sameScheme] at something
    exact ⟨_, presented_mem_tokens something _, rfl, _, came,
      Except.ok.inj (Option.some.inj letIn)⟩
  | untold => cases letIn

/-- A token that has stopped being valid is not remembered. -/
theorem missing_of_passed
    (trace : Trace step? ⟨now, .new verifier scheme ttl maxEntries⟩ turns desk)
    (unmistakable : ∀ other ∈ tokens scheme (raws turns),
      Fingerprint.of other = .of (presented scheme raw) → other = presented scheme raw)
    {moment : Moment} {verified : Verified}
    (accepted : verifier.verify moment (presented scheme raw) = .ok verified)
    (passed : verified.expiresAt ≤ desk.now) :
    desk.cache.entries.live? desk.now (.of (presented scheme raw)) = none := by
  rw [← Option.not_isSome_iff_eq_none, Option.isSome_iff_exists]
  rintro ⟨identity, live⟩
  obtain ⟨token, known, same, other, again, -, valid⟩ := accepted_of_live trace live
  obtain rfl := unmistakable token known same
  rw [verified_eq_of_accepted accepted again] at valid
  exact absurd valid (Int.not_lt.mpr passed)

/-- How long a credential is accepted. A token that the verifier accepts at all it accepts until the
second is over in which the token stops being valid, and not after that. Whoever is let in by a
cache, whatever has happened to it before, presents such a token or one of the same fingerprint. If
no token presented before may be mistaken for it, its bearer is let in after it has stopped being
valid exactly until that second is over; the verifier is asked then, and nothing is remembered. -/
theorem accepted_until_second_over
    (trace : Trace step? ⟨now, .new verifier scheme ttl maxEntries⟩ turns desk) (raw : String) :
    (∀ token moment verified, verifier.verify moment token = .ok verified → ∀ later,
      verifier.verify later token = .ok verified ↔ later < verified.expiresAt + nanosPerSecond) ∧
    (∀ identity, (desk.cache.resolve desk.now raw).1 = some (.ok identity) →
      ∃ token ∈ tokens scheme (raw :: raws turns),
        Fingerprint.of token = .of (presented scheme raw) ∧
        ∃ verified, verifier.verify desk.now token = .ok verified ∧
          verified.identity = identity) ∧
    ((∀ other ∈ tokens scheme (raws turns),
        Fingerprint.of other = .of (presented scheme raw) → other = presented scheme raw) →
      ∀ moment verified, verifier.verify moment (presented scheme raw) = .ok verified →
        verified.expiresAt ≤ desk.now →
          ((desk.cache.resolve desk.now raw).1 = some (.ok verified.identity) ↔
            desk.now < verified.expiresAt + nanosPerSecond) ∧
          (desk.cache.resolve desk.now raw).2.verifications = desk.cache.verifications + 1 ∧
          ExpiringMap.entry? (desk.cache.resolve desk.now raw).2.entries
            (.of (presented scheme raw)) = none) := by
  obtain ⟨sameVerifier, sameScheme, -⟩ := setUp_of_new trace
  refine ⟨fun token moment verified accepted later => verify_iff_of_accepted accepted,
    fun identity letIn => accepted_of_letIn trace letIn, ?_⟩
  intro unmistakable moment verified accepted passed
  have something := something_of_verify accepted
  have missing := missing_of_passed trace unmistakable accepted passed
  have led := @resolve_of_passed desk.cache desk.now raw
  have forgotten := @entry?_looked_of_missing desk.cache desk.now raw
  rw [sameVerifier, sameScheme] at led
  rw [sameScheme] at forgotten
  rw [led something missing fun other again => verified_eq_of_accepted accepted again ▸ passed,
    ← verify_iff_of_accepted accepted]
  refine ⟨⟨fun letIn => ?_, fun again => by rw [again]; rfl⟩, rfl, forgotten missing⟩
  cases came : verifier.verify desk.now (presented scheme raw) with
  | error error =>
    rw [came] at letIn
    cases letIn
  | ok other => rw [verified_eq_of_accepted accepted came]

theorem hourly_claims :
    ((Parts.ofText? (presented "Bearer " hourly)).bind fun parts =>
      (decodedJson parts.payload).toOption.bind Claims.ofJson?).any
        fun claims => claims.expiry.toOption = some 3600000000000 := by decide +kernel

/-- A token of an account that is accepted, and stops being valid after an hour. -/
theorem exists_hourly : ∃ verified,
    Verifier.verify ⟨.hs256, [1, 1, 1, 1]⟩ 5 (presented "Bearer " hourly) = .ok verified ∧
      verified.expiresAt = 3600000000000 := by
  have accepted := hourly_accepted
  cases came : Verifier.verify ⟨.hs256, [1, 1, 1, 1]⟩ 5 (presented "Bearer " hourly) with
  | error error =>
    rw [came] at accepted
    cases accepted
  | ok verified =>
    refine ⟨verified, rfl, ?_⟩
    obtain ⟨claims, decoded, -, valid⟩ := verify_eq_ok_iff.mp came
    obtain ⟨parts, payload, -, taken, -, -, read, told, -⟩ := decode_eq_ok_iff.mp decoded
    have expiry := hourly_claims
    rw [taken, Option.bind_some, read] at expiry
    simpa [told, valid, Except.toOption] using expiry

/-- A token that was presented an hour ago is let in half a second after it has stopped being valid,
and the verifier is asked. -/
theorem accepted_until_second_over_of_hourly :
    ∃ turns desk, ∃ verified : Verified, Trace step? ⟨5, .new ⟨.hs256, [1, 1, 1, 1]⟩ "Bearer "
        ⟨300000000000, by decide⟩ 10⟩ turns desk ∧
      turns.map (·.action) = [.resolve hourly, .wait 3600500000000] ∧
      verified.expiresAt < desk.now ∧
      (desk.cache.resolve desk.now hourly).1 = some (.ok verified.identity) ∧
      (desk.cache.resolve desk.now hourly).2.verifications = desk.cache.verifications + 1 := by
  obtain ⟨verified, accepted, expiry⟩ := exists_hourly
  obtain ⟨turns, desk, trace, actions, presents, clock, -⟩ :=
    exists_known ⟨300000000000, by decide⟩ 10 (something_of_verify accepted) accepted (by decide)
      3600500000000
  have passed : verified.expiresAt < desk.now := by
    rw [expiry, clock]
    decide
  have alike : ∀ other ∈ tokens "Bearer " (raws turns),
      Fingerprint.of other = .of (presented "Bearer " hourly) →
        other = presented "Bearer " hourly := by
    intro other present _
    rw [presents] at present
    obtain ⟨one, kept, rfl⟩ := List.mem_map.mp present
    rw [List.mem_singleton.mp (List.mem_filter.mp kept).1]
  obtain ⟨letIn, asked, -⟩ := (accepted_until_second_over trace hourly).2.2 alike 5 verified
    accepted (Int.le_of_lt passed)
  refine ⟨turns, desk, verified, trace, actions, passed, letIn.mpr ?_, asked⟩
  rw [expiry, clock]
  decide

/-- The verifier and a cache that knows nothing accept a token half a second after it has stopped
being valid. -/
theorem accepted_after_expiry :
    ∃ verified, Verifier.verify ⟨.hs256, [1, 1, 1, 1]⟩ 3600500000000
        (presented "Bearer " hourly) = .ok verified ∧
      verified.expiresAt < 3600500000000 ∧
      ((CredentialCache.new ⟨.hs256, [1, 1, 1, 1]⟩ "Bearer " ⟨300000000000, by decide⟩ 10).resolve
        3600500000000 hourly).1 = some (.ok verified.identity) := by
  obtain ⟨verified, accepted, expiry⟩ := exists_hourly
  have late : Verifier.verify ⟨.hs256, [1, 1, 1, 1]⟩ 3600500000000
      (presented "Bearer " hourly) = .ok verified :=
    (verify_iff_of_accepted accepted).mpr (by rw [expiry]; decide)
  have passed : verified.expiresAt < 3600500000000 := by
    rw [expiry]
    decide
  exact ⟨verified, late, passed, resolve_new_of_passed _ _ late (Int.le_of_lt passed)⟩

end Desk

end UserDashboard.Credential
