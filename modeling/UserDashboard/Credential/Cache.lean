/-
This file remembers which credentials were verified.

A credential is presented with or without its scheme, and all spellings of one token share an
entry. A token that is remembered is not verified again. It is remembered after it was verified,
under its fingerprint, until the time to live or the token's own expiry ends, whichever comes
first; what failed is never remembered. An account's entries can be dropped all at once.
-/

import UserDashboard.Cache.ExpiringMap
import UserDashboard.Cache.Sweeper
import UserDashboard.Credential.Fingerprint
import UserDashboard.Credential.Verifier
import UserDashboard.Text.Blank

namespace UserDashboard.Credential

open Cache Time Text

/-- A verifier and what it is known to have accepted. -/
structure CredentialCache where
  /-- The verifier. -/
  verifier : Verifier
  /-- The scheme that may stand before a token. -/
  scheme : String
  /-- The identities of accepted tokens. -/
  entries : ExpiringMap Fingerprint Identity
  /-- How often the verifier was asked. -/
  verifications : Nat

namespace CredentialCache

/-- The scheme in use unless another one is set. -/
def bearer : String := "Bearer "

/-- A cache that remembers nothing yet. -/
def new (verifier : Verifier) (scheme : String) (ttl : Span) (maxEntries : Nat) :
    CredentialCache :=
  ⟨verifier, scheme, ExpiringMap.new ttl maxEntries, 0⟩

/-- The token that a credential presents: what follows the scheme, if the scheme stands first and
is followed by a blank or by nothing, and else the whole text, in both cases without the blanks
around it. -/
def tokenIn (scheme raw : List Char) : List Char :=
  let trimmed := trim raw
  let scheme := trim scheme
  if scheme.isEmpty then trimmed
  else
    match afterBeginning? scheme trimmed with
    | some [] => []
    | some (next :: rest) => if isBlank next then trim rest else trimmed
    | none => trimmed

/-- Remembers a verified token until its own expiry at the latest. -/
def remember? (cache : CredentialCache) (now : Moment) (fingerprint : Fingerprint)
    (verified : Verified) : Option CredentialCache :=
  (cache.entries.insertUntil? now fingerprint verified.identity verified.expiresAt).map
    fun (_, entries) => { cache with entries }

/-- The identity of whoever presents a credential. There is no answer at all when the clock cannot
tell until when a verified token would be remembered. -/
def resolve (cache : CredentialCache) (now : Moment) (raw : String) :
    Option (Except CredentialError Identity) × CredentialCache :=
  match tokenIn cache.scheme.toList raw.toList with
  | [] => (some (.error (.malformed "credential is empty")), cache)
  | first :: rest =>
    let token := String.ofList (first :: rest)
    let fingerprint := Fingerprint.of token
    match cache.entries.get now fingerprint with
    | (some identity, entries) => (some (.ok identity), { cache with entries })
    | (none, entries) =>
      let asked := { cache with entries, verifications := cache.verifications + 1 }
      match cache.verifier.verify now token with
      | .error error => (some (.error (.ofToken error)), asked)
      | .ok verified =>
        match asked.remember? now fingerprint verified with
        | some remembering => (some (.ok verified.identity), remembering)
        | none => (none, asked)

/-- Forgets the credentials of an account, and says how many there were. -/
def invalidate (cache : CredentialCache) (subject : SubjectId) : Nat × CredentialCache :=
  let (removed, entries) := cache.entries.removeWhere fun _ identity => identity.subject = subject
  (removed, { cache with entries })

/-- Forgets all credentials. -/
def clear (cache : CredentialCache) : CredentialCache :=
  { cache with entries := cache.entries.clear }

/-- Removes what is no longer live, and says how many entries that were. -/
def sweep (cache : CredentialCache) (now : Moment) : Nat × CredentialCache :=
  let (removed, entries) := cache.entries.purge now
  (removed, { cache with entries })

/-- The name under which sweeps are reported. -/
def sweepName : String := "credentials"

/-- What is reported at a moment. -/
def stats (cache : CredentialCache) (now : Moment) : Stats :=
  cache.entries.stats now

end CredentialCache

end UserDashboard.Credential
