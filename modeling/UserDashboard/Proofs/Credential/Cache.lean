/-
This file proves that nobody can tell a credential that is remembered from one that is verified.

Whatever is remembered was accepted at some moment under its fingerprint, and is not remembered
beyond the moment at which it stops being valid. Until then the verifier would accept it again and
say the same. So when no two tokens that were presented have one fingerprint, what is answered to
whoever presents a credential is what verifying it then and there would come to, whatever was
presented, forgotten or swept before and however much time has passed.
-/

import UserDashboard.Credential.Cache
import UserDashboard.Proofs.Cache.ExpiringMap
import UserDashboard.Proofs.Credential.Verifier
import UserDashboard.Proofs.Trace

namespace UserDashboard.Credential

open Cache Time

/-- What is answered to whoever presents a credential. -/
abbrev Answer := Except CredentialError Identity

/-- What the verdict on a token is to whoever presented it. -/
def answer : Except TokenError Verified → Answer
  | .error error => .error (.ofToken error)
  | .ok verified => .ok verified.identity

namespace CredentialCache

/-- The token that a credential presents, as text. -/
def presented (scheme raw : String) : String :=
  String.ofList (tokenIn scheme.toList raw.toList)

/-- The tokens that credentials present, without those of which nothing is left. -/
def tokens (scheme : String) (raws : List String) : List String :=
  (raws.filter fun raw => tokenIn scheme.toList raw.toList ≠ []).map (presented scheme)

/-- What verifying a credential then and there comes to. -/
def verifyAfresh (verifier : Verifier) (scheme : String) (now : Moment) (raw : String) : Answer :=
  if tokenIn scheme.toList raw.toList = [] then .error (.malformed "credential is empty")
  else answer (verifier.verify now (presented scheme raw))

theorem tokens_subset {scheme : String} {raws others : List String}
    (within : ∀ raw ∈ raws, raw ∈ others) {token : String}
    (present : token ∈ tokens scheme raws) :
    token ∈ tokens scheme others := by
  obtain ⟨raw, kept, rfl⟩ := List.mem_map.mp present
  obtain ⟨member, something⟩ := List.mem_filter.mp kept
  exact List.mem_map_of_mem (List.mem_filter.mpr ⟨within raw member, something⟩)

variable {cache after : CredentialCache} {now : Moment} {raw : String} {known : String → Prop}

theorem something_of_verify {verifier : Verifier} {scheme : String} {verified : Verified}
    (accepted : verifier.verify now (presented scheme raw) = .ok verified) :
    tokenIn scheme.toList raw.toList ≠ [] := by
  intro nothing
  obtain ⟨claims, decoded, -⟩ := verify_eq_ok_iff.mp accepted
  obtain ⟨parts, -, -, taken, -⟩ := decode_eq_ok_iff.mp decoded
  have empty : Parts.ofText? (presented scheme raw) = none := by
    rw [presented, nothing]
    decide
  rw [empty] at taken
  cases taken

/-! ### What presenting a credential does -/

/-- What is remembered once the token that a credential presents was looked up. -/
def looked (cache : CredentialCache) (now : Moment) (raw : String) :
    ExpiringMap Fingerprint Identity :=
  (cache.entries.get now (.of (presented cache.scheme raw))).2

/-- What is answered to whoever presents a credential, and what is remembered then. -/
inductive Resolving (cache : CredentialCache) (now : Moment) (raw : String) :
    Option Answer → CredentialCache → Prop where
  /-- There is nothing to verify. -/
  | malformed (nothing : tokenIn cache.scheme.toList raw.toList = []) :
      Resolving cache now raw (some (.error (.malformed "credential is empty"))) cache
  /-- The token is remembered. -/
  | remembered {identity : Identity}
      (something : tokenIn cache.scheme.toList raw.toList ≠ [])
      (live : cache.entries.live? now (.of (presented cache.scheme raw)) = some identity) :
      Resolving cache now raw (some (.ok identity)) { cache with entries := cache.looked now raw }
  /-- The token is verified, and nothing new is remembered. -/
  | verified {verdict : Except TokenError Verified}
      (something : tokenIn cache.scheme.toList raw.toList ≠ [])
      (missing : cache.entries.live? now (.of (presented cache.scheme raw)) = none)
      (came : cache.verifier.verify now (presented cache.scheme raw) = verdict)
      (passed : ∀ verified, verdict = .ok verified → verified.expiresAt ≤ now) :
      Resolving cache now raw (some (answer verdict)) { cache with
        entries := cache.looked now raw
        verifications := cache.verifications + 1 }
  /-- The token is verified, and remembered. -/
  | stored {verified : Verified} {expiry : Moment}
      (something : tokenIn cache.scheme.toList raw.toList ≠ [])
      (missing : cache.entries.live? now (.of (presented cache.scheme raw)) = none)
      (came : cache.verifier.verify now (presented cache.scheme raw) = .ok verified)
      (valid : now < verified.expiresAt) (told : later? now cache.entries.ttl = some expiry) :
      Resolving cache now raw (some (.ok verified.identity)) { cache with
        entries := (cache.looked now raw).store (.of (presented cache.scheme raw))
          ⟨verified.identity, now, min verified.expiresAt expiry⟩
        verifications := cache.verifications + 1 }
  /-- The token is verified, but the clock cannot tell until when it would be remembered. -/
  | untold (something : tokenIn cache.scheme.toList raw.toList ≠ [])
      (missing : cache.entries.live? now (.of (presented cache.scheme raw)) = none)
      (untold : later? now cache.entries.ttl = none) {verified : Verified}
      (came : cache.verifier.verify now (presented cache.scheme raw) = .ok verified)
      (valid : now < verified.expiresAt) :
      Resolving cache now raw none { cache with
        entries := cache.looked now raw
        verifications := cache.verifications + 1 }

theorem looked_sublist (cache : CredentialCache) (now : Moment) (raw : String) :
    (cache.looked now raw).entries.Sublist cache.entries.entries :=
  ExpiringMap.get_sublist _ _ _

theorem ttl_looked (cache : CredentialCache) (now : Moment) (raw : String) :
    (cache.looked now raw).ttl = cache.entries.ttl :=
  ExpiringMap.ttl_get _ _ _

/-- A token that has stopped being valid is not remembered. -/
theorem remember?_of_le {fingerprint : Fingerprint} {verified : Verified}
    (passed : verified.expiresAt ≤ now) :
    cache.remember? now fingerprint verified = some cache := by
  simp only [remember?, ExpiringMap.insertUntil?, if_pos passed, Option.map_some]

/-- A token that is valid is remembered, if the clock can tell until when. -/
theorem remember?_of_lt {fingerprint : Fingerprint} {verified : Verified}
    (valid : ¬verified.expiresAt ≤ now) :
    cache.remember? now fingerprint verified =
      (later? now cache.entries.ttl).map fun expiry => { cache with
        entries := cache.entries.store fingerprint
          ⟨verified.identity, now, min verified.expiresAt expiry⟩ } := by
  simp only [remember?, ExpiringMap.insertUntil?, if_neg valid, Option.map_map]
  rfl

/-- Presenting a credential does one of these. -/
theorem resolving (cache : CredentialCache) (now : Moment) (raw : String) :
    Resolving cache now raw (cache.resolve now raw).1 (cache.resolve now raw).2 := by
  cases token : tokenIn cache.scheme.toList raw.toList with
  | nil =>
    have led : cache.resolve now raw =
        (some (.error (.malformed "credential is empty")), cache) := by
      unfold resolve
      rw [token]
    rw [led]
    exact .malformed token
  | cons first rest =>
    have something : tokenIn cache.scheme.toList raw.toList ≠ [] := by simp [token]
    have text : String.ofList (first :: rest) = presented cache.scheme raw := by
      rw [presented, token]
    have pair : cache.entries.get now (.of (presented cache.scheme raw)) =
        (cache.entries.live? now (.of (presented cache.scheme raw)), cache.looked now raw) := by
      rw [← ExpiringMap.get_fst]
      rfl
    unfold resolve
    rw [token]
    simp only [text, pair]
    cases found : cache.entries.live? now (.of (presented cache.scheme raw)) with
    | some identity => exact .remembered something found
    | none =>
      cases came : cache.verifier.verify now (presented cache.scheme raw) with
      | error error => exact .verified something found came nofun
      | ok verified =>
        by_cases passed : verified.expiresAt ≤ now
        · simp only [remember?_of_le passed]
          refine .verified something found came fun other same => ?_
          obtain rfl := Except.ok.inj same
          exact passed
        · cases told : later? now cache.entries.ttl with
          | none =>
            simp only [remember?_of_lt passed, ttl_looked, told, Option.map_none]
            exact .untold something found told came (Int.not_le.mp passed)
          | some expiry =>
            simp only [remember?_of_lt passed, ttl_looked, told, Option.map_some]
            exact .stored something found came (Int.not_le.mp passed) told

/-- Presenting a credential changes nothing but what is remembered. -/
theorem Resolving.setUp {result : Option Answer}
    (resolving : Resolving cache now raw result after) :
    after.verifier = cache.verifier ∧ after.scheme = cache.scheme ∧
      after.entries.ttl = cache.entries.ttl := by
  cases resolving with
  | malformed => exact ⟨rfl, rfl, rfl⟩
  | remembered => exact ⟨rfl, rfl, ttl_looked cache now raw⟩
  | verified => exact ⟨rfl, rfl, ttl_looked cache now raw⟩
  | stored =>
    exact ⟨rfl, rfl, (ExpiringMap.ttl_store _ _ _).trans (ttl_looked cache now raw)⟩
  | untold => exact ⟨rfl, rfl, ttl_looked cache now raw⟩

/-- There is no answer exactly when the verifier is asked, accepts the token before it stops being
valid, and the clock cannot tell until when the token would be remembered. -/
theorem resolve_eq_none_iff (cache : CredentialCache) (now : Moment) (raw : String) :
    (cache.resolve now raw).1 = none ↔
      cache.entries.live? now (.of (presented cache.scheme raw)) = none ∧
      (∃ verified, cache.verifier.verify now (presented cache.scheme raw) = .ok verified ∧
        now < verified.expiresAt) ∧
      later? now cache.entries.ttl = none := by
  have resolving := cache.resolving now raw
  generalize cache.resolve now raw = led at resolving ⊢
  obtain ⟨result, after⟩ := led
  cases resolving with
  | malformed nothing =>
    refine ⟨nofun, fun ⟨_, ⟨verified, accepted, _⟩, _⟩ => ?_⟩
    exact absurd nothing (something_of_verify accepted)
  | remembered _ live => exact ⟨nofun, fun missing => nomatch missing.1.symm.trans live⟩
  | verified _ _ came passed =>
    refine ⟨nofun, fun ⟨_, ⟨verified, accepted, valid⟩, _⟩ => ?_⟩
    exact absurd valid (Int.not_lt.mpr (passed verified (came.symm.trans accepted)))
  | stored _ _ _ _ told => exact ⟨nofun, fun untold => nomatch untold.2.2.symm.trans told⟩
  | untold _ missing untold came valid =>
    exact ⟨fun _ => ⟨missing, ⟨_, came, valid⟩, untold⟩, fun _ => rfl⟩

/-! ### What is remembered -/

/-- Whatever is remembered was accepted under its fingerprint, and not beyond the moment at which it
stops being valid. -/
def Faithful (cache : CredentialCache) (known : String → Prop) : Prop :=
  ∀ pair ∈ cache.entries.entries, ∃ token, known token ∧ Fingerprint.of token = pair.1 ∧
    ∃ moment verified, cache.verifier.verify moment token = .ok verified ∧
      pair.2.value = verified.identity ∧ pair.2.expiresAt ≤ verified.expiresAt

theorem Faithful.mono {more : String → Prop} (faithful : Faithful cache known)
    (wider : ∀ token, known token → more token) : Faithful cache more := by
  intro pair member
  obtain ⟨token, was, rest⟩ := faithful pair member
  exact ⟨token, wider token was, rest⟩

theorem Faithful.forget (faithful : Faithful cache known)
    (same : after.verifier = cache.verifier)
    (kept : after.entries.entries.Sublist cache.entries.entries) : Faithful after known := by
  intro pair member
  rw [same]
  exact faithful pair (kept.subset member)

/-- Presenting a credential keeps it so, with the token presented among the known ones. -/
theorem Faithful.resolving {result : Option Answer} (faithful : Faithful cache known)
    (resolving : Resolving cache now raw result after)
    (presents : tokenIn cache.scheme.toList raw.toList ≠ [] → known (presented cache.scheme raw)) :
    Faithful after known := by
  cases resolving with
  | malformed => exact faithful
  | remembered => exact faithful.forget rfl (looked_sublist cache now raw)
  | verified => exact faithful.forget rfl (looked_sublist cache now raw)
  | @stored verified expiry something missing came =>
    intro pair member
    rcases ExpiringMap.mem_store member with new | old
    · rw [new]
      exact ⟨_, presents something, rfl, now, verified, came, rfl, Int.min_le_left _ _⟩
    · exact faithful pair ((looked_sublist cache now raw).subset old)
  | untold => exact faithful.forget rfl (looked_sublist cache now raw)

/-- The verifier would accept what is remembered, and say the same. -/
theorem Faithful.verify (faithful : Faithful cache known) {token : String} {identity : Identity}
    (distinct : ∀ other, known other → Fingerprint.of other = .of token → other = token)
    (live : cache.entries.live? now (.of token) = some identity) :
    ∃ verified, cache.verifier.verify now token = .ok verified ∧ verified.identity = identity := by
  obtain ⟨entry, found, early, rfl⟩ := ExpiringMap.live?_eq_some_iff.mp live
  obtain ⟨other, was, same, moment, verified, accepted, value, bound⟩ :=
    faithful _ (ExpiringMap.mem_entries_of_found found)
  obtain rfl := distinct other was same
  exact ⟨verified, verify_of_lt accepted (Int.lt_of_lt_of_le early bound), value.symm⟩

/-- What is answered is what verifying then and there comes to. -/
theorem Faithful.answer_eq {result : Option Answer} (faithful : Faithful cache known)
    (resolving : Resolving cache now raw result after)
    (distinct : tokenIn cache.scheme.toList raw.toList ≠ [] → ∀ other, known other →
      Fingerprint.of other = .of (presented cache.scheme raw) → other = presented cache.scheme raw)
    (told : (later? now cache.entries.ttl).isSome) :
    result = some (verifyAfresh cache.verifier cache.scheme now raw) := by
  cases resolving with
  | malformed nothing => rw [verifyAfresh, if_pos nothing]
  | remembered something live =>
    obtain ⟨verified, accepted, rfl⟩ := faithful.verify (distinct something) live
    rw [verifyAfresh, if_neg something, accepted]
    rfl
  | verified something missing came => rw [verifyAfresh, if_neg something, came]
  | stored something missing came =>
    rw [verifyAfresh, if_neg something, came]
    rfl
  | untold something missing none =>
    rw [none] at told
    cases told

/-- Whoever presents a token that the verifier does not accept is turned away, whatever is
remembered and whatever the clock can tell. -/
theorem Faithful.refused {result : Option Answer} {error : TokenError}
    (faithful : Faithful cache known) (resolving : Resolving cache now raw result after)
    (something : tokenIn cache.scheme.toList raw.toList ≠ [])
    (distinct : ∀ other, known other →
      Fingerprint.of other = .of (presented cache.scheme raw) → other = presented cache.scheme raw)
    (failed : cache.verifier.verify now (presented cache.scheme raw) = .error error) :
    result = some (.error (.ofToken error)) := by
  cases resolving with
  | malformed nothing => exact absurd nothing something
  | remembered _ live =>
    obtain ⟨verified, accepted, -⟩ := faithful.verify distinct live
    rw [failed] at accepted
    cases accepted
  | verified _ _ came =>
    rw [← came, failed]
    rfl
  | stored _ _ came | untold _ _ _ came =>
    rw [failed] at came
    cases came

theorem answer_ne_malformed (verdict : Except TokenError Verified) (detail : String) :
    answer verdict ≠ .error (.malformed detail) := by
  cases verdict <;> simp [answer, CredentialError.ofToken]

/-- It is only answered that there was nothing to verify when nothing is left of a credential. -/
theorem verifyAfresh_malformed_iff (verifier : Verifier) (scheme : String) (now : Moment)
    (raw : String) :
    (∃ detail, verifyAfresh verifier scheme now raw = .error (.malformed detail)) ↔
      tokenIn scheme.toList raw.toList = [] := by
  unfold verifyAfresh
  split
  · rename_i nothing
    exact ⟨fun _ => nothing, fun _ => ⟨_, rfl⟩⟩
  · rename_i something
    exact ⟨fun ⟨detail, said⟩ => absurd said (answer_ne_malformed _ detail),
      fun nothing => absurd nothing something⟩

end CredentialCache

/-! ### Runs -/

/-- A cache of credentials at a moment. -/
structure Desk where
  now : Moment
  cache : CredentialCache

namespace Desk

/-- What can happen to a cache of credentials. -/
inductive Action where
  /-- Someone presents a credential. -/
  | resolve (raw : String)
  /-- The credentials of an account are forgotten. -/
  | invalidate (subject : SubjectId)
  /-- Credentials that are no longer live are removed. -/
  | sweep
  /-- All credentials are forgotten. -/
  | clear
  /-- Time passes. -/
  | wait (nanos : Nat)

/-- The credential that is presented in an action. -/
def Action.raw? : Action → Option String
  | .resolve raw => some raw
  | _ => none

/-- The cache after an action, and what was answered to whoever presented a credential. -/
def step? (desk : Desk) : Action → Option (Desk × Option Answer)
  | .resolve raw =>
    some ({ desk with cache := (desk.cache.resolve desk.now raw).2 },
      (desk.cache.resolve desk.now raw).1)
  | .invalidate subject => some ({ desk with cache := (desk.cache.invalidate subject).2 }, none)
  | .sweep => some ({ desk with cache := (desk.cache.sweep desk.now).2 }, none)
  | .clear => some ({ desk with cache := desk.cache.clear }, none)
  | .wait nanos => some ({ desk with now := desk.now + nanos }, none)

/-- The credentials that were presented in a run. -/
def raws (steps : List (Step Desk Action (Option Answer))) : List String :=
  steps.filterMap (·.action.raw?)

variable {start desk after : Desk} {action : Action} {output : Option Answer}
  {steps : List (Step Desk Action (Option Answer))}

/-- What an action does to a cache of credentials. -/
inductive Change (desk : Desk) : Action → Option Answer → Desk → Prop where
  /-- A credential is presented. -/
  | resolved {raw : String} {result : Option Answer} {cache : CredentialCache}
      (resolving : desk.cache.Resolving desk.now raw result cache) :
      Change desk (.resolve raw) result { desk with cache }
  /-- Nobody presents a credential, and some are forgotten. -/
  | quiet {action : Action} {now : Moment} {entries : ExpiringMap Fingerprint Identity}
      (silent : action.raw? = none) (later : desk.now ≤ now)
      (ttl : entries.ttl = desk.cache.entries.ttl)
      (kept : entries.entries.Sublist desk.cache.entries.entries) :
      Change desk action none ⟨now, { desk.cache with entries }⟩

/-- Whatever a step does is one of the changes. -/
theorem change_of_step (taken : desk.step? action = some (after, output)) :
    Change desk action output after := by
  cases action with
  | resolve raw =>
    obtain ⟨rfl, rfl⟩ := Prod.mk.inj (Option.some.inj taken)
    exact .resolved (desk.cache.resolving desk.now raw)
  | invalidate subject =>
    obtain ⟨rfl, rfl⟩ := Prod.mk.inj (Option.some.inj taken)
    exact .quiet rfl (Int.le_refl _) rfl (ExpiringMap.removeWhere_sublist desk.cache.entries
      fun _ identity => identity.subject = subject)
  | sweep =>
    obtain ⟨rfl, rfl⟩ := Prod.mk.inj (Option.some.inj taken)
    exact .quiet rfl (Int.le_refl _) rfl (ExpiringMap.purge_sublist _ _)
  | clear =>
    obtain ⟨rfl, rfl⟩ := Prod.mk.inj (Option.some.inj taken)
    exact .quiet rfl (Int.le_refl _) rfl (List.nil_sublist _)
  | wait nanos =>
    obtain ⟨rfl, rfl⟩ := Prod.mk.inj (Option.some.inj taken)
    exact .quiet rfl (Int.le_add_of_nonneg_right (Int.natCast_nonneg nanos)) rfl
      (List.Sublist.refl _)

/-- Nothing but what is remembered changes in a cache of credentials. -/
structure SetUp (start desk : Desk) : Prop where
  verifier : desk.cache.verifier = start.cache.verifier
  scheme : desk.cache.scheme = start.cache.scheme
  ttl : desk.cache.entries.ttl = start.cache.entries.ttl

theorem Change.setUp (changed : Change desk action output after) : SetUp desk after := by
  cases changed with
  | resolved resolving =>
    obtain ⟨verifier, scheme, ttl⟩ := resolving.setUp
    exact ⟨verifier, scheme, ttl⟩
  | quiet silent later ttl => exact ⟨rfl, rfl, ttl⟩

theorem setUp_of_trace (trace : Trace step? start steps desk) : SetUp start desk :=
  trace.invariant ⟨rfl, rfl, rfl⟩ fun taken before =>
    have step := (change_of_step taken).setUp
    ⟨step.verifier.trans before.verifier, step.scheme.trans before.scheme,
      step.ttl.trans before.ttl⟩

theorem tokens_raws_snoc (scheme : String) (steps : List (Step Desk Action (Option Answer)))
    (step : Step Desk Action (Option Answer)) :
    CredentialCache.tokens scheme (raws (steps ++ [step])) =
      CredentialCache.tokens scheme (raws steps) ++
        CredentialCache.tokens scheme step.action.raw?.toList := by
  have more : raws (steps ++ [step]) = raws steps ++ step.action.raw?.toList := by
    rw [raws, List.filterMap_append, List.filterMap_cons]
    cases step.action.raw? <;> rfl
  rw [more, CredentialCache.tokens, List.filter_append, List.map_append]
  rfl

/-- Whatever is remembered after a run was accepted when a token of the run was presented. -/
theorem faithful_of_trace (empty : start.cache.entries.entries = [])
    (trace : Trace step? start steps desk) :
    desk.cache.Faithful (· ∈ CredentialCache.tokens start.cache.scheme (raws steps)) := by
  induction trace with
  | nil =>
    intro pair member
    rw [empty] at member
    cases member
  | @snoc steps before after action output trace taken inductionHypothesis =>
    simp only [tokens_raws_snoc]
    have wider := inductionHypothesis.mono fun token member =>
      List.mem_append_left (CredentialCache.tokens start.cache.scheme action.raw?.toList) member
    cases change_of_step taken with
    | @resolved raw result cache resolving =>
      refine wider.resolving resolving fun something => List.mem_append_right _ ?_
      rw [(setUp_of_trace trace).scheme] at something ⊢
      refine List.mem_map_of_mem (List.mem_filter.mpr ⟨List.mem_cons_self, ?_⟩)
      exact decide_eq_true something
    | quiet silent later ttl kept => exact wider.forget rfl kept

/-- Nobody can tell that credentials are remembered. Whatever has happened to a cache, whoever
presents a credential is answered what verifying it then and there comes to, and that there was
nothing to verify exactly when nothing is left of it. It is taken for granted that no two of the
tokens presented have one fingerprint, and that the clock can tell until when a token would be
remembered. -/
theorem resolve_eq_verifyAfresh {verifier : Verifier} {scheme : String} {ttl : Span}
    {maxEntries : Nat} {now : Moment}
    (trace : Trace step? ⟨now, .new verifier scheme ttl maxEntries⟩ steps desk) (raw : String)
    (distinct : ∀ first ∈ CredentialCache.tokens scheme (raw :: raws steps),
      ∀ second ∈ CredentialCache.tokens scheme (raw :: raws steps),
        Fingerprint.of first = .of second → first = second)
    (told : (later? desk.now ttl).isSome) :
    (desk.cache.resolve desk.now raw).1 =
      some (CredentialCache.verifyAfresh verifier scheme desk.now raw) ∧
    ((∃ detail, (desk.cache.resolve desk.now raw).1 = some (.error (.malformed detail))) ↔
      CredentialCache.tokenIn scheme.toList raw.toList = []) := by
  have faithful := faithful_of_trace rfl trace
  have setUp := setUp_of_trace trace
  have answered : (desk.cache.resolve desk.now raw).1 =
      some (CredentialCache.verifyAfresh desk.cache.verifier desk.cache.scheme desk.now raw) := by
    refine faithful.answer_eq (desk.cache.resolving desk.now raw) ?_ (by rw [setUp.ttl]; exact told)
    intro something other member same
    rw [setUp.scheme] at something same ⊢
    refine distinct other ?_ _ ?_ same
    · exact (((List.sublist_cons_self raw (raws steps)).filter _).map _).subset member
    · exact List.mem_map_of_mem
        (List.mem_filter.mpr ⟨List.mem_cons_self, decide_eq_true something⟩)
  rw [setUp.verifier, setUp.scheme] at answered
  refine ⟨answered, ?_⟩
  rw [answered, ← CredentialCache.verifyAfresh_malformed_iff verifier scheme desk.now raw]
  simp only [Option.some.injEq]
  exact Iff.rfl

/-- A token that is presented twice, a second apart, is answered like one that is verified twice. -/
theorem resolve_eq_verifyAfresh_again :
    ∃ steps desk, Trace step? ⟨5, .new ⟨.hs256, [1, 1, 1, 1]⟩ "Bearer "
        ⟨300000000000, by decide⟩ 10⟩ steps desk ∧
      raws steps = ["eyJ0eXAiOiJKV1QiLCJhbGciOiJIUzI1NiJ9." ++
        "eyJzdWIiOiJhIiwidXNlcklkIjo3LCJuaWNrbmFtZSI6ImIiLCJpYXQiOjAsImV4cCI6MzYwMH0." ++
        "s1tA2jRzM008oLm3G-RsgFM7HStOAY2NoeD0BCxk_xk"] ∧
      ∀ raw ∈ raws steps, (desk.cache.resolve desk.now raw).1 =
        some (CredentialCache.verifyAfresh ⟨.hs256, [1, 1, 1, 1]⟩ "Bearer " desk.now raw) := by
  let raw := "eyJ0eXAiOiJKV1QiLCJhbGciOiJIUzI1NiJ9." ++
    "eyJzdWIiOiJhIiwidXNlcklkIjo3LCJuaWNrbmFtZSI6ImIiLCJpYXQiOjAsImV4cCI6MzYwMH0." ++
    "s1tA2jRzM008oLm3G-RsgFM7HStOAY2NoeD0BCxk_xk"
  let start : Desk := ⟨5, .new ⟨.hs256, [1, 1, 1, 1]⟩ "Bearer " ⟨300000000000, by decide⟩ 10⟩
  let next : Desk := { start with cache := (start.cache.resolve start.now raw).2 }
  have trace : Trace step? start
      [⟨start, .resolve raw, (start.cache.resolve start.now raw).1, next⟩,
      ⟨next, .wait 1000000000, none, { next with now := next.now + 1000000000 }⟩]
      { next with now := next.now + 1000000000 } :=
    .cons rfl (.cons rfl .nil)
  refine ⟨_, _, trace, rfl, ?_⟩
  intro other member
  obtain rfl : other = raw := List.mem_singleton.mp member
  refine (resolve_eq_verifyAfresh trace raw ?_ (by decide)).1
  have alike : ∀ token ∈ CredentialCache.tokens "Bearer " [raw, raw],
      token = CredentialCache.presented "Bearer " raw := by
    intro token presented
    obtain ⟨one, kept, rfl⟩ := List.mem_map.mp presented
    have same : ∀ one ∈ [raw, raw], one = raw := by simp
    rw [same one (List.mem_filter.mp kept).1]
  intro first memberFirst second memberSecond _
  rw [alike first memberFirst, alike second memberSecond]

end Desk

end UserDashboard.Credential
