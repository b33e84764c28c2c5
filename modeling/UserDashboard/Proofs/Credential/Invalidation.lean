/-
This file proves what forgetting the credentials of an account does.

Entries are kept by the fingerprints of tokens and not by accounts, so all of them are looked
through. Those of the account are counted and removed, whichever tokens they were stored for and
whether or not they are live, and nothing else changes. Whatever is stored later was accepted later,
so about a token of the account the verifier is asked when it is presented next, however much has
happened in between. The tokens of other accounts are answered as before.
-/

import UserDashboard.Proofs.Credential.Expiry

namespace UserDashboard.Credential

open Cache Time

namespace CredentialCache

variable {cache after : CredentialCache} {now : Moment} {raw : String} {subject : SubjectId}

/-- A cache of credentials without those of an account, and how many there were. -/
structure Forgets (cache : CredentialCache) (subject : SubjectId) (count : Nat)
    (after : CredentialCache) : Prop where
  /-- All entries of the account are counted, live or not. -/
  counted : count = cache.entries.entries.countP (·.2.value.subject = subject)
  /-- They are removed, and every other entry is what it was, with the same creation and expiry. -/
  exact : ∀ fingerprint entry, after.entries.entry? fingerprint = some entry ↔
    cache.entries.entry? fingerprint = some entry ∧ entry.value.subject ≠ subject
  /-- As many entries are gone as were counted. -/
  sized : after.entries.size + count = cache.entries.size
  /-- No look-up is counted. -/
  lookUps : after.entries.hits = cache.entries.hits ∧ after.entries.misses = cache.entries.misses
  /-- Nor is an eviction. -/
  evictions : after.entries.evictions = cache.entries.evictions

theorem forgets_invalidate (regular : cache.entries.Regular) (subject : SubjectId) :
    cache.Forgets subject (cache.invalidate subject).1 (cache.invalidate subject).2 where
  counted := ExpiringMap.removeWhere_fst cache.entries fun _ identity => identity.subject = subject
  exact fingerprint entry := by
    have kept : ExpiringMap.entry? (cache.entries.removeWhere
        fun _ identity => identity.subject = subject).2 fingerprint = some entry ↔ _ :=
      regular.entry?_removeWhere_eq_some_iff
    rwa [decide_eq_false_iff_not] at kept
  sized := by
    have fewer := (cache.entries.removeWhere_sublist
      fun _ identity => decide (identity.subject = subject)).length_le
    exact Nat.add_sub_cancel' fewer
  lookUps := ⟨rfl, rfl⟩
  evictions := rfl

/-- There is nothing left to forget. -/
theorem invalidate_again (cache : CredentialCache) (subject : SubjectId) :
    ((cache.invalidate subject).2.invalidate subject).1 = 0 := by
  have counted := ExpiringMap.removeWhere_fst (cache.invalidate subject).2.entries
    fun _ identity => identity.subject = subject
  refine counted.trans (List.countP_eq_zero.mpr fun pair member => ?_)
  simpa using (List.mem_filter.mp member).2

/-- A token that is not remembered is asked about. -/
theorem asked_of_missing (something : tokenIn cache.scheme.toList raw.toList ≠ [])
    (missing : cache.entries.live? now (.of (presented cache.scheme raw)) = none) :
    (cache.resolve now raw).2.verifications = cache.verifications + 1 := by
  have resolving := cache.resolving now raw
  generalize (cache.resolve now raw).1 = result, (cache.resolve now raw).2 = after at resolving ⊢
  cases resolving with
  | malformed nothing => exact absurd nothing something
  | remembered _ live =>
    rw [missing] at live
    cases live
  | verified | stored | untold => rfl

/-- Whether nothing of an account is stored for the token that a credential presents. -/
def Forgotten (scheme raw : String) (subject : SubjectId) (cache : CredentialCache) : Prop :=
  ∀ pair ∈ cache.entries.entries, pair.1 = .of (presented scheme raw) →
    pair.2.value.subject ≠ subject

theorem forgotten_invalidate (scheme raw : String) (subject : SubjectId)
    (cache : CredentialCache) : Forgotten scheme raw subject (cache.invalidate subject).2 := by
  intro pair member _
  simpa using (List.mem_filter.mp member).2

end CredentialCache

namespace Desk

open CredentialCache

variable {start desk after : Desk} {action : Action} {output : Option Answer}
  {turns later : List Turn} {verifier : Verifier} {scheme : String} {ttl : Span} {maxEntries : Nat}
  {now : Moment} {raw : String} {subject : SubjectId}

/-! ### The account's own tokens -/

/-- What is forgotten stays so in a step in which no token of the same fingerprint is presented. -/
theorem forgotten_of_step (taken : desk.step? action = some (after, output))
    (forgotten : Forgotten scheme raw subject desk.cache)
    (unlike : ∀ other ∈ tokens desk.cache.scheme action.raw?.toList,
      Fingerprint.of other ≠ .of (presented scheme raw)) :
    Forgotten scheme raw subject after.cache := by
  intro pair member same
  rcases mem_entries_of_step taken member with ⟨old, -⟩ | ⟨other, verified, something, rfl, rfl, -⟩
  · exact forgotten pair old same
  · refine absurd same (unlike _ (List.mem_map_of_mem (List.mem_filter.mpr ⟨?_, ?_⟩)))
    · exact List.mem_cons_self
    · exact decide_eq_true something

/-- So does it in a run. -/
theorem forgotten_of_trace (trace : Trace step? start later desk)
    (forgotten : Forgotten scheme raw subject start.cache)
    (unlike : ∀ other ∈ tokens start.cache.scheme (raws later),
      Fingerprint.of other ≠ .of (presented scheme raw)) :
    Forgotten scheme raw subject desk.cache := by
  induction trace with
  | nil => exact forgotten
  | @snoc later before after action output trace taken inductionHypothesis =>
    rw [tokens_raws_snoc] at unlike
    have still := inductionHypothesis fun other old => unlike other (List.mem_append_left _ old)
    refine forgotten_of_step taken still fun other new => unlike other (List.mem_append_right _ ?_)
    rwa [(setUp_of_trace trace).scheme] at new

/-- A token of an account of which nothing is stored is asked about. -/
theorem asked_of_forgotten
    (trace : Trace step? ⟨now, .new verifier scheme ttl maxEntries⟩ turns desk)
    (unmistakable : ∀ other ∈ tokens scheme (raws turns),
      Fingerprint.of other = .of (presented scheme raw) → other = presented scheme raw)
    (forgotten : Forgotten scheme raw subject desk.cache) {moment : Moment} {verified : Verified}
    (accepted : verifier.verify moment (presented scheme raw) = .ok verified)
    (own : verified.identity.subject = subject) :
    (desk.cache.resolve desk.now raw).2.verifications = desk.cache.verifications + 1 := by
  obtain ⟨sameVerifier, sameScheme, -⟩ := setUp_of_new trace
  refine asked_of_missing (sameScheme ▸ something_of_verify accepted) ?_
  rw [sameScheme, Option.eq_none_iff_forall_ne_some]
  intro identity live
  obtain ⟨entry, found, -, rfl⟩ := ExpiringMap.live?_eq_some_iff.mp live
  have member := ExpiringMap.mem_entries_of_found found
  obtain ⟨token, was, same, other, again, acceptedThen, value, -⟩ :=
    faithful_of_trace rfl trace _ member
  obtain rfl := unmistakable token was same
  rw [sameVerifier] at acceptedThen
  refine forgotten _ member rfl ?_
  rw [value, verified_eq_of_accepted accepted acceptedThen, own]

/-! ### The tokens of others -/

/-- An entry of another account is found as long as it is live and spared. -/
theorem unasked_of_other (regular : desk.cache.entries.Regular)
    (trace : Trace step? { desk with cache := (desk.cache.invalidate subject).2 } later after)
    {entry : Entry Identity} (something : tokenIn desk.cache.scheme.toList raw.toList ≠ [])
    (stored : desk.cache.entries.entry? (.of (presented desk.cache.scheme raw)) = some entry)
    (other : entry.value.subject ≠ subject) (live : after.now < entry.expiresAt)
    (spared : ∀ step ∈ later,
      Spares (.of (presented desk.cache.scheme raw)) entry.value.subject step) :
    (after.cache.resolve after.now raw).1 = some (.ok entry.value) ∧
      (after.cache.resolve after.now raw).2.verifications = after.cache.verifications := by
  have regularLeft := regular.forget (desk.cache.entries.removeWhere_sublist
    fun _ identity => identity.subject = subject) rfl
  have left := ((forgets_invalidate regular subject).exact _ _).mpr ⟨stored, other⟩
  have kept := mem_of_trace trace regularLeft (ExpiringMap.mem_entries_of_found left) live spared
  have sameScheme : after.cache.scheme = desk.cache.scheme := (setUp_of_trace trace).scheme
  rw [unasked_iff_live, sameScheme]
  exact ⟨something, (regular_of_trace trace regularLeft).live?_eq_some_iff.mpr
    ⟨entry, ExpiringMap.mem_live.mpr ⟨kept, live⟩, rfl⟩⟩

/-- Forgetting the credentials of an account is complete and exact. After whatever has happened to a
cache, all entries of the account are counted and removed, and none is left for a second time. All
others stay as they were, and no look-up or eviction is counted. When a token of the account is
presented next, the verifier is asked, unless another token may be mistaken for it. The live entries
of others are found without asking, as long as they are spared. -/
theorem invalidate_complete_exact
    (trace : Trace step? ⟨now, .new verifier scheme ttl maxEntries⟩ turns desk)
    (subject : SubjectId) :
    desk.cache.Forgets subject (desk.cache.invalidate subject).1 (desk.cache.invalidate subject).2 ∧
    ((desk.cache.invalidate subject).2.invalidate subject).1 = 0 ∧
    ∀ later after,
      Trace step? { desk with cache := (desk.cache.invalidate subject).2 } later after → ∀ raw,
        (presented scheme raw ∉ tokens scheme (raws later) →
          (∀ other ∈ tokens scheme (raws turns ++ raws later),
            Fingerprint.of other = .of (presented scheme raw) → other = presented scheme raw) →
          ∀ moment verified, verifier.verify moment (presented scheme raw) = .ok verified →
            verified.identity.subject = subject →
              (after.cache.resolve after.now raw).2.verifications =
                after.cache.verifications + 1) ∧
        ∀ entry, tokenIn scheme.toList raw.toList ≠ [] →
          desk.cache.entries.entry? (.of (presented scheme raw)) = some entry →
          entry.value.subject ≠ subject → after.now < entry.expiresAt →
          (∀ step ∈ later, Spares (.of (presented scheme raw)) entry.value.subject step) →
            (after.cache.resolve after.now raw).1 = some (.ok entry.value) ∧
              (after.cache.resolve after.now raw).2.verifications = after.cache.verifications := by
  have regular := regular_of_trace trace (.new ttl maxEntries)
  obtain ⟨-, sameScheme, -⟩ := setUp_of_new trace
  refine ⟨forgets_invalidate regular subject, invalidate_again _ _, ?_⟩
  intro later after rest raw
  constructor
  · intro absent unmistakable moment verified accepted own
    have taken : desk.step? (.invalidate subject) =
        some ({ desk with cache := (desk.cache.invalidate subject).2 }, none) := rfl
    have whole := (trace.snoc taken).append rest
    have sameRaws : raws ((turns ++ [⟨desk, .invalidate subject, none,
        { desk with cache := (desk.cache.invalidate subject).2 }⟩]) ++ later) =
        raws turns ++ raws later := by
      simp [raws, Action.raw?]
    refine asked_of_forgotten whole (by rwa [sameRaws]) ?_ accepted own
    refine forgotten_of_trace rest (forgotten_invalidate scheme raw subject _) ?_
    intro other presents same
    have presents : other ∈ tokens scheme (raws later) := sameScheme ▸ presents
    obtain rfl := unmistakable other
      (tokens_subset (fun one member => List.mem_append_right _ member) presents) same
    exact absent presents
  · intro entry something stored other live spared
    rw [← sameScheme] at something stored spared
    exact unasked_of_other regular rest something stored other live spared

theorem hourly_account :
    ((Parts.ofText? (presented "Bearer " hourly)).bind fun parts =>
      (decodedJson parts.payload).toOption.bind Claims.ofJson?).any
        fun claims => claims.identity.toOption.any (·.subject = ⟨7⟩) := by decide +kernel

theorem subject_of_hourly {moment : Moment} {verified : Verified}
    (accepted : verifier.verify moment (presented "Bearer " hourly) = .ok verified) :
    verified.identity.subject = ⟨7⟩ := by
  obtain ⟨claims, decoded, who, -⟩ := verify_eq_ok_iff.mp accepted
  obtain ⟨parts, payload, -, taken, -, -, read, told, -⟩ := decode_eq_ok_iff.mp decoded
  have account := hourly_account
  rw [taken, Option.bind_some, read] at account
  simpa [told, who, Except.toOption] using account

/-- A token that was presented is forgotten with its account, and not with another one. -/
theorem hourly_forgotten :
    ∃ turns desk, Trace step? ⟨5, .new ⟨.hs256, [1, 1, 1, 1]⟩ "Bearer "
        ⟨300000000000, by decide⟩ 10⟩ turns desk ∧
      turns.map (·.action) = [.resolve hourly, .wait 1000000000] ∧
      0 < (desk.cache.invalidate ⟨7⟩).1 ∧
      ((desk.cache.invalidate ⟨7⟩).2.resolve desk.now hourly).2.verifications =
        desk.cache.verifications + 1 ∧
      ((desk.cache.invalidate ⟨8⟩).2.resolve desk.now hourly).2.verifications =
        desk.cache.verifications := by
  obtain ⟨verified, accepted, expiry⟩ := exists_hourly
  have own := subject_of_hourly accepted
  have something := something_of_verify accepted
  obtain ⟨turns, desk, trace, actions, presents, clock, known⟩ :=
    exists_known ⟨300000000000, by decide⟩ 10 something accepted (by decide) 1000000000
  have early : desk.now < min verified.expiresAt (5 + 300000000000) := by
    rw [clock, expiry]
    decide
  have member := mem_of_known trace known (by rw [clock]; decide) early
  have stored := (regular_of_trace trace (.new _ 10)).entry?_eq_some_iff.mpr member
  obtain ⟨forgets, -, later⟩ := invalidate_complete_exact trace ⟨7⟩
  obtain ⟨-, -, laterOther⟩ := invalidate_complete_exact trace ⟨8⟩
  refine ⟨turns, desk, trace, actions, ?_, ?_, ?_⟩
  · rw [forgets.counted]
    exact List.countP_pos_iff.mpr ⟨_, member, decide_eq_true own⟩
  · refine (later [] _ .nil hourly).1 List.not_mem_nil ?_ 5 verified accepted own
    intro other present _
    rw [presents] at present
    obtain ⟨one, kept, rfl⟩ := List.mem_map.mp present
    rw [List.mem_singleton.mp (List.mem_filter.mp kept).1]
  · have different : verified.identity.subject ≠ ⟨8⟩ := by
      rw [own]
      decide
    exact ((laterOther [] _ .nil hourly).2 _ something stored different early (by simp)).2

end Desk

end UserDashboard.Credential
