/-
This file says when a credential is answered without asking the verifier.

A token that was accepted is known until its time to live or its own expiry ends, unless all
credentials or those of its account are forgotten before, or it is dropped to keep the bound. About
all other tokens the verifier is asked, so it is asked exactly as often as a look-up finds nothing.
Whoever is turned away leaves no trace among the live entries.
-/

import UserDashboard.Proofs.Cache.Live
import UserDashboard.Proofs.Credential.Cache

namespace UserDashboard.Credential

open Cache Time

namespace CredentialCache

variable {cache after : CredentialCache} {now : Moment} {raw : String} {result : Option Answer}

/-! ### What presenting a credential does to the entries -/

theorem looked_of_live {identity : Identity}
    (live : cache.entries.live? now (.of (presented cache.scheme raw)) = some identity) :
    cache.looked now raw = { cache.entries with hits := cache.entries.hits + 1 } := by
  unfold looked
  rw [ExpiringMap.get_of_live? live]

theorem looked_of_missing
    (missing : cache.entries.live? now (.of (presented cache.scheme raw)) = none) :
    cache.looked now raw = { cache.entries.erase (.of (presented cache.scheme raw)) with
      misses := cache.entries.misses + 1 } := by
  unfold looked
  rw [ExpiringMap.get_of_missing missing]

theorem tokens_singleton (scheme raw : String) :
    (tokens scheme [raw]).length = if tokenIn scheme.toList raw.toList = [] then 0 else 1 := by
  unfold tokens
  by_cases nothing : tokenIn scheme.toList raw.toList = []
  · simp [nothing]
  · simp [nothing]

/-- The verifier is asked as often as a look-up misses, and whoever presents a token looks it up. -/
theorem Resolving.counted (resolving : cache.Resolving now raw result after) :
    after.verifications + cache.entries.misses = cache.verifications + after.entries.misses ∧
      after.entries.hits + after.entries.misses =
        cache.entries.hits + cache.entries.misses + (tokens cache.scheme [raw]).length := by
  rw [tokens_singleton]
  cases resolving with
  | malformed nothing =>
    rw [if_pos nothing]
    exact ⟨rfl, rfl⟩
  | remembered something live =>
    rw [if_neg something, looked_of_live live]
    exact ⟨rfl, Nat.add_right_comm _ _ _⟩
  | verified something missing =>
    rw [if_neg something, looked_of_missing missing]
    exact ⟨Nat.add_right_comm _ _ _, rfl⟩
  | @stored verified expiry something missing =>
    obtain ⟨hits, misses⟩ := ExpiringMap.lookUps_store (cache.looked now raw)
      (.of (presented cache.scheme raw)) ⟨verified.identity, now, min verified.expiresAt expiry⟩
    simp only [hits, misses]
    rw [if_neg something, looked_of_missing missing]
    exact ⟨Nat.add_right_comm _ _ _, rfl⟩
  | untold something missing =>
    rw [if_neg something, looked_of_missing missing]
    exact ⟨Nat.add_right_comm _ _ _, rfl⟩

theorem Resolving.regular (resolving : cache.Resolving now raw result after)
    (regular : cache.entries.Regular) : after.entries.Regular := by
  have looked : (cache.looked now raw).Regular := regular.get now _
  cases resolving with
  | malformed => exact regular
  | remembered => exact looked
  | verified => exact looked
  | stored => exact looked.store _ _
  | untold => exact looked

/-- A token that is not remembered is let in when the verifier accepts it, which is asked then. -/
theorem resolve_of_missing {verified : Verified}
    (missing : cache.entries.live? now (.of (presented cache.scheme raw)) = none)
    (something : tokenIn cache.scheme.toList raw.toList ≠ [])
    (accepted : cache.verifier.verify now (presented cache.scheme raw) = .ok verified)
    (told : (later? now cache.entries.ttl).isSome) :
    (cache.resolve now raw).1 = some (.ok verified.identity) ∧
      (cache.resolve now raw).2.verifications = cache.verifications + 1 := by
  have resolving := cache.resolving now raw
  generalize (cache.resolve now raw).1 = result, (cache.resolve now raw).2 = after at resolving ⊢
  cases resolving with
  | malformed nothing => exact absurd nothing something
  | remembered _ live =>
    rw [missing] at live
    cases live
  | verified _ _ came =>
    rw [← came, accepted]
    exact ⟨rfl, rfl⟩
  | stored _ _ came =>
    rw [Except.ok.inj (came.symm.trans accepted)]
    exact ⟨rfl, rfl⟩
  | untold _ _ none =>
    rw [none] at told
    cases told

/-- What is live stays stored when a credential is presented, unless it is dropped to keep the
bound. -/
theorem Resolving.mem_or_evicted (resolving : cache.Resolving now raw result after)
    (regular : cache.entries.Regular) {pair : Fingerprint × Entry Identity}
    (present : pair ∈ cache.entries.live now) :
    pair ∈ after.entries.entries ∨
      ExpiringMap.entry? after.entries pair.1 = none ∧
        cache.entries.evictions < after.entries.evictions := by
  have looked : pair ∈ (cache.looked now raw).live now := by
    rw [looked, regular.live_get]
    exact present
  have stored := (ExpiringMap.mem_live.mp looked).1
  cases resolving with
  | malformed => exact Or.inl (ExpiringMap.mem_live.mp present).1
  | remembered => exact Or.inl stored
  | verified => exact Or.inl stored
  | untold => exact Or.inl stored
  | @stored verified expiry something missing came valid told =>
    have different := regular.key_ne_of_live?_eq_none missing present
    have regularLooked : (cache.looked now raw).Regular := regular.get now _
    have counted : (cache.looked now raw).evictions = cache.entries.evictions := by
      rw [looked_of_missing missing]
      rfl
    rw [← counted]
    exact regularLooked.mem_store_or_evicted ⟨verified.identity, now, min verified.expiresAt expiry⟩
      looked different

/-- Whoever is turned away changes no live entry. -/
theorem Resolving.live_of_error {error : CredentialError}
    (resolving : cache.Resolving now raw (some (.error error)) after)
    (regular : cache.entries.Regular) : after.entries.live now = cache.entries.live now := by
  generalize said : some (Except.error error) = result at resolving
  cases resolving with
  | malformed => rfl
  | remembered => cases said
  | verified => exact regular.live_get now _
  | stored => cases said
  | untold => cases said

end CredentialCache

/-! ### Runs -/

namespace Desk

open CredentialCache

/-- A step of a run, with what was answered in it. -/
abbrev Turn := Step Desk Action (Option Answer)

variable {start desk after : Desk} {action : Action} {output : Option Answer} {turns : List Turn}
  {verifier : Verifier} {scheme : String} {ttl : Span} {maxEntries : Nat} {now : Moment}
  {raw : String}

theorem le_now_of_step (taken : desk.step? action = some (after, output)) :
    desk.now ≤ after.now := by
  cases change_of_step taken with
  | resolved => exact Int.le_refl _
  | quiet silent later => exact later

theorem regular_of_step (taken : desk.step? action = some (after, output))
    (regular : desk.cache.entries.Regular) : after.cache.entries.Regular := by
  cases action with
  | resolve raw =>
    obtain ⟨rfl, rfl⟩ := Prod.mk.inj (Option.some.inj taken)
    exact (desk.cache.resolving desk.now raw).regular regular
  | invalidate subject =>
    obtain ⟨rfl, rfl⟩ := Prod.mk.inj (Option.some.inj taken)
    exact regular.forget List.filter_sublist rfl
  | sweep =>
    obtain ⟨rfl, rfl⟩ := Prod.mk.inj (Option.some.inj taken)
    exact regular.forget List.filter_sublist rfl
  | clear =>
    obtain ⟨rfl, rfl⟩ := Prod.mk.inj (Option.some.inj taken)
    exact regular.forget (List.nil_sublist _) rfl
  | wait nanos =>
    obtain ⟨rfl, rfl⟩ := Prod.mk.inj (Option.some.inj taken)
    exact regular

theorem regular_of_trace (trace : Trace step? start turns desk)
    (regular : start.cache.entries.Regular) : desk.cache.entries.Regular :=
  trace.invariant regular regular_of_step

theorem setUp_of_new (trace : Trace step? ⟨now, .new verifier scheme ttl maxEntries⟩ turns desk) :
    desk.cache.verifier = verifier ∧ desk.cache.scheme = scheme ∧ desk.cache.entries.ttl = ttl :=
  have setUp := setUp_of_trace trace
  ⟨setUp.verifier, setUp.scheme, setUp.ttl⟩

/-- In every state the verifier was asked as often as a look-up missed, and there were as many
look-ups as tokens presented. -/
theorem counted_of_trace
    (trace : Trace step? ⟨now, .new verifier scheme ttl maxEntries⟩ turns desk) :
    desk.cache.verifications = desk.cache.entries.misses ∧
      desk.cache.entries.hits + desk.cache.entries.misses =
        (tokens scheme (raws turns)).length := by
  induction trace with
  | nil => exact ⟨rfl, rfl⟩
  | @snoc turns before after action output trace taken inductionHypothesis =>
    obtain ⟨asked, lookUps⟩ := inductionHypothesis
    rw [tokens_raws_snoc, List.length_append, ← lookUps]
    cases action with
    | resolve raw =>
      obtain ⟨rfl, rfl⟩ := Prod.mk.inj (Option.some.inj taken)
      obtain ⟨verifications, counted⟩ := (before.cache.resolving before.now raw).counted
      rw [(setUp_of_new trace).2.1] at counted
      refine ⟨?_, counted⟩
      rw [asked, Nat.add_comm] at verifications
      exact Nat.add_left_cancel verifications
    | invalidate | sweep | clear | wait =>
      obtain ⟨rfl, rfl⟩ := Prod.mk.inj (Option.some.inj taken)
      exact ⟨asked, rfl⟩

/-! ### What is known since when -/

/-- In a step a credential with the token of another one was presented, and the verifier was asked
and accepted it. -/
structure Accepts (verifier : Verifier) (scheme raw : String) (verified : Verified) (turn : Turn) :
    Prop where
  presents : ∃ other, turn.action = .resolve other ∧
    tokenIn scheme.toList other.toList = tokenIn scheme.toList raw.toList
  asked : turn.after.cache.verifications = turn.before.cache.verifications + 1
  accepted : verifier.verify turn.before.now (presented scheme raw) = .ok verified
  answered : turn.output = some (.ok verified.identity)

/-- In a step an entry was dropped to keep the bound. -/
structure Evicts (fingerprint : Fingerprint) (turn : Turn) : Prop where
  stored : (turn.before.cache.entries.entry? fingerprint).isSome
  dropped : turn.after.cache.entries.entry? fingerprint = none
  counted : turn.before.cache.entries.evictions < turn.after.cache.entries.evictions

/-- In a step neither all credentials nor those of an account were forgotten, and an entry was not
dropped to keep the bound. -/
structure Spares (fingerprint : Fingerprint) (subject : SubjectId) (turn : Turn) : Prop where
  noClear : turn.action ≠ .clear
  noInvalidation : turn.action ≠ .invalidate subject
  noEviction : ¬Evicts fingerprint turn

/-- The token that a credential presents was accepted at a moment of a run, and spared since. -/
def KnownSince (verifier : Verifier) (scheme : String) (turns : List Turn) (raw : String)
    (moment : Moment) (verified : Verified) : Prop :=
  ∃ earlier turn later, turns = earlier ++ turn :: later ∧ turn.before.now = moment ∧
    Accepts verifier scheme raw verified turn ∧
    ∀ step ∈ later, Spares (.of (presented scheme raw)) verified.identity.subject step

theorem KnownSince.snoc {moment : Moment} {verified : Verified} {turn : Turn}
    (known : KnownSince verifier scheme turns raw moment verified)
    (spares : Spares (.of (presented scheme raw)) verified.identity.subject turn) :
    KnownSince verifier scheme (turns ++ [turn]) raw moment verified := by
  obtain ⟨earlier, first, later, rfl, began, accepts, spared⟩ := known
  refine ⟨earlier, first, later ++ [turn], by simp, began, accepts, fun step member => ?_⟩
  rcases List.mem_append.mp member with old | last
  · exact spared step old
  · rw [List.mem_singleton.mp last]
    exact spares

/-- What is stored for a token that was accepted. -/
def remembering (scheme : String) (ttl : Span) (raw : String) (moment : Moment)
    (verified : Verified) : Fingerprint × Entry Identity :=
  (.of (presented scheme raw),
    ⟨verified.identity, moment, min verified.expiresAt (moment + ttl.nanos)⟩)

/-! ### Whatever is stored is known -/

/-- What is stored after a step was stored before and is spared, or was accepted just now. -/
theorem mem_entries_of_step (taken : desk.step? action = some (after, output))
    {pair : Fingerprint × Entry Identity} (member : pair ∈ after.cache.entries.entries) :
    (pair ∈ desk.cache.entries.entries ∧
      Spares pair.1 pair.2.value.subject ⟨desk, action, output, after⟩) ∨
    ∃ raw verified, tokenIn desk.cache.scheme.toList raw.toList ≠ [] ∧ action = .resolve raw ∧
      pair = remembering desk.cache.scheme desk.cache.entries.ttl raw desk.now verified ∧
      Accepts desk.cache.verifier desk.cache.scheme raw verified ⟨desk, action, output, after⟩ := by
  have noEviction : ¬Evicts pair.1 ⟨desk, action, output, after⟩ := fun evicts =>
    ExpiringMap.entry?_ne_none member evicts.dropped
  cases action with
  | resolve raw =>
    have spares : Spares pair.1 pair.2.value.subject ⟨desk, .resolve raw, output, after⟩ :=
      ⟨nofun, nofun, noEviction⟩
    obtain ⟨rfl, rfl⟩ := Prod.mk.inj (Option.some.inj taken)
    have kept := looked_sublist desk.cache desk.now raw
    have resolving := desk.cache.resolving desk.now raw
    generalize came : (desk.cache.resolve desk.now raw).1 = answered,
      led : (desk.cache.resolve desk.now raw).2 = cache at resolving member spares ⊢
    cases resolving with
    | malformed => exact Or.inl ⟨member, spares⟩
    | remembered => exact Or.inl ⟨kept.subset member, spares⟩
    | verified => exact Or.inl ⟨kept.subset member, spares⟩
    | untold => exact Or.inl ⟨kept.subset member, spares⟩
    | @stored verified expiry something missing accepted valid told =>
      rcases ExpiringMap.mem_store member with new | old
      · refine Or.inr ⟨raw, verified, something, rfl, ?_, ⟨raw, rfl, rfl⟩, rfl, accepted, rfl⟩
        rw [new, eq_of_later? told]
        rfl
      · exact Or.inl ⟨kept.subset old, spares⟩
  | invalidate subject =>
    obtain ⟨rfl, rfl⟩ := Prod.mk.inj (Option.some.inj taken)
    obtain ⟨stored, other⟩ := List.mem_filter.mp member
    refine Or.inl ⟨stored, nofun, ?_, noEviction⟩
    rintro same
    rw [Action.invalidate.inj same] at other
    simp at other
  | sweep =>
    obtain ⟨rfl, rfl⟩ := Prod.mk.inj (Option.some.inj taken)
    exact Or.inl ⟨(List.mem_filter.mp member).1, nofun, nofun, noEviction⟩
  | clear =>
    obtain ⟨rfl, rfl⟩ := Prod.mk.inj (Option.some.inj taken)
    cases member
  | wait nanos =>
    obtain ⟨rfl, rfl⟩ := Prod.mk.inj (Option.some.inj taken)
    exact Or.inl ⟨member, nofun, nofun, noEviction⟩

/-- Whatever is stored after a run was accepted in it, and spared since. -/
theorem known_of_mem (trace : Trace step? ⟨now, .new verifier scheme ttl maxEntries⟩ turns desk)
    {pair : Fingerprint × Entry Identity} (member : pair ∈ desk.cache.entries.entries) :
    ∃ raw moment verified, presented scheme raw ∈ tokens scheme (raws turns) ∧
      pair = remembering scheme ttl raw moment verified ∧ moment ≤ desk.now ∧
      KnownSince verifier scheme turns raw moment verified := by
  induction trace with
  | nil => cases member
  | @snoc turns before after action output trace taken inductionHypothesis =>
    obtain ⟨sameVerifier, sameScheme, sameTtl⟩ := setUp_of_new trace
    have passed := le_now_of_step taken
    simp only [tokens_raws_snoc]
    rcases mem_entries_of_step taken member with
      ⟨old, spares⟩ | ⟨raw, verified, something, rfl, new⟩
    · obtain ⟨raw, moment, verified, present, rfl, earlier, known⟩ := inductionHypothesis old
      exact ⟨raw, moment, verified, List.mem_append_left _ present, rfl,
        Int.le_trans earlier passed, known.snoc spares⟩
    · rw [sameScheme, sameTtl, sameVerifier] at new
      rw [sameScheme] at something
      have present : presented scheme raw ∈ tokens scheme [raw] := List.mem_map_of_mem
        (List.mem_filter.mpr ⟨List.mem_cons_self, decide_eq_true something⟩)
      have known : KnownSince verifier scheme
          (turns ++ [⟨before, .resolve raw, output, after⟩]) raw before.now verified :=
        ⟨turns, _, [], rfl, rfl, new.2, fun step member => by cases member⟩
      exact ⟨raw, before.now, verified, List.mem_append_right _ present, new.1, passed, known⟩

/-! ### Whatever is known is stored -/

/-- What was accepted in a step and is valid for some time is stored after it. -/
theorem mem_of_accepts (taken : desk.step? action = some (after, output)) {verified : Verified}
    (accepts : Accepts desk.cache.verifier desk.cache.scheme raw verified
      ⟨desk, action, output, after⟩) (valid : desk.now < verified.expiresAt) :
    remembering desk.cache.scheme desk.cache.entries.ttl raw desk.now verified ∈
      after.cache.entries.entries := by
  obtain ⟨other, rfl, same⟩ := accepts.presents
  have alike : presented desk.cache.scheme other = presented desk.cache.scheme raw := by
    rw [presented, presented, same]
  have asked := accepts.asked
  have answered := accepts.answered
  have accepted := accepts.accepted
  rw [← alike] at accepted
  obtain ⟨rfl, rfl⟩ := Prod.mk.inj (Option.some.inj taken)
  have resolving := desk.cache.resolving desk.now other
  simp only at asked answered accepted
  generalize (desk.cache.resolve desk.now other).1 = result,
    (desk.cache.resolve desk.now other).2 = cache at resolving asked answered ⊢
  cases resolving with
  | malformed => cases answered
  | remembered => exact absurd asked (Nat.ne_of_lt (Nat.lt_succ_self _))
  | verified something missing came passed =>
    have expired := passed verified (came.symm.trans accepted)
    exact absurd valid (Int.not_lt.mpr expired)
  | untold => cases answered
  | @stored found expiry something missing came validFound told =>
    obtain rfl := Except.ok.inj (came.symm.trans accepted)
    have stored := ExpiringMap.mem_entries_of_found (ExpiringMap.store_found
      (desk.cache.looked desk.now other) (.of (presented desk.cache.scheme other))
      ⟨found.identity, desk.now, min found.expiresAt expiry⟩)
    rw [eq_of_later? told, alike] at stored
    rw [alike, eq_of_later? told]
    exact stored

/-- What is live and spared in a step stays stored. -/
theorem mem_of_spares (taken : desk.step? action = some (after, output))
    (regular : desk.cache.entries.Regular) {pair : Fingerprint × Entry Identity}
    (member : pair ∈ desk.cache.entries.entries) (live : desk.now < pair.2.expiresAt)
    (spares : Spares pair.1 pair.2.value.subject ⟨desk, action, output, after⟩) :
    pair ∈ after.cache.entries.entries := by
  have present := ExpiringMap.mem_live.mpr ⟨member, live⟩
  cases action with
  | resolve raw =>
    obtain ⟨rfl, rfl⟩ := Prod.mk.inj (Option.some.inj taken)
    rcases (desk.cache.resolving desk.now raw).mem_or_evicted regular present with
      kept | ⟨dropped, evicted⟩
    · exact kept
    · refine absurd ⟨?_, dropped, evicted⟩ spares.noEviction
      exact Option.isSome_iff_ne_none.mpr (ExpiringMap.entry?_ne_none member)
  | invalidate subject =>
    obtain ⟨rfl, rfl⟩ := Prod.mk.inj (Option.some.inj taken)
    refine List.mem_filter.mpr ⟨member, ?_⟩
    have other : pair.2.value.subject ≠ subject := fun same =>
      spares.noInvalidation (congrArg Action.invalidate same.symm)
    simpa using other
  | sweep =>
    obtain ⟨rfl, rfl⟩ := Prod.mk.inj (Option.some.inj taken)
    exact present
  | clear => exact absurd rfl spares.noClear
  | wait nanos =>
    obtain ⟨rfl, rfl⟩ := Prod.mk.inj (Option.some.inj taken)
    exact member

/-- What is spared in a whole run stays stored as long as it is live. -/
theorem mem_of_trace (trace : Trace step? start turns desk) (regular : start.cache.entries.Regular)
    {pair : Fingerprint × Entry Identity} (member : pair ∈ start.cache.entries.entries)
    (live : desk.now < pair.2.expiresAt)
    (spared : ∀ step ∈ turns, Spares pair.1 pair.2.value.subject step) :
    pair ∈ desk.cache.entries.entries := by
  induction trace with
  | nil => exact member
  | @snoc turns before after action output trace taken inductionHypothesis =>
    have earlier := Int.lt_of_le_of_lt (le_now_of_step taken) live
    have still := inductionHypothesis earlier fun step old =>
      spared step (List.mem_append_left _ old)
    exact mem_of_spares taken (regular_of_trace trace regular) still earlier
      (spared _ (List.mem_append_right _ List.mem_cons_self))

theorem mem_of_known (trace : Trace step? ⟨now, .new verifier scheme ttl maxEntries⟩ turns desk)
    {moment : Moment} {verified : Verified}
    (known : KnownSince verifier scheme turns raw moment verified) (past : moment ≤ desk.now)
    (valid : desk.now < min verified.expiresAt (moment + ttl.nanos)) :
    remembering scheme ttl raw moment verified ∈ desk.cache.entries.entries := by
  obtain ⟨earlier, turn, later, rfl, rfl, accepts, spared⟩ := known
  obtain ⟨begun, taken, rest⟩ := trace.split
  obtain ⟨sameVerifier, sameScheme, sameTtl⟩ := setUp_of_new begun
  have regular := regular_of_step taken (regular_of_trace begun (.new ttl maxEntries))
  refine mem_of_trace rest regular ?_ valid spared
  rw [← sameVerifier, ← sameScheme] at accepts
  have early : turn.before.now < verified.expiresAt :=
    Int.lt_of_le_of_lt past (Int.lt_of_lt_of_le valid (Int.min_le_left _ _))
  have stored := mem_of_accepts taken accepts early
  rw [sameScheme, sameTtl] at stored
  exact stored

/-- A token that the verifier accepts is known once it was presented, however long ago. -/
theorem exists_known (ttl : Span) (maxEntries : Nat) {verified : Verified}
    (something : tokenIn scheme.toList raw.toList ≠ [])
    (accepted : verifier.verify now (presented scheme raw) = .ok verified)
    (told : (later? now ttl).isSome) (nanos : Nat) :
    ∃ turns desk, Trace step? ⟨now, .new verifier scheme ttl maxEntries⟩ turns desk ∧
      turns.map (·.action) = [.resolve raw, .wait nanos] ∧ raws turns = [raw] ∧
      desk.now = now + nanos ∧ KnownSince verifier scheme turns raw now verified := by
  let start : Desk := ⟨now, .new verifier scheme ttl maxEntries⟩
  let next : Desk := { start with cache := (start.cache.resolve now raw).2 }
  have fresh : start.cache.entries.live? now (.of (presented start.cache.scheme raw)) = none := rfl
  obtain ⟨letIn, asked⟩ := resolve_of_missing fresh something accepted told
  refine ⟨[⟨start, .resolve raw, (start.cache.resolve now raw).1, next⟩,
    ⟨next, .wait nanos, none, { next with now := now + nanos }⟩], _,
    .cons rfl (.cons rfl .nil), rfl, rfl, rfl, [], _, _, rfl, rfl,
    ⟨⟨raw, rfl, rfl⟩, asked, accepted, letIn⟩, fun step member => ?_⟩
  rw [List.mem_singleton.mp member]
  exact ⟨nofun, nofun, fun evicts => absurd evicts.counted (Nat.lt_irrefl _)⟩

/-! ### When the verifier is not asked -/

/-- The verifier is not asked exactly when the token is remembered. -/
theorem unasked_iff_live {identity : Identity} :
    ((desk.cache.resolve desk.now raw).1 = some (.ok identity) ∧
      (desk.cache.resolve desk.now raw).2.verifications = desk.cache.verifications) ↔
    tokenIn desk.cache.scheme.toList raw.toList ≠ [] ∧
      desk.cache.entries.live? desk.now (.of (presented desk.cache.scheme raw)) =
        some identity := by
  have resolving := desk.cache.resolving desk.now raw
  generalize (desk.cache.resolve desk.now raw).1 = result,
    (desk.cache.resolve desk.now raw).2 = cache at resolving ⊢
  have asks : ∀ {count : Nat}, count + 1 ≠ count := fun {count} => Nat.succ_ne_self count
  cases resolving with
  | malformed nothing => exact ⟨nofun, fun known => absurd nothing known.1⟩
  | remembered something live =>
    rw [live]
    constructor
    · rintro ⟨said, -⟩
      exact ⟨something, congrArg some (Except.ok.inj (Option.some.inj said))⟩
    · rintro ⟨-, same⟩
      rw [Option.some.inj same]
      exact ⟨rfl, rfl⟩
  | verified something missing | stored something missing | untold something missing =>
    rw [missing]
    exact ⟨fun unasked => absurd unasked.2 asks, nofun⟩

/-- A token that was accepted is not empty. -/
theorem something_of_accepts (taken : desk.step? action = some (after, output))
    {verified : Verified}
    (accepts : Accepts verifier desk.cache.scheme raw verified ⟨desk, action, output, after⟩) :
    tokenIn desk.cache.scheme.toList raw.toList ≠ [] := by
  obtain ⟨other, rfl, same⟩ := accepts.presents
  rw [← same]
  have answered := accepts.answered
  obtain ⟨rfl, rfl⟩ := Prod.mk.inj (Option.some.inj taken)
  have resolving := desk.cache.resolving desk.now other
  simp only at answered
  generalize (desk.cache.resolve desk.now other).1 = result,
    (desk.cache.resolve desk.now other).2 = cache at resolving answered
  cases resolving with
  | malformed => cases answered
  | remembered something | verified something | stored something | untold something =>
    exact something

theorem unasked_of_known (trace : Trace step? ⟨now, .new verifier scheme ttl maxEntries⟩ turns desk)
    {moment : Moment} {verified : Verified}
    (known : KnownSince verifier scheme turns raw moment verified) (past : moment ≤ desk.now)
    (valid : desk.now < min verified.expiresAt (moment + ttl.nanos)) :
    (desk.cache.resolve desk.now raw).1 = some (.ok verified.identity) ∧
      (desk.cache.resolve desk.now raw).2.verifications = desk.cache.verifications := by
  have stored := mem_of_known trace known past valid
  have regular := regular_of_trace trace (.new ttl maxEntries)
  rw [unasked_iff_live, (setUp_of_new trace).2.1]
  constructor
  · obtain ⟨earlier, turn, later, rfl, -, accepts, -⟩ := known
    obtain ⟨begun, taken, -⟩ := trace.split
    obtain ⟨-, sameScheme, -⟩ := setUp_of_new begun
    rw [← sameScheme] at accepts ⊢
    exact something_of_accepts taken accepts
  · exact regular.live?_eq_some_iff.mpr ⟨_, ExpiringMap.mem_live.mpr ⟨stored, valid⟩, rfl⟩

theorem known_of_unasked (trace : Trace step? ⟨now, .new verifier scheme ttl maxEntries⟩ turns desk)
    (unmistakable : ∀ other ∈ tokens scheme (raws turns),
      Fingerprint.of other = .of (presented scheme raw) → other = presented scheme raw)
    {identity : Identity}
    (unasked : (desk.cache.resolve desk.now raw).1 = some (.ok identity) ∧
      (desk.cache.resolve desk.now raw).2.verifications = desk.cache.verifications) :
    ∃ moment verified, KnownSince verifier scheme turns raw moment verified ∧
      verified.identity = identity ∧ moment ≤ desk.now ∧
      desk.now < min verified.expiresAt (moment + ttl.nanos) := by
  rw [unasked_iff_live, (setUp_of_new trace).2.1] at unasked
  obtain ⟨entry, found, live, rfl⟩ := ExpiringMap.live?_eq_some_iff.mp unasked.2
  obtain ⟨other, moment, verified, present, stored, past, known⟩ :=
    known_of_mem trace (ExpiringMap.mem_entries_of_found found)
  obtain ⟨fingerprints, rfl⟩ := Prod.mk.inj stored
  have same := unmistakable _ present fingerprints.symm
  refine ⟨moment, verified, ?_, rfl, past, live⟩
  -- What was accepted was presented with another credential, but with the same token.
  obtain ⟨earlier, turn, later, split, began, accepts, spared⟩ := known
  rw [same] at spared
  obtain ⟨first, acts, alike⟩ := accepts.presents
  refine ⟨earlier, turn, later, split, began, ⟨⟨first, acts, ?_⟩, accepts.asked, ?_,
    accepts.answered⟩, spared⟩
  · exact alike.trans (String.ofList_injective same)
  · rw [← same]
    exact accepts.accepted

/-- When the verifier is not asked. After whatever has happened to a cache, whoever presents a
credential is let in without asking the verifier exactly when its token was verified and accepted
before, is still within the time to live and its own expiry, and was spared since: neither all
credentials nor those of its account were forgotten, and it was not dropped to keep the bound. No
token presented before may be mistaken for this one. The verifier was asked exactly as often as a
look-up missed, there were as many look-ups as tokens presented, and whoever is turned away changes
no live entry. -/
theorem unasked_iff_known
    (trace : Trace step? ⟨now, .new verifier scheme ttl maxEntries⟩ turns desk) (raw : String) :
    ((∀ other ∈ tokens scheme (raws turns),
        Fingerprint.of other = .of (presented scheme raw) → other = presented scheme raw) →
      ∀ identity,
        ((desk.cache.resolve desk.now raw).1 = some (.ok identity) ∧
          (desk.cache.resolve desk.now raw).2.verifications = desk.cache.verifications) ↔
        ∃ moment verified, KnownSince verifier scheme turns raw moment verified ∧
          verified.identity = identity ∧ moment ≤ desk.now ∧
          desk.now < min verified.expiresAt (moment + ttl.nanos)) ∧
    desk.cache.verifications = desk.cache.entries.misses ∧
    desk.cache.entries.hits + desk.cache.entries.misses = (tokens scheme (raws turns)).length ∧
    ∀ error, (desk.cache.resolve desk.now raw).1 = some (.error error) →
      (desk.cache.resolve desk.now raw).2.entries.live desk.now =
        desk.cache.entries.live desk.now := by
  obtain ⟨asked, lookUps⟩ := counted_of_trace trace
  refine ⟨fun unmistakable identity => ⟨known_of_unasked trace unmistakable, ?_⟩,
    asked, lookUps, ?_⟩
  · rintro ⟨moment, verified, known, rfl, past, valid⟩
    exact unasked_of_known trace known past valid
  · intro error turnedAway
    have resolving := desk.cache.resolving desk.now raw
    rw [turnedAway] at resolving
    exact resolving.live_of_error (regular_of_trace trace (.new ttl maxEntries))

/-- A token of an account that is valid for an hour. -/
def hourly : String :=
  "eyJ0eXAiOiJKV1QiLCJhbGciOiJIUzI1NiJ9." ++
    "eyJzdWIiOiJhIiwidXNlcklkIjo3LCJuaWNrbmFtZSI6ImIiLCJpYXQiOjAsImV4cCI6MzYwMH0." ++
    "s1tA2jRzM008oLm3G-RsgFM7HStOAY2NoeD0BCxk_xk"

theorem hourly_accepted :
    (Verifier.verify ⟨.hs256, [1, 1, 1, 1]⟩ 5 (presented "Bearer " hourly)).toOption.any
      fun verified => 5 + 1000000000 < verified.expiresAt := by decide +kernel

/-- A token that is presented twice, a second apart, is verified the first time only. -/
theorem unasked_iff_known_again :
    ∃ turns desk identity, Trace step? ⟨5, .new ⟨.hs256, [1, 1, 1, 1]⟩ "Bearer "
        ⟨300000000000, by decide⟩ 10⟩ turns desk ∧
      turns.map (·.action) = [.resolve hourly, .wait 1000000000] ∧
      (desk.cache.resolve desk.now hourly).1 = some (.ok identity) ∧
      (desk.cache.resolve desk.now hourly).2.verifications = desk.cache.verifications := by
  have something : tokenIn "Bearer ".toList hourly.toList ≠ [] := by decide +kernel
  have accepted := hourly_accepted
  cases came : Verifier.verify ⟨.hs256, [1, 1, 1, 1]⟩ 5 (presented "Bearer " hourly) with
  | error error =>
    rw [came] at accepted
    cases accepted
  | ok verified =>
    rw [came] at accepted
    obtain ⟨turns, desk, trace, actions, presents, clock, known⟩ :=
      exists_known ⟨300000000000, by decide⟩ 10 something came (by decide) 1000000000
    refine ⟨turns, desk, verified.identity, trace, actions,
      ((unasked_iff_known trace hourly).1 ?_ verified.identity).mpr
        ⟨5, verified, known, rfl, ?_, ?_⟩⟩
    · intro other present _
      rw [presents] at present
      obtain ⟨one, kept, rfl⟩ := List.mem_map.mp present
      rw [List.mem_singleton.mp (List.mem_filter.mp kept).1]
    · rw [clock]
      decide
    · rw [clock]
      exact Int.lt_min.mpr ⟨of_decide_eq_true accepted, by decide⟩

end Desk

end UserDashboard.Credential
