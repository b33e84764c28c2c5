/-
This file proves that callers are served as who they are, and are turned away otherwise.

Whatever callers ask for, their credential is looked at first. Without one that the verifier accepts
just then the answer is a refusal, and nothing has happened but that an entry may have been dropped
which was no longer live. With one, the account is that of the verified identity throughout: it is
the one that is shown, whose dashboard and listings are given out, and whose entries are dropped.
What a dashboard shows besides is nothing but what the catalog said about this account.
-/

import UserDashboard.Proofs.Catalog.Waiting
import UserDashboard.Proofs.Service.History

namespace UserDashboard

open Cache Catalog Credential Dashboard Http Settings Time

/-- A member of the body of a response. -/
def Http.Response.member (response : Response) (name : String) : Json :=
  (response.body.getD .null).get name

namespace Service

/-- A request asks for something at its path and by the method of callers. -/
structure AsksFor (request : Request) (route : Route) : Prop where
  path : request.path = route.path
  method : route.callerMethod? = some request.method

/-- The credential of a request is missing, cannot be read, or is empty without its scheme. -/
def PresentsNothing (scheme : String) (request : Request) : Prop :=
  credentialOf? request = none ∨ ∃ raw, credentialOf? request = some raw ∧
    CredentialCache.tokenIn scheme.toList raw.toList = []

namespace Core

variable {core after : Core} {request : Request} {route : Route} {raw : String}
  {identity : Identity} {episodes : List Episode}

/-- A request is refused with a status. -/
structure Refuses (response : Response) (status : Nat) : Prop where
  status : response.status = status
  failure : response.member "success" = .bool false

/-- Nothing has happened to the service but to credentials that were no longer live. -/
structure Untouched (core after : Core) : Prop where
  runner : after.runner = core.runner
  live : after.credentials.entries.live core.now = core.credentials.entries.live core.now

/-- The service after it has looked at a credential. -/
def resolved (core : Core) (raw : String) : Core :=
  { core with credentials := (core.credentials.resolve core.now raw).2 }

/-- A dashboard is the placeholder, or shows what the catalog said about an account in a history. -/
def Shows (episodes : List Episode) (core : Core) (subject : SubjectId) (snapshot : Snapshot) :
    Prop :=
  snapshot = .placeholder core.now ∨
    Aggregation.MadeFor (· ∈ episodes.map (·.before.runner.catalog))
      core.runner.state.recentLimit subject snapshot

/-- What a caller is told, and what is done, when the service knows who they are. -/
def Serves (episodes : List Episode) (core : Core) (identity : Identity) (data : Json)
    (after : Core) : Route → Prop
  | .profile => data = identity.toJson ∧ after = core
  | .dashboard | .refreshedDashboard =>
    (∃ snapshot, Shows episodes core identity.subject snapshot ∧
      (core.runner.state.snapshot identity.subject).1 = snapshot ∧
      data.get "profile" = identity.toJson ∧ snapshot.toJson? = some (data.get "data")) ∧
    Aggregation.OnlyFor identity.subject core.runner.state after.runner.state ∧
    after.runner.catalog = core.runner.catalog ∧ after.credentials = core.credentials
  | .listings =>
    (∃ outcome, ((core.runner.catalog.listings.plan identity.subject).fetch core.now
        core.listingTimeout).2.bind (·.outcome? [] some) = some outcome ∧
      data.get "count" = .nat outcome.value.length ∧
      data.get "products" = .array (outcome.value.map Listing.toJson)) ∧
    after.credentials = core.credentials
  | .forgetCredentials =>
    data.get "removed" = .nat (core.credentials.entries.entries.countP
      fun pair => pair.2.value.subject = identity.subject) ∧
    after.credentials.entries.entries = core.credentials.entries.entries.filter
      (fun pair => pair.2.value.subject ≠ identity.subject) ∧
    after.runner = core.runner
  | .forgetDashboard =>
    (∀ stored ∈ after.runner.state.stores, stored.1 ≠ identity.subject) ∧
    (∀ flight ∈ after.runner.state.flights, flight.1 ≠ identity.subject) ∧
    Aggregation.OnlyFor identity.subject core.runner.state after.runner.state ∧
    after.runner.catalog = core.runner.catalog ∧ after.credentials = core.credentials
  | .health | .notice _ => False

/-- Serving a caller came to an answer that says so, and to nothing but what is theirs. -/
def Granted (episodes : List Episode) (core : Core) (identity : Identity) (route : Route)
    (result : Option Response × Core) : Prop :=
  ∃ response, result.1 = some response ∧ response.status = 200 ∧
    response.member "success" = .bool true ∧
    Serves episodes core identity (response.member "data") result.2 route

/-! ### Routes -/

theorem ofPath?_path (route : Route) : Route.ofPath? route.path = some route := by
  cases route with
  | notice kind => cases kind <;> decide
  | _ => decide

/-- What callers ask for is answered at its route. -/
theorem handle_of_asks (asks : AsksFor request route) :
    core.handle request = ((core.answer route request).1.map
      fun response => response.withHeader "access-control-allow-origin" "*",
      (core.answer route request).2) := by
  obtain ⟨path, method⟩ := asks
  have plain : request.method ≠ "OPTIONS" ∧ request.method ≠ "HEAD" ∧
      route.methods.contains request.method := by
    cases route with
    | health | notice => cases method
    | _ =>
      rw [← Option.some.inj method]
      decide
  obtain ⟨noOptions, noHead, allowed⟩ := plain
  unfold handle Core.route
  simp only [path, ofPath?_path, if_neg noOptions, if_neg noHead, if_pos allowed]

theorem handle_of_error {error : CredentialError} (asks : AsksFor request route)
    (turnedAway : core.authenticate request = (some (.error error), after)) :
    core.handle request = (some ((Response.refused error).withHeader
      "access-control-allow-origin" "*"), after) := by
  rw [handle_of_asks asks, answer_of_caller asks.method, turnedAway]
  rfl

theorem handle_of_ok (asks : AsksFor request route)
    (known : core.authenticate request = (some (.ok identity), after)) :
    core.handle request = ((after.serve identity route).1.map
      fun response => response.withHeader "access-control-allow-origin" "*",
      (after.serve identity route).2) := by
  rw [handle_of_asks asks, answer_of_caller asks.method, known]

/-! ### What is known after a history -/

variable {start : Moment} {settings : ServiceSettings} {catalog : Scripted} {chance : Chance}
  {reports : Nat → FetchKind → String}

/-- What is known of the credentials after a history. -/
structure Guarded (settings : ServiceSettings) (episodes : List Episode) (core : Core) : Prop where
  faithful : core.credentials.Faithful
    (· ∈ CredentialCache.tokens core.credentials.scheme (credentialsIn episodes))
  regular : core.credentials.entries.Regular
  verifier : core.credentials.verifier = verifierOf settings.auth
  scheme : core.credentials.scheme = settings.auth.scheme
  ttl : core.credentials.entries.ttl = settings.auth.cacheTtl

theorem Lived.guarded (lived : Lived start settings reports episodes core) :
    Guarded settings episodes core := by
  obtain ⟨turns, trace, known⟩ := lived.desk
  obtain ⟨verifier, scheme, ttl⟩ := Desk.setUp_of_new trace
  refine ⟨?_, Desk.regular_of_trace trace (.new _ _), verifier, scheme, ttl⟩
  rw [show core.credentials.scheme = settings.auth.scheme from scheme]
  exact (Desk.faithful_of_trace rfl trace).mono fun token =>
    CredentialCache.tokens_subset known

/-- A dashboard that is given out shows nothing but what the catalog said about the account. -/
theorem Lived.shows (lived : Lived start settings reports episodes core) (subject : SubjectId) :
    Shows episodes core subject (core.runner.state.snapshot subject).1 := by
  obtain ⟨moves, trace, fair⟩ := lived.moves
  cases hit : (core.runner.state.cached subject).1 with
  | none =>
    rw [Aggregation.snapshot_of_none hit]
    exact Or.inl rfl
  | some snapshot =>
    rw [Aggregation.snapshot_of_some hit]
    have live : core.runner.state.snapshots.entries.live? core.runner.state.now subject =
        some snapshot := (ExpiringMap.get_fst _ _ _).symm.trans hit
    obtain ⟨entry, found, -, rfl⟩ := ExpiringMap.live?_eq_some_iff.mp live
    have stored : (subject, entry) ∈ core.runner.state.stores :=
      ExpiringMap.mem_entries_of_found found
    have told : ∀ move ∈ moves, ∃ catalog ∈ episodes.map (·.before.runner.catalog),
        move.action.Fair catalog move.before := fun move member =>
      have ⟨episode, present, fair⟩ := fair move member
      ⟨_, List.mem_map_of_mem present, fair⟩
    have made := Aggregation.madeFor_of_stored (.new _ _ _ _ _) rfl rfl trace told stored
    rw [← (Aggregation.onward_of_trace trace).limit] at made
    exact Or.inr made

/-! ### What callers are told -/

theorem serve_dashboard {snapshot : Snapshot} {written : Json}
    (shown : (core.runner.state.snapshot identity.subject).1 = snapshot)
    (told : snapshot.toJson? = some written) :
    core.dashboard identity = (some (.success "Dashboard" (.object
      [("profile", identity.toJson), ("data", written), ("responseTimeMs", .nat 0)])),
      { core with runner := (core.runner.snapshot identity.subject).2 }) := by
  have same : (core.runner.snapshot identity.subject).1 = snapshot := shown
  unfold dashboard
  simp only [same, told, Option.map_some]

/-- The dashboard of a caller is their own, and nothing is done for others. -/
theorem granted_dashboard (shows : Shows episodes core identity.subject
      (core.runner.state.snapshot identity.subject).1)
    (written : ((core.runner.state.snapshot identity.subject).1.toJson?).isSome) :
    Granted episodes core identity .dashboard (core.dashboard identity) := by
  obtain ⟨json, told⟩ := Option.isSome_iff_exists.mp written
  obtain ⟨state, catalog⟩ := core.runner.snapshot_same identity.subject
  rw [serve_dashboard rfl told]
  refine ⟨_, rfl, rfl, rfl, ⟨_, shows, rfl, rfl, told⟩, ?_, catalog, rfl⟩
  rw [state]
  exact Aggregation.onlyFor_snapshot _ _

theorem granted_refreshedDashboard (shows : Shows episodes core identity.subject
      (core.runner.state.snapshot identity.subject).1)
    (written : ((core.runner.state.snapshot identity.subject).1.toJson?).isSome) :
    Granted episodes core identity .refreshedDashboard (core.refreshedDashboard identity) := by
  have looked := Aggregation.onlyFor_cached core.runner.state identity.subject
  cases hit : (core.runner.state.cached identity.subject).1 with
  | some snapshot =>
    rw [Aggregation.snapshot_of_some hit] at shows written
    obtain ⟨json, told⟩ := Option.isSome_iff_exists.mp written
    have found : (core.runner.cached identity.subject).1 = some snapshot := hit
    unfold refreshedDashboard
    simp only [found, told, Option.map_some]
    refine ⟨_, rfl, rfl, rfl, ⟨snapshot, shows, ?_, rfl, told⟩, looked, rfl, rfl⟩
    rw [Aggregation.snapshot_of_some hit]
  | none =>
    -- The dashboard is looked up once more, and is missing again.
    let next : Core := { core with runner := (core.runner.cached identity.subject).2 }
    have again : (next.runner.state.snapshot identity.subject).1 =
        (core.runner.state.snapshot identity.subject).1 := Aggregation.snapshot_of_cached hit
    have showsNext : Shows episodes next identity.subject
        (next.runner.state.snapshot identity.subject).1 := by
      rw [again]
      exact shows
    have writtenNext : ((next.runner.state.snapshot identity.subject).1.toJson?).isSome := by
      rw [again]
      exact written
    obtain ⟨response, served, status, success, ⟨snapshot, shown, same, told⟩, only, others⟩ :=
      granted_dashboard showsNext writtenNext
    have missed : (core.runner.cached identity.subject).1 = none := hit
    unfold refreshedDashboard
    simp only [missed]
    exact ⟨response, served, status, success, ⟨snapshot, shown, again.symm.trans same, told⟩,
      looked.trans only, others⟩

/-- The listings of a caller are those that the catalog tells of their account. -/
theorem granted_listings (attributed : core.runner.Attributed)
    (safe : (core.runner.catalog.listings.plan identity.subject).course ≠ .crash) :
    Granted episodes core identity .listings (core.listings identity) := by
  obtain ⟨outcome, came⟩ := Plan.exists_outcome safe core.now core.listingTimeout []
  have told : (core.runner.fetchListings identity.subject core.listingTimeout).1 = some outcome :=
    (core.runner.fetchListings_fst attributed identity.subject core.listingTimeout).trans came
  unfold listings
  simp only [told, Option.map_some]
  exact ⟨_, rfl, rfl, rfl, ⟨outcome, came, rfl, rfl⟩, rfl⟩

/-- The credentials that are forgotten are those of the caller. -/
theorem granted_forgetCredentials :
    Granted episodes core identity .forgetCredentials (core.serve identity .forgetCredentials) := by
  let entries := core.credentials.entries.entries
  have kept : entries.filter (fun pair => !decide (pair.2.value.subject = identity.subject)) =
      entries.filter fun pair => pair.2.value.subject ≠ identity.subject := by
    simp only [ne_eq, decide_not]
  refine ⟨_, rfl, rfl, rfl, ?_, kept, rfl⟩
  show Json.nat (entries.length - (entries.filter _).length) = .nat (entries.countP _)
  have split := List.length_eq_countP_add_countP
    (fun pair => decide (pair.2.value.subject = identity.subject)) (l := entries)
  rw [kept, ← List.countP_eq_length_filter]
  simp only [decide_eq_true_eq] at split
  simp only [ne_eq]
  rw [split, Nat.add_sub_cancel]

/-- The dashboard that is forgotten is the one of the caller. -/
theorem granted_forgetDashboard (attributed : core.runner.Attributed) :
    Granted episodes core identity .forgetDashboard (core.serve identity .forgetDashboard) := by
  obtain ⟨invalidated, catalog⟩ := core.runner.invalidate_same identity.subject
  have state : (core.serve identity .forgetDashboard).2.runner.state =
      core.runner.state.invalidate identity.subject := invalidated
  obtain ⟨noDashboard, noFlight⟩ :=
    Aggregation.none_of_invalidate core.runner.state identity.subject
  refine ⟨_, rfl, rfl, rfl, ?_, ?_, ?_, catalog, rfl⟩
  · rw [state]
    exact noDashboard
  · rw [state]
    exact noFlight
  · rw [state]
    exact Aggregation.onlyFor_invalidate attributed.orderly _

/-- Whoever is known is served as who they are. -/
theorem granted_serve (asked : route.callerMethod?.isSome) (attributed : core.runner.Attributed)
    (shows : Shows episodes core identity.subject
      (core.runner.state.snapshot identity.subject).1)
    (written : ((core.runner.state.snapshot identity.subject).1.toJson?).isSome)
    (safe : (core.runner.catalog.listings.plan identity.subject).course ≠ .crash) :
    Granted episodes core identity route (core.serve identity route) := by
  cases route with
  | profile => exact ⟨_, rfl, rfl, rfl, rfl, rfl⟩
  | dashboard => exact granted_dashboard shows written
  | refreshedDashboard => exact granted_refreshedDashboard shows written
  | listings => exact granted_listings attributed safe
  | forgetCredentials => exact granted_forgetCredentials
  | forgetDashboard => exact granted_forgetDashboard attributed
  | health | notice => cases asked

/-- Whoever is served, the credentials of others are kept. -/
theorem Serves.kept {data : Json} (serves : Serves episodes core identity data after route)
    {pair : Fingerprint × Entry Identity} (member : pair ∈ core.credentials.entries.entries)
    (other : pair.2.value.subject ≠ identity.subject) :
    pair ∈ after.credentials.entries.entries := by
  cases route with
  | profile =>
    rw [serves.2]
    exact member
  | dashboard | refreshedDashboard =>
    rw [serves.2.2.2]
    exact member
  | listings =>
    rw [serves.2]
    exact member
  | forgetCredentials =>
    rw [serves.2.1]
    exact List.mem_filter.mpr ⟨member, decide_eq_true other⟩
  | forgetDashboard =>
    rw [serves.2.2.2.2]
    exact member
  | health | notice => cases serves

/-! ### Who is turned away and who is let in -/

/-- No token presented in a history may be mistaken for the one that a credential presents. -/
def Unmistakable (scheme : String) (episodes : List Episode) (raw : String) : Prop :=
  ∀ other ∈ CredentialCache.tokens scheme (credentialsIn episodes),
    Fingerprint.of other = .of (CredentialCache.presented scheme raw) →
      other = CredentialCache.presented scheme raw

/-- Whoever presents nothing is turned away before anything else happens. -/
theorem authenticate_of_nothing (scheme : core.credentials.scheme = settings.auth.scheme)
    (nothing : PresentsNothing settings.auth.scheme request) :
    ∃ detail, core.authenticate request = (some (.error (.malformed detail)), core) := by
  rcases nothing with missing | ⟨raw, given, empty⟩
  · exact authenticate_of_none missing
  · refine ⟨"credential is empty", ?_⟩
    rw [authenticate_of_some given]
    unfold CredentialCache.resolve
    rw [scheme, empty]

/-- Whoever presents a token that the verifier does not accept is turned away, and no live entry
changes. -/
theorem authenticate_of_failure {error : TokenError} (guarded : Guarded settings episodes core)
    (given : credentialOf? request = some raw)
    (something : CredentialCache.tokenIn settings.auth.scheme.toList raw.toList ≠ [])
    (unmistakable : Unmistakable settings.auth.scheme episodes raw)
    (failed : (verifierOf settings.auth).verify core.now
      (CredentialCache.presented settings.auth.scheme raw) = .error error) :
    core.authenticate request = (some (.error (.ofToken error)), core.resolved raw) ∧
      Untouched core (core.resolved raw) := by
  have resolving := core.credentials.resolving core.now raw
  have answered : (core.credentials.resolve core.now raw).1 = some (.error (.ofToken error)) := by
    unfold Unmistakable at unmistakable
    rw [← guarded.scheme] at something unmistakable failed
    rw [← guarded.verifier] at failed
    exact guarded.faithful.refused resolving something unmistakable failed
  rw [authenticate_of_some given, answered]
  rw [answered] at resolving
  exact ⟨rfl, rfl, resolving.live_of_error guarded.regular⟩

/-- Whoever presents a token that the verifier accepts is let in as who they are. -/
theorem authenticate_of_success {verified : Verified} (guarded : Guarded settings episodes core)
    (given : credentialOf? request = some raw)
    (something : CredentialCache.tokenIn settings.auth.scheme.toList raw.toList ≠ [])
    (unmistakable : Unmistakable settings.auth.scheme episodes raw)
    (accepted : (verifierOf settings.auth).verify core.now
      (CredentialCache.presented settings.auth.scheme raw) = .ok verified)
    (told : (later? core.now settings.auth.cacheTtl).isSome) :
    core.authenticate request = (some (.ok verified.identity), core.resolved raw) := by
  have resolving := core.credentials.resolving core.now raw
  have answered : (core.credentials.resolve core.now raw).1 = some (.ok verified.identity) := by
    unfold Unmistakable at unmistakable
    rw [← guarded.scheme] at something unmistakable accepted
    rw [← guarded.verifier] at accepted
    rw [← guarded.ttl] at told
    rw [guarded.faithful.answer_eq resolving (fun _ => unmistakable) told,
      CredentialCache.verifyAfresh, if_neg something, accepted]
    rfl
  rw [authenticate_of_some given, answered]
  rfl

/-- Callers are served as who they are, or turned away. After whatever has happened to the service,
whoever asks for what is a caller's is refused with 400 if they present nothing, and with 401 and a
challenge if the verifier does not accept their token just then; either way nothing has happened but
to credentials that were no longer live. Otherwise the answer is 200, and what is told and done is
for the account of the verified identity and for no other one; the live credentials of others are
kept but for those that are dropped to keep the bound. No token presented before may be mistaken for
this one, and of those who are let in it is taken for granted that the clock can tell until when
their credential would be remembered, that their dashboard can be written, and that the catalog does
not break off when asked for their listings. -/
theorem callers_served_or_refused
    (trace : Trace step? (new start settings catalog chance) episodes core)
    (asks : AsksFor request route) :
    (PresentsNothing settings.auth.scheme request →
      ∃ response after, core.handle request = (some response, after) ∧ Refuses response 400 ∧
        Untouched core after) ∧
    ∀ raw, credentialOf? request = some raw →
      CredentialCache.tokenIn settings.auth.scheme.toList raw.toList ≠ [] →
      Unmistakable settings.auth.scheme episodes raw →
      (∀ error, (verifierOf settings.auth).verify core.now
          (CredentialCache.presented settings.auth.scheme raw) = .error error →
        ∃ response after, core.handle request = (some response, after) ∧ Refuses response 401 ∧
          ("www-authenticate", Response.challenge) ∈ response.headers ∧ Untouched core after) ∧
      ∀ verified, (verifierOf settings.auth).verify core.now
          (CredentialCache.presented settings.auth.scheme raw) = .ok verified →
        (later? core.now settings.auth.cacheTtl).isSome →
        ((core.runner.state.snapshot verified.identity.subject).1.toJson?).isSome →
        (core.runner.catalog.listings.plan verified.identity.subject).course ≠ .crash →
        ∃ response after, core.handle request = (some response, after) ∧
          response.status = 200 ∧ response.member "success" = .bool true ∧
          Serves episodes (core.resolved raw) verified.identity (response.member "data") after
            route ∧
          ∀ pair ∈ core.credentials.entries.live core.now,
            pair.2.value.subject ≠ verified.identity.subject →
              pair ∈ after.credentials.entries.entries ∨
                core.credentials.entries.evictions <
                  (core.resolved raw).credentials.entries.evictions := by
  have lived := lived_of_trace trace
  have guarded := lived.guarded
  constructor
  · intro nothing
    obtain ⟨detail, turnedAway⟩ := authenticate_of_nothing guarded.scheme nothing
    exact ⟨_, core, handle_of_error asks turnedAway, ⟨rfl, rfl⟩, rfl, rfl⟩
  intro raw given something unmistakable
  constructor
  · intro error failed
    obtain ⟨turnedAway, untouched⟩ :=
      authenticate_of_failure guarded given something unmistakable failed
    exact ⟨_, _, handle_of_error asks turnedAway, ⟨rfl, rfl⟩,
      List.mem_append_left _ (List.mem_append_right _ List.mem_cons_self), untouched⟩
  · intro verified accepted told written safe
    have known := authenticate_of_success guarded given something unmistakable accepted told
    have shows : Shows episodes (core.resolved raw) verified.identity.subject
        ((core.resolved raw).runner.state.snapshot verified.identity.subject).1 :=
      lived.shows verified.identity.subject
    have asked : route.callerMethod?.isSome := by
      rw [asks.method]
      rfl
    have attributed : (core.resolved raw).runner.Attributed := lived.attributed
    obtain ⟨response, served, status, success, serves⟩ :=
      granted_serve asked attributed shows written safe
    refine ⟨response.withHeader "access-control-allow-origin" "*", _, ?_, status, success,
      serves, fun pair present other => ?_⟩
    · rw [handle_of_ok asks known, served]
      rfl
    · have resolving := core.credentials.resolving core.now raw
      rcases resolving.mem_or_evicted guarded.regular present with kept | ⟨-, evicted⟩
      · exact Or.inl (serves.kept kept other)
      · exact Or.inr evicted

/-- After a request without a credential was refused, a caller with a token that is accepted is told
who they are. -/
theorem callers_served_or_refused_of_hourly :
    ∃ episodes core request response after identity,
      Trace step? (new 5 { auth := { secret := "\x01\x01\x01\x01" } } .new .plain) episodes core ∧
      (∃ anonymous, AsksFor anonymous .profile ∧ credentialOf? anonymous = none ∧
        episodes.map (·.action) = [.request anonymous]) ∧
      AsksFor request .profile ∧ credentialOf? request = some Desk.hourly ∧
      core.handle request = (some response, after) ∧ response.status = 200 ∧
      response.member "data" = Identity.toJson identity ∧ after.runner = core.runner := by
  let settings : ServiceSettings := { auth := { secret := "\x01\x01\x01\x01" } }
  let start : Core := new 5 settings .new .plain
  let anonymous : Request := ⟨"GET", "/api/users/profile", [], []⟩
  let request : Request :=
    ⟨"GET", "/api/users/profile", [("authorization", Desk.hourly.toUTF8.toList)], []⟩
  have trace : Trace step? start [⟨start, .request anonymous, (start.handle anonymous).1, start⟩]
      start := .snoc .nil rfl
  have asks : AsksFor request .profile := ⟨rfl, rfl⟩
  have given : credentialOf? request = some Desk.hourly := by decide +kernel
  have something : CredentialCache.tokenIn "Bearer ".toList Desk.hourly.toList ≠ [] := by
    decide +kernel
  have octets : "\x01\x01\x01\x01".toUTF8.toList = [1, 1, 1, 1] := by decide +kernel
  have secret : verifierOf settings.auth = ⟨.hs256, [1, 1, 1, 1]⟩ :=
    congrArg (Verifier.mk .hs256) octets
  have accepted := Desk.hourly_accepted
  cases came : Verifier.verify ⟨.hs256, [1, 1, 1, 1]⟩ 5
      (CredentialCache.presented "Bearer " Desk.hourly) with
  | error error =>
    rw [came] at accepted
    cases accepted
  | ok verified =>
    rw [← secret] at came
    have written : (Snapshot.placeholder 5).toJson?.isSome := by decide +kernel
    have safe : Course.answer ≠ .crash := by decide
    obtain ⟨response, after, served, status, -, ⟨data, same⟩, -⟩ :=
      ((callers_served_or_refused trace asks).2 Desk.hourly given something
        (fun other present => by cases present)).2 verified came (by decide) written safe
    refine ⟨_, _, _, _, _, verified.identity, trace, ⟨anonymous, ⟨rfl, rfl⟩, rfl, rfl⟩, asks, given,
      served, status, data, ?_⟩
    rw [same]
    rfl

end Core

end Service

end UserDashboard
