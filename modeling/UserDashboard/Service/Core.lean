/-
This file answers requests.

The service knows whoever presents a credential and shows them their own dashboard and listings,
nobody else's. Requests that are not authenticated change nothing but the counts of the credential
cache. Notices of the marketplace are always acknowledged, and those that can be read drop the
dashboards that they make out of date.

There is no answer at all when the clock cannot tell until when something would be remembered, when
the catalog breaks off during a request, or when a dashboard cannot be written.
-/

import UserDashboard.Credential.Cache
import UserDashboard.Dashboard.Runner
import UserDashboard.Http.MediaType
import UserDashboard.Http.Response
import UserDashboard.Json.Reader
import UserDashboard.Service.Route
import UserDashboard.Settings.Service

namespace UserDashboard.Service

open Cache Catalog Credential Dashboard Http Settings Time

/-- The service. -/
structure Core where
  /-- The credentials that it knows. -/
  credentials : CredentialCache
  /-- The dashboards and the refreshes under way. -/
  runner : Runner
  /-- How long whoever asks for listings waits for the catalog. -/
  listingTimeout : Span
  /-- How often what is out of date is dropped. -/
  sweepInterval : Span

namespace Core

/-- The verifier of credentials that some settings describe. -/
def verifierOf (settings : AuthSettings) : Verifier :=
  ⟨settings.algorithm, settings.secret.toUTF8.toList⟩

/-- A service that has seen nothing yet, with what is left to chance. -/
def new (start : Moment) (settings : ServiceSettings) (catalog : Scripted) (chance : Chance) :
    Core where
  credentials := CredentialCache.new (verifierOf settings.auth) settings.auth.scheme
    settings.auth.cacheTtl settings.auth.maxEntries.toNat
  runner := Runner.new
    (Aggregation.new start settings.dashboard.recentLimit.toNat settings.dashboard.deadline
      chance.reports
      (SnapshotCache.new settings.dashboard.snapshotTtl settings.dashboard.maxEntries.toNat))
    catalog settings.catalog.fetchTimeout chance.callFirst
  listingTimeout := settings.catalog.listingTimeout
  sweepInterval := settings.auth.sweepInterval

/-- The moment. -/
def now (core : Core) : Moment :=
  core.runner.now

/-! ### Authentication -/

/-- Whoever presents the credential of a request. -/
def authenticate (core : Core) (request : Request) :
    Option (Except CredentialError Identity) × Core :=
  match request.header? "authorization" with
  | none => (some (.error (.malformed "missing Authorization header")), core)
  | some value =>
    match Request.visibleText? value with
    | none => (some (.error (.malformed "Authorization header is not valid ASCII")), core)
    | some raw =>
      let (resolved, credentials) := core.credentials.resolve core.now raw
      (resolved, { core with credentials })

/-! ### Answers -/

/-- How the service is. -/
def health (core : Core) : Response :=
  let credentials := core.credentials.stats core.now
  let dashboards := core.runner.state.snapshots.stats core.now
  .success "Service is up" <| .object
    [("status", .string "UP"), ("service", .string "mini-carrot-user-service"),
      ("cache_total", .nat credentials.total), ("cache_active", .nat credentials.active),
      ("cache_expired", .nat credentials.expired), ("cache_hit_rate", .real credentials.hitRate),
      ("credentials", credentials.toJson), ("dashboard", dashboards.toJson),
      ("refreshes_in_flight", .nat core.runner.state.flights.length)]

/-- The dashboard of a caller, or a placeholder. -/
def dashboard (core : Core) (identity : Identity) : Option Response × Core :=
  let (snapshot, runner) := core.runner.snapshot identity.subject
  (snapshot.toJson?.map fun data => .success "Dashboard" <| .object
    [("profile", identity.toJson), ("data", data), ("responseTimeMs", .nat 0)],
    { core with runner })

/-- The dashboard of a caller, if it is remembered, and the usual answer otherwise. -/
def refreshedDashboard (core : Core) (identity : Identity) : Option Response × Core :=
  let (found, runner) := core.runner.cached identity.subject
  let core := { core with runner }
  match found with
  | some snapshot =>
    (snapshot.toJson?.map fun data => .success "Dashboard updated" <| .object
      [("profile", identity.toJson), ("data", data), ("cached", .bool true)], core)
  | none => core.dashboard identity

/-- The listings of a caller. -/
def listings (core : Core) (identity : Identity) : Option Response × Core :=
  let (outcome, runner) := core.runner.fetchListings identity.subject core.listingTimeout
  (outcome.map fun outcome => .success "Registered products" <| .object
    [("count", .nat outcome.value.length),
      ("products", .array (outcome.value.map Listing.toJson))], { core with runner })

/-- What the service does for a caller it knows. -/
def serve (core : Core) (identity : Identity) : Route → Option Response × Core
  | .profile => (some (.success "Profile" identity.toJson), core)
  | .dashboard => core.dashboard identity
  | .refreshedDashboard => core.refreshedDashboard identity
  | .listings => core.listings identity
  | .forgetCredentials =>
    let (removed, credentials) := core.credentials.invalidate identity.subject
    (some (.success "Credential cache invalidated" (.object [("removed", .nat removed)])),
      { core with credentials })
  | .forgetDashboard =>
    (some (.done "Dashboard cache invalidated"),
      { core with runner := core.runner.invalidate identity.subject })
  | .health => (some core.health, core)
  | .notice _ => (none, core)

/-! ### Notices -/

/-- The most octets of a body that is read. -/
def largestBody : Nat := 2 * 1024 * 1024

/-- The notice that a request brings, if it can be read. -/
def noticeOf? (kind : NoticeKind) (request : Request) : Option Notice :=
  if request.saysJson ∧ request.body.length ≤ largestBody then
    (Json.parseOctets? request.body).bind (Notice.ofJson? kind)
  else none

/-- Drops the dashboards that a notice makes out of date. -/
def take (core : Core) (notice : Notice) : Core :=
  { core with
    runner := notice.subjects.foldl (fun runner subject => runner.invalidate subject) core.runner }

/-- Takes a notice if it can be read, and acknowledges it in any case. -/
def acknowledge (core : Core) (kind : NoticeKind) (request : Request) : Response × Core :=
  (.done "Event processed", ((noticeOf? kind request).map core.take).getD core)

/-! ### Requests -/

/-- The answer to a request at a route. -/
def answer (core : Core) (route : Route) (request : Request) : Option Response × Core :=
  match route with
  | .health => (some core.health, core)
  | .notice kind =>
    let (response, core) := core.acknowledge kind request
    (some response, core)
  | route =>
    match core.authenticate request with
    | (some (.ok identity), core) => core.serve identity route
    | (some (.error error), core) => (some (.refused error), core)
    | (none, core) => (none, core)

/-- The header that names the methods of a route. -/
def allowing (route : Option Route) (response : Response) : Response :=
  match route with
  | some route => response.withHeader "allow" (",".intercalate route.methods)
  | none => response

/-- The answer to a request before what is said to every browser. -/
def route (core : Core) (request : Request) : Option Response × Core :=
  let route := Route.ofPath? request.path
  if request.method = "OPTIONS" then (some (allowing route (.empty 200)), core)
  else
    match route with
    | none => (some (.empty 404), core)
    | some route =>
      if route.methods.contains request.method then
        let (response, core) := core.answer route request
        (if request.method = "HEAD" then
          response.map fun response => { response with body := none }
        else response, core)
      else (some (allowing (some route) (.empty 405)), core)

/-- The answer to a request. Pages of any origin may read it. -/
def handle (core : Core) (request : Request) : Option Response × Core :=
  let (response, core) := core.route request
  (response.map fun response => response.withHeader "access-control-allow-origin" "*", core)

/-! ### Background -/

/-- Drops what is out of date, and says how much that was. -/
def sweep (core : Core) : Nat × Core :=
  let (credentials, cache) := core.credentials.sweep core.now
  let (dashboards, runner) := core.runner.sweep
  (credentials + dashboards, { core with credentials := cache, runner })

/-- Lets so many nanoseconds pass, or what the timer makes of them. -/
def sleep (core : Core) (nanos : Nat) : Core :=
  { core with runner := core.runner.sleep nanos }

/-- Lets everything happen that can happen at the moment. -/
def settle (core : Core) : Core :=
  { core with runner := core.runner.settle }

end Core

end UserDashboard.Service
