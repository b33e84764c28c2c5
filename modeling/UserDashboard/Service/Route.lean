/-
This file says what can be asked of the service, and where.
-/

import UserDashboard.Service.Notice

namespace UserDashboard.Service

/-- What can be asked of the service. -/
inductive Route where
  /-- How the service is. -/
  | health
  /-- Who the caller is. -/
  | profile
  /-- The caller's dashboard. -/
  | dashboard
  /-- The caller's dashboard, if it has been put together since it was asked for. -/
  | refreshedDashboard
  /-- The listings of the caller. -/
  | listings
  /-- To forget the caller's credentials. -/
  | forgetCredentials
  /-- To forget the caller's dashboard. -/
  | forgetDashboard
  /-- To take a notice. -/
  | notice (kind : NoticeKind)
  deriving DecidableEq

namespace Route

/-- All of them. -/
def all : List Route :=
  [.health, .profile, .dashboard, .refreshedDashboard, .listings, .forgetCredentials,
    .forgetDashboard, .notice .productRegistered, .notice .productPurchased,
    .notice .productStatusChanged, .notice .dashboardRefresh]

/-- Where it is asked. -/
def path : Route → String
  | .health => "/api/users/health"
  | .profile => "/api/users/profile"
  | .dashboard => "/api/users/dashboard"
  | .refreshedDashboard => "/api/users/dashboard/refresh"
  | .listings => "/api/users/products/mine"
  | .forgetCredentials => "/api/users/credentials/cache"
  | .forgetDashboard => "/api/users/dashboard/cache"
  | .notice .productRegistered => "/api/events/product/registered"
  | .notice .productPurchased => "/api/events/product/purchased"
  | .notice .productStatusChanged => "/api/events/product/status-changed"
  | .notice .dashboardRefresh => "/api/events/dashboard/refresh"

/-- The methods by which it is asked. -/
def methods : Route → List String
  | .forgetCredentials => ["DELETE"]
  | .forgetDashboard => ["DELETE"]
  | .notice _ => ["POST"]
  | _ => ["GET", "HEAD"]

/-- What is asked at a path. -/
def ofPath? (path : String) : Option Route :=
  all.find? fun route => route.path == path

end Route

end UserDashboard.Service
