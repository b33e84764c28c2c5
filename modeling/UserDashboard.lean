import UserDashboard.Cache.Entry
import UserDashboard.Cache.ExpiringMap
import UserDashboard.Cache.Sweeper
import UserDashboard.Catalog.Error
import UserDashboard.Catalog.Fetch
import UserDashboard.Catalog.Listing
import UserDashboard.Catalog.Remote
import UserDashboard.Catalog.Scripted
import UserDashboard.Catalog.Statistics
import UserDashboard.Credential.Algorithm
import UserDashboard.Credential.Cache
import UserDashboard.Credential.Claims
import UserDashboard.Credential.Error
import UserDashboard.Credential.Fingerprint
import UserDashboard.Credential.Header
import UserDashboard.Credential.Verifier
import UserDashboard.Crypto.Base64Url
import UserDashboard.Crypto.Hmac
import UserDashboard.Crypto.Octets
import UserDashboard.Crypto.Roots
import UserDashboard.Crypto.Sha256
import UserDashboard.Crypto.Sha512
import UserDashboard.Dashboard.Activity
import UserDashboard.Dashboard.Aggregation
import UserDashboard.Dashboard.Broadcast
import UserDashboard.Dashboard.Error
import UserDashboard.Dashboard.Event
import UserDashboard.Dashboard.Feed
import UserDashboard.Dashboard.Refresh
import UserDashboard.Dashboard.Runner
import UserDashboard.Dashboard.Snapshot
import UserDashboard.Dashboard.SnapshotCache
import UserDashboard.Http.MediaType
import UserDashboard.Http.Request
import UserDashboard.Http.Response
import UserDashboard.Identity
import UserDashboard.Json.Basic
import UserDashboard.Json.Printer
import UserDashboard.Json.Reader
import UserDashboard.Json.Record
import UserDashboard.Json.Times
import UserDashboard.Main
import UserDashboard.Net.Address
import UserDashboard.Net.Host
import UserDashboard.Net.Punycode
import UserDashboard.Net.Url
import UserDashboard.Number.Binary64
import UserDashboard.Number.Integer
import UserDashboard.Number.Shortest
import UserDashboard.Proofs.Cache.Bounds
import UserDashboard.Proofs.Cache.ExpiringMap
import UserDashboard.Proofs.Cache.Live
import UserDashboard.Proofs.Cache.LiveMap
import UserDashboard.Proofs.Cache.Room
import UserDashboard.Proofs.Cache.Sweeper
import UserDashboard.Proofs.Catalog.Owned
import UserDashboard.Proofs.Credential.Cache
import UserDashboard.Proofs.Credential.Expiry
import UserDashboard.Proofs.Credential.Reuse
import UserDashboard.Proofs.Credential.Token
import UserDashboard.Proofs.Credential.Verifier
import UserDashboard.Proofs.Crypto.Base64Url
import UserDashboard.Proofs.Dashboard.Attendance
import UserDashboard.Proofs.Dashboard.Attribution
import UserDashboard.Proofs.Dashboard.Balance
import UserDashboard.Proofs.Dashboard.Bystander
import UserDashboard.Proofs.Dashboard.Calls
import UserDashboard.Proofs.Dashboard.Change
import UserDashboard.Proofs.Dashboard.Deadline
import UserDashboard.Proofs.Dashboard.Echo
import UserDashboard.Proofs.Dashboard.Errand
import UserDashboard.Proofs.Dashboard.Flight
import UserDashboard.Proofs.Dashboard.Idle
import UserDashboard.Proofs.Dashboard.Lingering
import UserDashboard.Proofs.Dashboard.Mirror
import UserDashboard.Proofs.Dashboard.Noninterference
import UserDashboard.Proofs.Dashboard.Order
import UserDashboard.Proofs.Dashboard.Outcome
import UserDashboard.Proofs.Dashboard.Progress
import UserDashboard.Proofs.Dashboard.Provenance
import UserDashboard.Proofs.Dashboard.Reflection
import UserDashboard.Proofs.Dashboard.Running
import UserDashboard.Proofs.Dashboard.Script
import UserDashboard.Proofs.Dashboard.Settling
import UserDashboard.Proofs.Dashboard.Stranding
import UserDashboard.Proofs.Dashboard.Turn
import UserDashboard.Proofs.Dashboard.Unison
import UserDashboard.Proofs.Dashboard.Untouched
import UserDashboard.Proofs.Dashboard.Writes
import UserDashboard.Proofs.Json.Plain
import UserDashboard.Proofs.Json.Printer
import UserDashboard.Proofs.Json.Reader
import UserDashboard.Proofs.Json.Record
import UserDashboard.Proofs.Keyed
import UserDashboard.Proofs.Number.Digits
import UserDashboard.Proofs.Service.Authentication
import UserDashboard.Proofs.Service.History
import UserDashboard.Proofs.Service.Overflow
import UserDashboard.Proofs.Settings.Check
import UserDashboard.Proofs.Settings.Override
import UserDashboard.Proofs.Settings.Value
import UserDashboard.Proofs.Text.Utf8
import UserDashboard.Proofs.Time.Calendar
import UserDashboard.Proofs.Trace
import UserDashboard.Service.Core
import UserDashboard.Service.Journal
import UserDashboard.Service.Launch
import UserDashboard.Service.Machine
import UserDashboard.Service.Notice
import UserDashboard.Service.Route
import UserDashboard.Service.Server
import UserDashboard.Settings.Auth
import UserDashboard.Settings.Catalog
import UserDashboard.Settings.Dashboard
import UserDashboard.Settings.Environment
import UserDashboard.Settings.EnvironmentFile
import UserDashboard.Settings.Form
import UserDashboard.Settings.Load
import UserDashboard.Settings.Service
import UserDashboard.Settings.Toml.Document
import UserDashboard.Settings.Toml.Scalar
import UserDashboard.Settings.Toml.Text
import UserDashboard.Settings.Value
import UserDashboard.Text.Blank
import UserDashboard.Text.Fields
import UserDashboard.Text.Utf8
import UserDashboard.Time.Calendar
import UserDashboard.Time.Clock
import UserDashboard.Time.Rfc3339
import UserDashboard.Time.Span
import UserDashboard.Time.Timestamp
import UserDashboard.Proofs.Time.Rfc3339
import UserDashboard.Proofs.Wire
import UserDashboard.Proofs.Dashboard.Presentable
import UserDashboard.Proofs.Service.Serving
import UserDashboard.Proofs.Cache.Ticking
import UserDashboard.Proofs.Service.Sweeping
import UserDashboard.Proofs.Dashboard.Selection
import UserDashboard.Proofs.Time.Spelling
import UserDashboard.Proofs.Dashboard.Newest
import UserDashboard.Proofs.Dashboard.FeedOrder
import UserDashboard.Proofs.Credential.Invalidation
import UserDashboard.Proofs.Text.Blank
import UserDashboard.Proofs.Credential.Spelling
import UserDashboard.Proofs.Time.Span
import UserDashboard.Proofs.Settings.Return
import UserDashboard.Proofs.Dashboard.Dropping
import UserDashboard.Proofs.Service.Notices
import UserDashboard.Proofs.Dashboard.Fetching
import UserDashboard.Cache.SweeperTask
import UserDashboard.Proofs.Cache.SweeperTask
import UserDashboard.Proofs.Cache.Schedule
import UserDashboard.Proofs.Cache.Stopping
import UserDashboard.Proofs.Cache.Supervised
import UserDashboard.Proofs.Cache.Rhythm
