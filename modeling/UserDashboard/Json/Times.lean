/-
This file reads and writes times in JSON: timestamps and lengths of time are texts there.
-/

import UserDashboard.Json.Record
import UserDashboard.Time.Rfc3339
import UserDashboard.Time.Span

namespace UserDashboard.Time

/-- A timestamp as JSON. Only a year of four digits can be written. -/
def Timestamp.toJson? (timestamp : Timestamp) : Option Json :=
  timestamp.write?.map .string

/-- Reads a timestamp from JSON. -/
def Timestamp.ofJson? (json : Json) : Option Timestamp := do
  Timestamp.read? (← json.readText?)

/-- A length of time as JSON. -/
def Span.toJson (span : Span) : Json :=
  .string span.text

/-- Reads a length of time from JSON. -/
def Span.ofJson? (json : Json) : Option Span := do
  Span.read? (← json.readText?)

end UserDashboard.Time
