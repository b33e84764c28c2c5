/-
This file puts the service together from its settings.

Settings that cannot be used are refused before anything listens. The service listens where its
settings say unless it is told otherwise.
-/

import UserDashboard.Service.Core
import UserDashboard.Service.Machine

namespace UserDashboard.Service

open Catalog Dashboard Net Settings Time

/-- A service that is ready to listen. -/
structure Server where
  /-- Its settings. -/
  settings : ServiceSettings
  /-- They can be used. -/
  usable : settings.check = .ok ()
  /-- Where it listens. -/
  address : SocketAddress

namespace Server

/-- Puts the service together, to listen on some address or where its settings say. -/
def build (settings : ServiceSettings) (address : Option SocketAddress) :
    Except SettingsError Server :=
  match checked : settings.check with
  | .ok () => .ok ⟨settings, checked, address.getD settings.server.address⟩
  | .error error => .error error

/-- The service as it is before the first request, with what is left to chance. -/
def core (server : Server) (start : Moment) (catalog : Scripted) (chance : Chance) : Core :=
  Core.new start server.settings catalog chance

/-- Lets the service listen on a machine. -/
def listen (server : Server) (machine : Machine) : Except ListenFault Unit :=
  machine.listen server.address

end Server

end UserDashboard.Service
