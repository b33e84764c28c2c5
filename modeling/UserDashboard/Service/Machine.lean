/-
This file says on which addresses a machine lets the service listen.

The address has to be one that the machine takes for its own, and low ports are kept for those
with a permission that the service does not have.
-/

import UserDashboard.Net.Address

namespace UserDashboard.Service

open Net

/-- Why the service cannot listen on an address. -/
inductive ListenFault where
  /-- The port is kept for others. -/
  | notPermitted
  /-- The address belongs to another machine. -/
  | notOwned
  deriving DecidableEq

/-- What is said about it, with the number that the system gives it. -/
def ListenFault.message : ListenFault → String
  | .notPermitted => "Permission denied (os error 13)"
  | .notOwned => "Cannot assign requested address (os error 99)"

/-- A machine, as far as listening on it goes. -/
structure Machine where
  /-- Whether it takes an address for its own. -/
  owns : IpAddress → Bool
  /-- The first port that is not kept for those with a permission. -/
  firstFreePort : Nat := 1024

namespace Machine

/-- A machine that was never given an address. As nothing tells it otherwise, it takes every
address of four octets for its own, and of the longer ones only the one that stands for all. -/
def unconnected : Machine where
  owns
    | .v4 _ => true
    | .v6 address => address.groups.all (· = 0)

/-- Tries to listen. Port zero stands for any free port. -/
def listen (machine : Machine) (socket : SocketAddress) : Except ListenFault Unit :=
  if socket.port ≠ 0 ∧ socket.port.toNat < machine.firstFreePort then .error .notPermitted
  else if machine.owns socket.address then .ok ()
  else .error .notOwned

end Machine

end UserDashboard.Service
