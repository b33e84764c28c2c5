/-
This file holds the algorithms that tokens are signed with.

A service signs with one of three hashes under a shared secret. A token may name any registered
algorithm; the names that are not among the three are known so that such a token is refused for
its algorithm and not for its form.
-/

import UserDashboard.Crypto.Hmac
import UserDashboard.Json.Record

namespace UserDashboard.Credential

open Crypto

/-- An algorithm that a service signs with. -/
inductive Algorithm where
  | hs256
  | hs384
  | hs512
  deriving DecidableEq, Repr

namespace Algorithm

/-- The name of an algorithm. -/
def name : Algorithm → String
  | .hs256 => "HS256"
  | .hs384 => "HS384"
  | .hs512 => "HS512"

/-- The algorithm of a name. -/
def ofName? : String → Option Algorithm
  | "HS256" => some .hs256
  | "HS384" => some .hs384
  | "HS512" => some .hs512
  | _ => none

/-- Every algorithm is found by its name. -/
theorem ofName?_name (algorithm : Algorithm) : ofName? algorithm.name = some algorithm := by
  cases algorithm <;> rfl

/-- The hash that the algorithm signs with. -/
def hash : Algorithm → Hash
  | .hs256 => .sha256
  | .hs384 => .sha384
  | .hs512 => .sha512

/-- An algorithm as JSON. -/
def toJson (algorithm : Algorithm) : Json :=
  .string algorithm.name

/-- Reads an algorithm from JSON. -/
def ofJson? (json : Json) : Option Algorithm := do
  ofName? (← json.readChoice?)

end Algorithm

/-- The names of registered algorithms that no service signs with. -/
def foreignAlgorithms : List String :=
  ["ES256", "ES384", "RS256", "RS384", "RS512", "PS256", "PS384", "PS512", "EdDSA"]

/-- The algorithm that a token names. -/
inductive NamedAlgorithm where
  /-- One that a service may sign with. -/
  | own (algorithm : Algorithm)
  /-- A registered one that no service signs with. -/
  | foreign
  deriving DecidableEq

/-- Reads the algorithm that a token names. -/
def NamedAlgorithm.ofJson? (json : Json) : Option NamedAlgorithm := do
  let name ← json.readChoice?
  match Algorithm.ofName? name with
  | some algorithm => some (.own algorithm)
  | none => if foreignAlgorithms.contains name then some .foreign else none

end UserDashboard.Credential
