/-
This file reads and writes the header of a token.

The only thing asked of a header is the algorithm, but everything else in it is checked for its
form: the registered parameters for theirs, and any other member has to be a text. A header is an
object; the array form of records is not open to it.
-/

import UserDashboard.Credential.Algorithm

namespace UserDashboard.Credential.Header

/-! ### Keys -/

/-- The curves that a key can lie on. -/
def curves : List String :=
  ["P-256", "P-384", "P-521", "Ed25519"]

/-- Reads one of the curves. -/
def readCurve? (json : Json) : Option String := do
  let name ← json.readChoice?
  if curves.contains name then some name else none

/-- Whether the parameters of a key are those of its kind. -/
def keyParameters? (record : Json.Record) : Option Unit := do
  let kind ← record.required "kty" Json.readChoice?
  match kind with
  | "EC" =>
    let _ ← record.required "crv" readCurve?
    let _ ← record.required "x" Json.readText?
    let _ ← record.required "y" Json.readText?
  | "RSA" =>
    let _ ← record.required "n" Json.readText?
    let _ ← record.required "e" Json.readText?
  | "oct" =>
    let _ ← record.required "k" Json.readText?
  | "OKP" =>
    let _ ← record.required "crv" readCurve?
    let _ ← record.required "x" Json.readText?
  | _ => none

/-- Reads a public key, which is not used. -/
def readKey? : Json → Option Unit
  | .object members => do
    let record ← (Json.object members).record? ["use", "key_ops", "alg", "kid", "x5u", "x5c",
      "x5t", "x5t#S256", "kty", "crv", "x", "y", "n", "e", "k"]
    let _ ← record.nullable "use" Json.readText?
    let _ ← record.nullable "key_ops" (Json.readList? Json.readText?)
    let _ ← record.nullable "alg" Json.readChoice?
    let _ ← record.nullable "kid" Json.readText?
    let _ ← record.nullable "x5u" Json.readText?
    let _ ← record.nullable "x5c" (Json.readList? Json.readText?)
    let _ ← record.nullable "x5t" Json.readText?
    let _ ← record.nullable "x5t#S256" Json.readText?
    keyParameters? record
  | _ => none

/-! ### Headers -/

/-- The registered parameters that are texts. -/
def textParameters : List String :=
  ["typ", "cty", "jku", "kid", "x5u", "x5t", "x5t#S256", "enc", "zip", "url", "nonce"]

/-- The registered parameters that are lists of texts. -/
def listParameters : List String :=
  ["x5c", "crit"]

/-- All registered parameters. -/
def parameters : List String :=
  ["alg", "jwk"] ++ listParameters ++ textParameters

/-- Reads the algorithm of a header, if the header has the form of one. -/
def ofJson? : Json → Option NamedAlgorithm
  | .object members => do
    let record ← (Json.object members).record? (parameters.map fun name => ⟨name, []⟩)
    let algorithm ← record.required "alg" NamedAlgorithm.ofJson?
    let _ ← record.nullable "jwk" readKey?
    let _ ← textParameters.mapM fun name => record.nullable name Json.readText?
    let _ ← listParameters.mapM fun name => record.nullable name (Json.readList? Json.readText?)
    let others := members.filter fun (name, _) => !parameters.contains name
    let _ ← others.mapM fun (_, value) => value.readText?
    some algorithm
  | _ => none

/-- The header of a token signed with an algorithm. -/
def toJson (algorithm : Algorithm) : Json :=
  .object [("typ", .string "JWT"), ("alg", algorithm.toJson)]

end UserDashboard.Credential.Header
