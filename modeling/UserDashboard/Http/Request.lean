/-
This file holds requests.

A request is well formed when its method and the names of its headers are words of the grammar, its
target is a path of the characters that may stand there, and the values of its headers hold no
control characters but the tab. Names of headers mean the same in letters of either case, and of
several headers of one name the first counts.
-/

import UserDashboard.Text.Blank
import UserDashboard.Text.Fields

namespace UserDashboard.Http

open Text

/-- A request. -/
structure Request where
  /-- What is asked to be done. -/
  method : String
  /-- What it is to be done to. -/
  path : String
  /-- What else is said, under names in small letters. -/
  headers : List (String × List UInt8)
  /-- What is sent along. -/
  body : List UInt8

namespace Request

/-! ### Well-formed requests -/

/-- Whether a character may stand in a word. -/
def isWordCharacter (c : Char) : Bool :=
  c.isAlphanum || "!#$%&'*+-.^_|~".toList.contains c || c.toNat = 0x60

/-- Whether a text is a word. -/
def isWord (text : String) : Bool :=
  !text.isEmpty && text.toList.all isWordCharacter

/-- Whether an octet may stand in the value of a header. -/
def isValueOctet (octet : UInt8) : Bool :=
  (32 ≤ octet && octet ≠ 127) || octet = 9

/-- Whether a character may stand in a path. -/
def isPathCharacter (c : Char) : Bool :=
  c.toNat ≥ 0x7F || (0x21 ≤ c.toNat && c.toNat ≠ 0x60 && !"#<>?".toList.contains c)

/-- Whether a character may stand in a query. -/
def isQueryCharacter (c : Char) : Bool :=
  c.toNat ≥ 0x7F || (0x21 ≤ c.toNat && !"\"#<>".toList.contains c)

/-- The path of a target that begins with a slash. -/
def pathOf? (characters : List Char) : Option (List Char) :=
  let (target, _) := (cutFirst? '#' characters).getD (characters, [])
  let (path, query) := (cutFirst? '?' target).getD (target, [])
  if path.all isPathCharacter ∧ query.all isQueryCharacter then some path else none

/-- The path of a target, which may stand after a scheme and an authority. -/
def targetPath? (target : String) : Option String :=
  match target.toList with
  | [] => none
  | ['*'] => some "*"
  | '/' :: rest => (pathOf? ('/' :: rest)).map String.ofList
  | characters => do
    let (scheme, rest) ← cutFirst? ':' characters
    let rest ← afterBeginning? "//".toList rest
    let isAuthority (c : Char) : Bool := c.isAlphanum || "-._~!$&'()*+,;=:@[]%".toList.contains c
    let authority := rest.takeWhile fun c => c ≠ '/' && c ≠ '?' && c ≠ '#'
    let path ← pathOf? (rest.drop authority.length)
    if scheme.isEmpty ∨ authority.isEmpty ∨ ¬authority.all isAuthority ∨
        ¬scheme.all (fun c => c.isAlphanum || "+-.".toList.contains c) then none
    else some (if path.isEmpty then "/" else String.ofList path)

/-- A request of its parts, if they are well formed. -/
def build? (method target : String) (headers : List (String × List UInt8)) (body : List UInt8) :
    Option Request := do
  let path ← targetPath? target
  if isWord method ∧ headers.all (fun (name, value) => isWord name && value.all isValueOctet) then
    some ⟨method, path, headers.map fun (name, value) => (smallText name, value), body⟩
  else none

/-! ### Headers -/

/-- The value of the first header of a name. -/
def header? (request : Request) (name : String) : Option (List UInt8) :=
  request.headers.lookup name

/-- The text of a value of visible ASCII characters, blanks and tabs. -/
def visibleText? (value : List UInt8) : Option String :=
  if value.all fun octet => (32 ≤ octet && octet < 127) || octet = 9 then
    some (String.ofList (value.map fun octet => Char.ofNat octet.toNat))
  else none

end Request

end UserDashboard.Http
