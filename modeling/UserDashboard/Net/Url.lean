/-
This file reads and writes addresses on the web.

Blanks and control characters around an address and line breaks and tabs inside it carry no
meaning. What follows the scheme depends on it. An address of one of the well-known schemes has an
authority and a path of segments, whatever number of slashes it is written with, and a backslash
is a slash in it. Another one has an authority after two slashes, segments after one, and otherwise
a path that is kept as it is. A segment of one point means nothing and one of two points takes the
segment before it away. Reading and writing an address gives its one form.
-/

import UserDashboard.Net.Host

namespace UserDashboard.Net

open Number Text

/-! ### Addresses -/

/-- Where a path leads. -/
inductive UrlPath where
  /-- Along segments from the root. -/
  | segments (segments : List (List Char))
  /-- To something that is not divided into segments. -/
  | undivided (text : List Char)
  deriving DecidableEq

/-- Who answers at an address. -/
structure Authority where
  /-- The user's name. -/
  user : List Char
  /-- The user's password. -/
  password : Option (List Char)
  /-- The host. -/
  host : Host
  /-- The port, if it is not the scheme's own. -/
  port : Option UInt16
  deriving DecidableEq

/-- An address on the web. -/
structure Url where
  /-- The scheme. -/
  scheme : String
  /-- Who answers. -/
  authority : Option Authority
  /-- The path. -/
  path : UrlPath
  /-- What follows a question mark. -/
  query : Option (List Char)
  /-- What follows a number sign. -/
  fragment : Option (List Char)
  deriving DecidableEq

/-! ### Schemes and characters -/

/-- How the rest of an address is read. -/
inductive SchemeKind where
  | web
  | file
  | other
  deriving DecidableEq

/-- The kind of a scheme. -/
def SchemeKind.of (scheme : String) : SchemeKind :=
  if ["http", "https", "ws", "wss", "ftp"].contains scheme then .web
  else if scheme = "file" then .file
  else .other

/-- The port that a scheme uses when none is given. -/
def defaultPort? : String → Option UInt16
  | "http" => some 80
  | "ws" => some 80
  | "https" => some 443
  | "wss" => some 443
  | "ftp" => some 21
  | _ => none

/-- Whether a character is escaped in a fragment. -/
def isEscapedInFragment (c : Char) : Bool :=
  Host.isControl c || " \"<>".toList.contains c || c.toNat = 0x60

/-- Whether a character is escaped in a path. -/
def isEscapedInPath (c : Char) : Bool :=
  isEscapedInFragment c || c = '#' || c = '?' || c.toNat = 0x7B || c.toNat = 0x7D

/-- Whether a character is escaped in the name of a user. -/
def isEscapedInUser (c : Char) : Bool :=
  isEscapedInPath c || "/:;=@[\\]^|".toList.contains c

/-- Whether a character is escaped in a query. -/
def isEscapedInQuery (kind : SchemeKind) (c : Char) : Bool :=
  Host.isControl c || " \"#<>".toList.contains c || (kind ≠ .other && c.toNat = 0x27)

/-- Whether a character divides a path. -/
def isSlash (kind : SchemeKind) (c : Char) : Bool :=
  c = '/' || (kind ≠ .other && c = '\\')

/-! ### Paths -/

/-- Whether a segment is a point. -/
def isPoint (segment : List Char) : Bool :=
  [".", "%2e"].contains (smallText (String.ofList segment))

/-- Whether a segment is two points. -/
def isTwoPoints (segment : List Char) : Bool :=
  ["..", "%2e%2e", "%2e.", ".%2e"].contains (smallText (String.ofList segment))

/-- The segments of a path that has been read up to `path`, the last segment first, when more
segments follow. -/
def walk (path : List (List Char)) : List (List Char) → List (List Char)
  | [] => path
  | [segment] =>
    if isTwoPoints segment then [] :: path.drop 1
    else if isPoint segment then [] :: path
    else segment :: path
  | segment :: rest =>
    if isTwoPoints segment then walk (path.drop 1) rest
    else if isPoint segment then walk path rest
    else walk (segment :: path) rest

/-- The pieces between slashes. -/
def pathPieces (kind : SchemeKind) (characters : List Char) : List (List Char) :=
  fields '/' (characters.map fun c => if isSlash kind c then '/' else c)

/-- The segments of a path that is written after a slash. -/
def readSegments (kind : SchemeKind) (characters : List Char) : List (List Char) :=
  (walk [] ((pathPieces kind characters).map (escaped isEscapedInPath))).reverse

/-! ### Reading -/

/-- The characters that carry meaning. -/
def meaningful (characters : List Char) : List Char :=
  let outside (c : Char) : Bool := c.toNat ≤ 32
  ((characters.dropWhile outside).reverse.dropWhile outside).reverse.filter fun c =>
    c ≠ '\t' && c ≠ '\n' && c ≠ '\r'

/-- The scheme of an address and what follows it, if it begins with one. -/
def cutScheme? (characters : List Char) : Option (String × List Char) := do
  let (scheme, rest) ← cutFirst? ':' characters
  let isLetter (c : Char) : Bool := 'a' ≤ small c && small c ≤ 'z'
  let isPart (c : Char) : Bool := isLetter c || c.isDigit || c = '+' || c = '-' || c = '.'
  match scheme with
  | [] => none
  | first :: others =>
    if isLetter first && others.all isPart then some (smallText (String.ofList scheme), rest)
    else none

/-- What ends an authority. -/
def endsAuthority (kind : SchemeKind) (c : Char) : Bool :=
  c = '/' || c = '?' || c = '#' || (kind ≠ .other && c = '\\')

/-- The text before the last `@` and the text after it, if there is one. -/
def cutUser? (characters : List Char) : Option (List Char × List Char) :=
  (cutFirst? '@' characters.reverse).map fun (after, before) => (before.reverse, after.reverse)

/-- A user's name and password. An empty password is no password. -/
def readUser (characters : List Char) : List Char × Option (List Char) :=
  match cutFirst? ':' characters with
  | none => (escaped isEscapedInUser characters, none)
  | some (name, []) => (escaped isEscapedInUser name, none)
  | some (name, password) => (escaped isEscapedInUser name, some (escaped isEscapedInUser password))

/-- The host's part of an authority and what follows it from the first colon outside brackets. -/
def cutPort (bracketed : Bool) : List Char → List Char × List Char
  | [] => ([], [])
  | c :: rest =>
    if c = ':' ∧ bracketed = false then ([], c :: rest)
    else
      let bracketed := if c = '[' then true else if c = ']' then false else bracketed
      let (host, port) := cutPort bracketed rest
      (c :: host, port)

/-- Reads a port: none if there are no digits. -/
def readPort (scheme : String) (characters : List Char) : Except UrlError (Option UInt16) :=
  if characters.isEmpty then .ok none
  else
    match SocketAddress.port? characters with
    | none => .error .invalidPort
    | some port => .ok (if defaultPort? scheme = some port then none else some port)

/-- The text of a port ends where a backslash begins the path. -/
def cutBackslash (characters : List Char) : List Char × List Char :=
  (characters.takeWhile (· ≠ '\\'), characters.dropWhile (· ≠ '\\'))

/-- Reads an authority and gives what follows it. -/
def readAuthority (scheme : String) (characters : List Char) :
    Except UrlError (Authority × List Char) := do
  let kind := SchemeKind.of scheme
  let authority := characters.takeWhile fun c => !endsAuthority kind c
  let rest := characters.dropWhile fun c => !endsAuthority kind c
  let (user, machine) := (cutUser? authority).elim (none, authority) fun (user, machine) =>
    (some user, machine)
  if user = some [] ∧ machine.isEmpty ∧ !rest.isEmpty then throw .emptyHost
  let (name, port) := cutPort false machine
  if name.isEmpty ∧ (kind = .web ∨ !port.isEmpty) then throw .emptyHost
  let host ← if kind = .other then Host.verbatim name else Host.ofName name
  let (port, more) := cutBackslash (port.drop 1)
  let port ← readPort scheme port
  let (user, password) := readUser (user.getD [])
  if name.isEmpty ∧ (!user.isEmpty ∨ password.isSome) then throw .emptyHost
  return (⟨user, password, host, port⟩, more ++ rest)

/-- The path, the query and the fragment of an address. -/
def cutParts (characters : List Char) : List Char × Option (List Char) × Option (List Char) :=
  let (before, fragment) := (cutFirst? '#' characters).elim (characters, none) fun (before, after) =>
    (before, some after)
  let (path, query) := (cutFirst? '?' before).elim (before, none) fun (path, query) =>
    (path, some query)
  (path, query, fragment)

/-- An address of its parts, the last of which are still to be read. -/
def ofParts (scheme : String) (authority : Option Authority) (path : List Char → UrlPath)
    (characters : List Char) : Url :=
  let (walked, query, fragment) := cutParts characters
  ⟨scheme, authority, path walked,
    query.map (escaped (isEscapedInQuery (SchemeKind.of scheme))),
    fragment.map (escaped isEscapedInFragment)⟩

/-- The segments without the empty ones before the first that is not, or before the last. -/
def withoutEmptyStart : List (List Char) → List (List Char)
  | [] :: segment :: rest => withoutEmptyStart (segment :: rest)
  | segments => segments

/-- The path after an authority. -/
def pathAfterAuthority (kind : SchemeKind) (characters : List Char) : UrlPath :=
  match characters with
  | [] => .segments (if kind = .other then [] else [[]])
  | c :: rest =>
    let segments := readSegments kind (if isSlash kind c then rest else c :: rest)
    .segments (if kind = .file then withoutEmptyStart segments else segments)

/-- The authority of a file, which may be empty, and what follows it. -/
def readFileAuthority (characters : List Char) : Except UrlError (Authority × List Char) := do
  let name := characters.takeWhile fun c => !endsAuthority .file c
  let rest := characters.dropWhile fun c => !endsAuthority .file c
  let host ← if name.isEmpty then .ok (.named []) else Host.ofName name
  let host := if host = .named "localhost".toList then .named [] else host
  return (⟨[], none, host, none⟩, rest)

namespace Url

/-- Reads an address. -/
def read (text : String) : Except UrlError Url :=
  match cutScheme? (meaningful text.toList) with
  | none => .error .relativeWithoutBase
  | some (scheme, rest) =>
    match SchemeKind.of scheme with
    | .web => do
      let (authority, rest) ← readAuthority scheme (rest.dropWhile (isSlash .web))
      return ofParts scheme (some authority) (pathAfterAuthority .web) rest
    | .file => do
      match rest with
      | first :: second :: rest =>
        if isSlash .file first && isSlash .file second then
          let (authority, rest) ← readFileAuthority rest
          return ofParts scheme (some authority) (pathAfterAuthority .file) rest
        else
          return ofParts scheme (some ⟨[], none, .named [], none⟩) (pathAfterAuthority .file)
            (first :: second :: rest)
      | rest =>
        return ofParts scheme (some ⟨[], none, .named [], none⟩) (pathAfterAuthority .file) rest
    | .other =>
      match rest with
      | '/' :: '/' :: rest => do
        let (authority, rest) ← readAuthority scheme rest
        return ofParts scheme (some authority) (pathAfterAuthority .other) rest
      | '/' :: rest => .ok (ofParts scheme none (fun path => .segments (readSegments .other path)) rest)
      | rest => .ok (ofParts scheme none (fun path => .undivided (escaped Host.isControl path)) rest)

/-! ### Writing -/

/-- A user's name and password, with the sign that ends them. -/
def userText (authority : Authority) : List Char :=
  match authority.password with
  | some password => authority.user ++ ':' :: password ++ ['@']
  | none => if authority.user.isEmpty then [] else authority.user ++ ['@']

/-- An authority as text. -/
def authorityText (authority : Authority) : List Char :=
  userText authority ++ authority.host.text ++
    authority.port.elim [] fun port => ':' :: digits port.toNat

/-- A path as text. -/
def pathText : UrlPath → List Char
  | .segments segments => segments.flatMap fun segment => '/' :: segment
  | .undivided text => text

/-- A path that begins with two slashes needs a mark to tell it from an authority. -/
def pathMark (url : Url) : List Char :=
  match url.authority, url.path with
  | none, .segments ([] :: _ :: _) => ['/', '.']
  | _, _ => []

/-- The address as text. -/
def text (url : Url) : String :=
  String.ofList <| url.scheme.toList ++ ':' ::
    url.authority.elim [] (fun authority => '/' :: '/' :: authorityText authority) ++
    pathMark url ++ pathText url.path ++
    url.query.elim [] (fun query => '?' :: query) ++
    url.fragment.elim [] (fun fragment => '#' :: fragment)

/-! ### Addresses made from others -/

/-- The path with a slash at its end. -/
def asDirectory (url : Url) : Url :=
  match url.path with
  | .segments segments =>
    if segments.getLast? = some [] then url
    else { url with path := .segments (segments ++ [[]]) }
  | .undivided text =>
    if text.getLast? = some '/' then url else { url with path := .undivided (text ++ ['/']) }

/-- The address reached from here by further segments, in place of the last one. -/
def resolve (url : Url) (steps : List (List Char)) : Except UrlError Url :=
  match url.path with
  | .segments segments =>
    .ok { url with path := .segments (segments.dropLast ++ steps), query := none, fragment := none }
  | .undivided _ => .error .relativeToUndivided

/-- The address without a user's name and password. -/
def withoutUser (url : Url) : Url :=
  { url with authority := url.authority.map fun authority =>
    { authority with user := [], password := none } }

end Url

end UserDashboard.Net
