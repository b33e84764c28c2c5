/-
This file reads and writes the addresses of machines.

An address has four octets or eight groups of 16 bits. Groups are read with up to four
hexadecimal digits, one run of zero groups may be left out, and the last two groups may stand as
four octets. They are written with the longest run of at least two zero groups left out, the
first of equally long ones.
-/

import UserDashboard.Number.Integer
import UserDashboard.Text.Fields

namespace UserDashboard.Net

open Number Text

/-! ### Addresses of four octets -/

/-- An address of four octets. -/
structure Ipv4 where
  a : UInt8
  b : UInt8
  c : UInt8
  d : UInt8
  deriving DecidableEq, Repr

namespace Ipv4

/-- An octet in decimal, without zeros in front. -/
def octet? (characters : List Char) : Option UInt8 := do
  let value ← readNat? characters
  if characters.length ≤ 3 ∧ value ≤ 255 ∧ (characters.head? = some '0' → characters.length = 1) then
    some (UInt8.ofNat value)
  else none

/-- Reads four octets with points between them. -/
def read? (characters : List Char) : Option Ipv4 :=
  match fields '.' characters with
  | [a, b, c, d] => do some ⟨← octet? a, ← octet? b, ← octet? c, ← octet? d⟩
  | _ => none

/-- The address whose octets spell a number, the first the most significant. -/
def ofNat (value : Nat) : Ipv4 :=
  ⟨UInt8.ofNat (value / 16777216), UInt8.ofNat (value / 65536), UInt8.ofNat (value / 256),
    UInt8.ofNat value⟩

/-- The address as text. -/
def text (address : Ipv4) : List Char :=
  joined '.' ([address.a, address.b, address.c, address.d].map fun octet => digits octet.toNat)

/-- The two groups that an address makes. -/
def groups (address : Ipv4) : List UInt16 :=
  [address.a.toUInt16 * 256 + address.b.toUInt16, address.c.toUInt16 * 256 + address.d.toUInt16]

end Ipv4

/-! ### Addresses of eight groups -/

/-- An address of eight groups of 16 bits. -/
structure Ipv6 where
  /-- The groups. -/
  groups : List UInt16
  /-- There are eight. -/
  eight : groups.length = 8
  deriving DecidableEq

namespace Ipv6

/-- A group in one to four hexadecimal digits. -/
def group? (characters : List Char) : Option UInt16 := do
  let values ← characters.mapM hexDigit?
  if 1 ≤ values.length ∧ values.length ≤ 4 then
    some (UInt16.ofNat (ofHexDigits values))
  else none

/-- Groups of which, if allowed, the last two may be four octets. -/
def groupList? (octetsAllowed : Bool) : List (List Char) → Option (List UInt16)
  | [] => some []
  | [piece] =>
    match group? piece with
    | some group => some [group]
    | none => if octetsAllowed then (Ipv4.read? piece).map Ipv4.groups else none
  | piece :: rest => do some ((← group? piece) :: (← groupList? octetsAllowed rest))

/-- The groups of one side, which may be empty. -/
def side? (octetsAllowed : Bool) (characters : List Char) : Option (List UInt16) :=
  if characters.isEmpty then some [] else groupList? octetsAllowed (fields ':' characters)

/-- The text on either side of the first pair of colons, if there is one. -/
def cutPair? : List Char → Option (List Char × List Char)
  | ':' :: ':' :: rest => some ([], rest)
  | c :: rest => (cutPair? rest).map fun (before, after) => (c :: before, after)
  | [] => none

/-- An address of a list of groups, if there are eight. -/
def ofGroups? (groups : List UInt16) : Option Ipv6 :=
  if eight : groups.length = 8 then some ⟨groups, eight⟩ else none

/-- Reads eight groups, a run of which may be left out. -/
def read? (characters : List Char) : Option Ipv6 :=
  match cutPair? characters with
  | none => do ofGroups? (← groupList? true (fields ':' characters))
  | some (before, after) => do
    let before ← side? false before
    let after ← side? true after
    if before.length + after.length ≤ 7 then
      ofGroups? (before ++ List.replicate (8 - before.length - after.length) 0 ++ after)
    else none

/-- The number of zero groups at the beginning. -/
def leadingZeros (groups : List UInt16) : Nat :=
  (groups.takeWhile (· = 0)).length

/-- The place and length of the longest run of zero groups, the first of equally long ones. -/
def longestRun (place : Nat) (best : Nat × Nat) : List UInt16 → Nat × Nat
  | [] => best
  | group :: rest =>
    let run := leadingZeros (group :: rest)
    longestRun (place + 1) (if best.2 < run then (place, run) else best) rest

/-- A group in hexadecimal digits. -/
def groupText (group : UInt16) : List Char :=
  Nat.toDigits 16 group.toNat

/-- The address as groups, with the longest run of at least two zero groups left out. -/
def text (address : Ipv6) : List Char :=
  let written (groups : List UInt16) := joined ':' (groups.map groupText)
  match longestRun 0 (0, 1) address.groups with
  | (_, 1) => written address.groups
  | (place, length) =>
    written (address.groups.take place) ++ ':' :: ':' ::
      written (address.groups.drop (place + length))

end Ipv6

/-! ### Addresses of either kind -/

/-- An address. -/
inductive IpAddress where
  | v4 (address : Ipv4)
  | v6 (address : Ipv6)
  deriving DecidableEq

namespace IpAddress

/-- Reads an address of either kind. -/
def read? (characters : List Char) : Option IpAddress :=
  match Ipv4.read? characters with
  | some address => some (.v4 address)
  | none => (Ipv6.read? characters).map .v6

/-- The address that stands for every one of the machine's own. -/
def unspecified : IpAddress :=
  .v4 ⟨0, 0, 0, 0⟩

/-- The address as text. One that stands for an address of four octets is written with them. -/
def text : IpAddress → List Char
  | .v4 address => address.text
  | .v6 address =>
    match address.groups with
    | [0, 0, 0, 0, 0, 0xFFFF, high, low] =>
      "::ffff:".toList ++ (Ipv4.ofNat (high.toNat * 65536 + low.toNat)).text
    | _ => address.text

end IpAddress

/-- An address with a port. -/
structure SocketAddress where
  /-- The address. -/
  address : IpAddress
  /-- The port. -/
  port : UInt16
  deriving DecidableEq

namespace SocketAddress

/-- The address and the port as text, with a longer address in brackets. -/
def text (socket : SocketAddress) : String :=
  let port := ':' :: digits socket.port.toNat
  match socket.address with
  | .v4 _ => String.ofList (socket.address.text ++ port)
  | .v6 _ => String.ofList ('[' :: socket.address.text ++ ']' :: port)

/-- A port in decimal digits. -/
def port? (characters : List Char) : Option UInt16 := do
  let value ← readNat? characters
  if value ≤ 65535 then some (UInt16.ofNat value) else none

/-- Reads an address and a port. -/
def read? (text : String) : Option SocketAddress :=
  match text.toList with
  | '[' :: rest => do
    let (address, port) ← cutFirst? ']' rest
    match port with
    | ':' :: port => some ⟨.v6 (← Ipv6.read? address), ← port? port⟩
    | _ => none
  | characters => do
    let (address, port) ← cutFirst? ':' characters
    some ⟨.v4 (← Ipv4.read? address), ← port? port⟩

end SocketAddress

end UserDashboard.Net
