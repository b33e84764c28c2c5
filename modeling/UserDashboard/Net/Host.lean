/-
This file reads the hosts of addresses on the web.

A host is a domain name or the address of a machine. Domain names are written in one form: percent
escapes are resolved, capital letters are made small, characters of other widths are replaced, and
a label with characters beyond ASCII is written in the alphabet of name servers. The letters that
are known are those of the Latin, Greek, Cyrillic, Korean, Japanese and Chinese scripts in the
ranges listed below; a name with any other character is refused. A name whose last label is a
number is read as an address of four octets, whose parts may be octal or hexadecimal and of which
the last may stand for several octets.
-/

import UserDashboard.Net.Address
import UserDashboard.Net.Punycode
import UserDashboard.Text.Blank
import UserDashboard.Text.Utf8

namespace UserDashboard.Net

open Number Text

/-- Why a text is no address on the web. -/
inductive UrlError where
  | emptyHost
  | internationalName
  | invalidPort
  | invalidIpv4
  | invalidIpv6
  | invalidCharacter
  | relativeWithoutBase
  | relativeToUndivided
  deriving DecidableEq, Repr

/-- What is said about it. -/
def UrlError.message : UrlError → String
  | .emptyHost => "empty host"
  | .internationalName => "invalid international domain name"
  | .invalidPort => "invalid port number"
  | .invalidIpv4 => "invalid IPv4 address"
  | .invalidIpv6 => "invalid IPv6 address"
  | .invalidCharacter => "invalid domain character"
  | .relativeWithoutBase => "relative URL without a base"
  | .relativeToUndivided => "relative URL with a cannot-be-a-base base"

/-! ### Percent escapes -/

/-- A hexadecimal digit below 16, as a capital letter from ten on. -/
def hexCapital (digit : Nat) : Char :=
  if digit < 10 then Char.ofNat (48 + digit) else Char.ofNat (55 + digit)

/-- An octet as a percent escape. -/
def escape (octet : UInt8) : List Char :=
  ['%', hexCapital (octet.toNat / 16), hexCapital (octet.toNat % 16)]

/-- A text in which the characters of a class and all those beyond ASCII are escaped. -/
def escaped (isEscaped : Char → Bool) (characters : List Char) : List Char :=
  characters.flatMap fun c =>
    if c.toNat < 128 && !isEscaped c then [c]
    else c.toString.toUTF8.toList.flatMap escape

/-- The octets of a text whose percent escapes are resolved. -/
def resolved : List Char → List UInt8
  | [] => []
  | '%' :: high :: low :: rest =>
    match hexDigit? high, hexDigit? low with
    | some high, some low => UInt8.ofNat (high * 16 + low) :: resolved rest
    | _, _ => '%'.toString.toUTF8.toList ++ resolved (high :: low :: rest)
  | c :: rest => c.toString.toUTF8.toList ++ resolved rest

/-! ### Domain names -/

/-- Whether a number lies in one of some ranges. -/
def inRanges (ranges : List (Nat × Nat)) (code : Nat) : Bool :=
  ranges.any fun (low, high) => low ≤ code && code ≤ high

/-- Letters and symbols that stand for themselves. -/
def plainLetters : List (Nat × Nat) :=
  [(0xDF, 0xF6), (0xF8, 0xFF), (0x138, 0x138), (0x3AC, 0x3CE), (0x430, 0x45F), (0x4CF, 0x4CF),
    (0x2600, 0x26FF), (0x3005, 0x3007), (0x3041, 0x3096), (0x30A1, 0x30FA), (0x30FC, 0x30FC),
    (0x3400, 0x4DBF), (0x4E00, 0x9FFF), (0xAC00, 0xD7A3), (0x1F300, 0x1F64F),
    (0x1F900, 0x1F9FF)]

/-- Pairs of letters side by side of which the first, at an even number, is the capital. -/
def evenCapitals : List (Nat × Nat) :=
  [(0x100, 0x12F), (0x134, 0x137), (0x14A, 0x177), (0x460, 0x481), (0x48A, 0x4BF),
    (0x4D0, 0x52F)]

/-- Pairs of letters side by side of which the first, at an odd number, is the capital. -/
def oddCapitals : List (Nat × Nat) :=
  [(0x139, 0x13E), (0x141, 0x148), (0x179, 0x17E), (0x4C1, 0x4CE)]

/-- Capital letters of their own, with the distance to the small ones. -/
def farCapitals : List (Nat × Nat × Nat) :=
  [(0xC0, 0xD6, 32), (0xD8, 0xDE, 32), (0x386, 0x386, 38), (0x388, 0x38A, 37), (0x38C, 0x38C, 64),
    (0x38E, 0x38F, 63), (0x391, 0x3A1, 32), (0x3A3, 0x3AB, 32), (0x400, 0x40F, 80),
    (0x410, 0x42F, 32), (0x4C0, 0x4C0, 15)]

/-- The character that a character of a domain name stands for. -/
def nameCharacter? (c : Char) : Option Char :=
  let code := c.toNat
  if code < 128 then some (small c)
  else if inRanges plainLetters code then some c
  else if inRanges evenCapitals code then some (Char.ofNat (code / 2 * 2 + 1))
  else if inRanges oddCapitals code then some (Char.ofNat ((code + 1) / 2 * 2))
  else if code = 0x178 then some 'ÿ'
  else if code = 0x17F then some 's'
  else if code = 0x3002 || code = 0xFF0E || code = 0xFF61 then some '.'
  else if 0xFF01 ≤ code && code ≤ 0xFF5E then some (small (Char.ofNat (code - 0xFEE0)))
  else
    (farCapitals.find? fun (low, high, _) => low ≤ code && code ≤ high).map fun (_, _, distance) =>
      Char.ofNat (code + distance)

/-- Characters that no domain name may have. -/
def isForbiddenInName (c : Char) : Bool :=
  c.toNat ≤ 32 || c.toNat = 127 || "%#/:<>?@[\\]^|".toList.contains c

/-- A label in the alphabet of name servers. One that claims to be written in it already has to
be what writing its meaning gives. -/
def label? (label : List Char) : Option (List Char) :=
  if label.all (·.toNat < 128) then
    match afterBeginning? "xn--".toList label with
    | none => some label
    | some code => do
      let meaning ← Punycode.decode? code
      if meaning.all (fun c => nameCharacter? c = some c) ∧ meaning.any (128 ≤ ·.toNat) ∧
          Punycode.encode meaning = code then some label
      else none
  else some ("xn--".toList ++ Punycode.encode label)

/-- A domain name in its one form. -/
def domainName? (octets : List UInt8) : Option (List Char) := do
  let text ← textOfOctets? octets
  let characters ← text.toList.mapM nameCharacter?
  if characters.any isForbiddenInName then none
  else
    let labels ← (fields '.' characters).mapM label?
    some (joined '.' labels)

/-! ### Numbers as hosts -/

/-- A part of a numeric host: octal after a zero, hexadecimal after `0x`, otherwise decimal. -/
def hostNumber? (characters : List Char) : Option Nat :=
  let value (base : Nat) (digits : List Char) : Option Nat := do
    let values ← digits.mapM hexDigit?
    if values.all (· < base) then some (values.foldl (fun value digit => value * base + digit) 0)
    else none
  match characters with
  | [] => none
  | '0' :: 'x' :: digits => value 16 digits
  | '0' :: 'X' :: digits => value 16 digits
  | '0' :: digit :: digits => value 8 (digit :: digits)
  | digits => value 10 digits

/-- The labels of a name, without the empty one after a final point. -/
def nameParts (name : List Char) : List (List Char) :=
  let parts := fields '.' name
  match parts.reverse with
  | [] :: before :: others => (before :: others).reverse
  | _ => parts

/-- Whether the last label of a name is a number. -/
def endsInNumber (name : List Char) : Bool :=
  match (nameParts name).getLast? with
  | none => false
  | some [] => false
  | some last => last.all (·.isDigit) || (hostNumber? last).isSome

/-- The address that numbers spell: each but the last is an octet, the last fills the rest. -/
def ofHostNumbers? (numbers : List Nat) : Option Ipv4 := do
  let last ← numbers.getLast?
  let octets := numbers.dropLast
  if octets.length ≤ 3 ∧ octets.all (· ≤ 255) ∧ last < Nat.pow 256 (4 - octets.length) then
    let upper := octets.foldl (fun value octet => value * 256 + octet) 0
    some (Ipv4.ofNat (upper * Nat.pow 256 (4 - octets.length) + last))
  else none

/-! ### Hosts -/

/-- A host. -/
inductive Host where
  | named (name : List Char)
  | v4 (address : Ipv4)
  | v6 (address : Ipv6)
  deriving DecidableEq

namespace Host

/-- The host as text. -/
def text : Host → List Char
  | .named name => name
  | .v4 address => address.text
  | .v6 address => '[' :: address.text ++ [']']

/-- Reads an address in brackets, whose opening one has been read. -/
def bracketed (rest : List Char) : Except UrlError Host :=
  match rest.reverse with
  | ']' :: inside =>
    match Ipv6.read? inside.reverse with
    | some address => .ok (.v6 address)
    | none => .error .invalidIpv6
  | _ => .error .invalidIpv6

/-- Reads a host that can be looked up. -/
def ofName (characters : List Char) : Except UrlError Host :=
  match characters with
  | '[' :: rest => bracketed rest
  | _ =>
    match domainName? (resolved characters) with
    | none => .error .internationalName
    | some [] => .error .emptyHost
    | some name =>
      if endsInNumber name then
        match (nameParts name).mapM hostNumber? >>= ofHostNumbers? with
        | some address => .ok (.v4 address)
        | none => .error .invalidIpv4
      else .ok (.named name)

/-- Characters that a host without further meaning may not have. -/
def isForbidden (c : Char) : Bool :=
  c.toNat = 0 || "\t\n\r #/:<>?@[\\]^|".toList.contains c

/-- Whether a character is a control character. -/
def isControl (c : Char) : Bool :=
  c.toNat < 32 || c.toNat = 127

/-- Reads a host that is kept as it is written. -/
def verbatim (characters : List Char) : Except UrlError Host :=
  match characters with
  | '[' :: rest => bracketed rest
  | _ =>
    if characters.any isForbidden then .error .invalidCharacter
    else .ok (.named (escaped isControl characters))

end Host

end UserDashboard.Net
