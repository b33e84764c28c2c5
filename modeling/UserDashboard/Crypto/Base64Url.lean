/-
This file writes octets as text in the URL-safe alphabet of RFC 4648, without padding.

Each run of octets has one text and each text at most one run of octets: the reader refuses
padding, characters outside the alphabet, a single character at the end, and bits that are not
zero where the last character holds more bits than an octet needs.
-/
namespace UserDashboard.Crypto.Base64Url

/-- The 64 characters in the order of their values. -/
def alphabet : List Char :=
  "ABCDEFGHIJKLMNOPQRSTUVWXYZabcdefghijklmnopqrstuvwxyz0123456789-_".toList

/-- The character of a value below 64. -/
def symbol (value : Nat) : Char :=
  alphabet.getD (value % 64) 'A'

/-- The value of a character. -/
def value? (c : Char) : Option Nat :=
  alphabet.findIdx? (· == c)

/-- The text of octets, three by three. -/
def encode : List UInt8 → List Char
  | a :: b :: c :: rest =>
    let bits := a.toNat * 65536 + b.toNat * 256 + c.toNat
    symbol (bits / 262144) :: symbol (bits / 4096) :: symbol (bits / 64) :: symbol bits ::
      encode rest
  | [a, b] =>
    let bits := a.toNat * 1024 + b.toNat * 4
    [symbol (bits / 4096), symbol (bits / 64), symbol bits]
  | [a] =>
    let bits := a.toNat * 16
    [symbol (bits / 64), symbol bits]
  | [] => []

/-- The octets of a text, four characters by four. -/
def decode? : List Char → Option (List UInt8)
  | a :: b :: c :: d :: rest => do
    let bits := (((← value? a) * 64 + (← value? b)) * 64 + (← value? c)) * 64 + (← value? d)
    let octets ← decode? rest
    some (UInt8.ofNat (bits / 65536) :: UInt8.ofNat (bits / 256) :: UInt8.ofNat bits :: octets)
  | [a, b, c] => do
    let bits := ((← value? a) * 64 + (← value? b)) * 64 + (← value? c)
    if bits % 4 = 0 then some [UInt8.ofNat (bits / 1024), UInt8.ofNat (bits / 4)] else none
  | [a, b] => do
    let bits := (← value? a) * 64 + (← value? b)
    if bits % 16 = 0 then some [UInt8.ofNat (bits / 16)] else none
  | [_] => none
  | [] => some []

end UserDashboard.Crypto.Base64Url
