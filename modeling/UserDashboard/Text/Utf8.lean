/-
This file reads octets as text.

A text that arrives as octets need not be well formed. Whether that matters depends on where the
fault stands: a fault in a part that a reader skips does no harm, a fault in a part that it needs
does. So octets are read into *glyphs*: a glyph is a character, or the mark that an octet belongs
to no character. An octet below 0x80 is always a character of its own, whatever stands before it,
which is why a fault never hides a quote or a bracket.
-/
namespace UserDashboard.Text

/-- A character, or `none` for an octet that belongs to no character. -/
abbrev Glyph := Option Char

/-- The glyphs of a well-formed text. -/
def glyphs (text : String) : List Glyph :=
  text.toList.map some

/-- Whether an octet continues a character. -/
def isTail (octet : UInt8) : Bool :=
  0x80 ≤ octet && octet ≤ 0xBF

/-- The six low bits of a continuing octet. -/
def tailBits (octet : UInt8) : Nat :=
  octet.toNat % 64

/-- A character of two octets, unless it has a shorter form. -/
def twoOctets? (a b : UInt8) : Option Char :=
  if 0xC2 ≤ a && a ≤ 0xDF && isTail b then
    some (Char.ofNat ((a.toNat % 32) * 64 + tailBits b))
  else none

/-- A character of three octets, unless it has a shorter form or is half of a surrogate pair. -/
def threeOctets? (a b c : UInt8) : Option Char :=
  let code := (a.toNat % 16) * 4096 + tailBits b * 64 + tailBits c
  if 0xE0 ≤ a && a ≤ 0xEF && isTail b && isTail c && 0x800 ≤ code &&
      !(0xD800 ≤ code && code ≤ 0xDFFF) then
    some (Char.ofNat code)
  else none

/-- A character of four octets, unless it has a shorter form or lies beyond U+10FFFF. -/
def fourOctets? (a b c d : UInt8) : Option Char :=
  let code := (a.toNat % 8) * 262144 + tailBits b * 4096 + tailBits c * 64 + tailBits d
  if 0xF0 ≤ a && a ≤ 0xF4 && isTail b && isTail c && isTail d && 0x10000 ≤ code &&
      code ≤ 0x10FFFF then
    some (Char.ofNat code)
  else none

/-- The glyphs of a run of octets, an octet that belongs to no character standing alone. -/
def glyphsOfOctets : List UInt8 → List Glyph
  | [] => []
  | a :: rest =>
    if a < 0x80 then some (Char.ofNat a.toNat) :: glyphsOfOctets rest
    else
      match rest with
      | b :: c :: d :: after =>
        match fourOctets? a b c d, threeOctets? a b c, twoOctets? a b with
        | some character, _, _ => some character :: glyphsOfOctets after
        | none, some character, _ => some character :: glyphsOfOctets (d :: after)
        | none, none, some character => some character :: glyphsOfOctets (c :: d :: after)
        | none, none, none => none :: glyphsOfOctets (b :: c :: d :: after)
      | [b, c] =>
        match threeOctets? a b c, twoOctets? a b with
        | some character, _ => some character :: glyphsOfOctets []
        | none, some character => some character :: glyphsOfOctets [c]
        | none, none => none :: glyphsOfOctets [b, c]
      | [b] =>
        match twoOctets? a b with
        | some character => [some character]
        | none => none :: glyphsOfOctets [b]
      | [] => [none]
termination_by octets => octets.length
decreasing_by all_goals simp_wf <;> omega

/-- The text that octets spell, if they spell one. -/
def textOfOctets? (octets : List UInt8) : Option String :=
  ((glyphsOfOctets octets).mapM id).map String.ofList

end UserDashboard.Text
