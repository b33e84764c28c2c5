/-
This file reads settings from the environment.

A variable is a setting if its name begins with the service's own, in letters of either case, and
two underscores; two underscores stand between the names of a path. Its value is taken for a truth
value, a whole number or a number with a fraction if it reads as one, and for a text otherwise.
-/

import UserDashboard.Settings.Value
import UserDashboard.Text.Blank

namespace UserDashboard.Settings.Environment

open Number Text

/-! ### Numbers with a fraction -/

/-- The power of ten of a number. -/
def power? (characters : List Char) : Option Int :=
  match characters with
  | '-' :: digits => (readNat? digits).map fun value => -value
  | '+' :: digits => (readNat? digits).map fun value => (value : Int)
  | digits => (readNat? digits).map fun value => (value : Int)

/-- A number of digits with a point and a power of ten, either of which may be missing, as may the
digits on one side of the point. Infinity takes the place of what is too large. -/
def decimal? (negative : Bool) (characters : List Char) : Option Amount := do
  let (mantissa, power) ← match cutFirst? 'e' (characters.map small) with
    | some (mantissa, power) => (power? power).map fun power => (mantissa, power)
    | none => some (characters, 0)
  let (before, after) := (cutFirst? '.' mantissa).getD (mantissa, [])
  let significand ← readNat? (before ++ after)
  some <| match Binary64.ofDecimal? negative significand (power - after.length) with
    | some value => .finite value
    | none => .infinite negative

/-- A number with a fraction, infinity, or what stands for no number. -/
def amount? (characters : List Char) : Option Amount :=
  let (negative, rest) := match characters with
    | '-' :: rest => (true, rest)
    | '+' :: rest => (false, rest)
    | rest => (false, rest)
  let word := smallText (String.ofList rest)
  if word = "inf" ∨ word = "infinity" then some (.infinite negative)
  else if word = "nan" then some .undefined
  else decimal? negative rest

/-- What the value of a variable is taken for. -/
def valueOf (text : String) : Value :=
  let word := smallText text
  if word = "true" then .flag true
  else if word = "false" then .flag false
  else
    match readInt? int64Min int64Max text.toList with
    | some value => .whole value
    | none =>
      match amount? text.toList with
      | some amount => .amount amount
      | none => .text text

/-! ### Names -/

/-- A text in which points stand for pairs of underscores. -/
def dotted : List Char → List Char
  | '_' :: '_' :: rest => '.' :: dotted rest
  | c :: rest => c :: dotted rest
  | [] => []

/-- The path of the setting that a variable of some name is. -/
def path? (name : String) : Option String :=
  (afterBeginning? "carrot__".toList (name.toList.map small)).map fun rest =>
    String.ofList (dotted rest)

/-- The settings among the variables, at their paths. -/
def settings (environment : List (String × String)) : List (String × Value) :=
  environment.filterMap fun (name, value) => (path? name).map fun path => (path, valueOf value)

end UserDashboard.Settings.Environment
