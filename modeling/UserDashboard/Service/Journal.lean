/-
This file says which messages of the service are told.

A filter is a list of rules about the parts of the service that messages come from. The rule that
names the most of a part's name decides, the later one of two that name the same, and messages
from a part without a rule are not told.
-/

import UserDashboard.Text.Blank
import UserDashboard.Text.Fields

namespace UserDashboard.Service

open Text

/-- How much is told, from nothing to everything. -/
inductive Detail where
  | off
  | error
  | warn
  | info
  | debug
  | trace
  deriving DecidableEq

namespace Detail

/-- How much that is in numbers. -/
def rank : Detail → Nat
  | .off => 0
  | .error => 1
  | .warn => 2
  | .info => 3
  | .debug => 4
  | .trace => 5

/-- The name of messages that are told from here on. -/
def text : Detail → String
  | .off => "OFF"
  | .error => "ERROR"
  | .warn => "WARN"
  | .info => "INFO"
  | .debug => "DEBUG"
  | .trace => "TRACE"

/-- Reads a name in letters of either case, or a number. -/
def read? (characters : List Char) : Option Detail :=
  let word := String.ofList (characters.map small)
  [(Detail.off, "off", "0"), (.error, "error", "1"), (.warn, "warn", "2"), (.info, "info", "3"),
    (.debug, "debug", "4"), (.trace, "trace", "5")].findSome? fun (detail, name, digit) =>
      if word = name ∨ word = digit then some detail else none

end Detail

/-- A message. -/
structure Message where
  /-- How important it is. -/
  detail : Detail
  /-- The part of the service that it comes from. -/
  origin : String
  /-- What it says. -/
  text : String
  deriving DecidableEq

/-- The message on a line. -/
def Message.line (message : Message) : String :=
  message.detail.text ++ " " ++ message.origin ++ ": " ++ message.text

/-- What is told of the parts whose names begin in some way. -/
structure FilterRule where
  /-- The beginning of the names. -/
  origin : List Char
  /-- How much is told. -/
  detail : Detail
  deriving DecidableEq

namespace FilterRule

/-- The characters of the names of parts. -/
def isOriginCharacter (c : Char) : Bool :=
  c.isAlphanum || c == '_' || c == ':' || c == '-'

/-- Reads a rule: how much is told of everything, or a name, after which an equals sign and how
much is told can stand. Without it everything is told. -/
def read? (characters : List Char) : Option FilterRule :=
  match Detail.read? characters with
  | some detail => some ⟨[], detail⟩
  | none =>
    let (origin, detail) := match cutFirst? '=' characters with
      | none => (characters, some Detail.trace)
      | some (origin, []) => (origin, some .trace)
      | some (origin, detail) => (origin, Detail.read? detail)
    if origin.isEmpty ∨ ¬origin.all isOriginCharacter then none
    else detail.map fun detail => ⟨origin, detail⟩

/-- Whether the rule is about a part. -/
def about (rule : FilterRule) (origin : String) : Bool :=
  (afterBeginning? rule.origin origin.toList).isSome

end FilterRule

/-- Which messages are told. -/
structure Filter where
  /-- The rules. -/
  rules : List FilterRule
  deriving DecidableEq

namespace Filter

/-- The filter that tells as much of every part. -/
def everywhere (detail : Detail) : Filter :=
  ⟨[⟨[], detail⟩]⟩

/-- Reads rules with commas between them. Only errors are told if there is none. -/
def read? (text : String) : Option Filter := do
  let rules ← ((fields ',' text.toList).filter (!·.isEmpty)).mapM FilterRule.read?
  some (if rules.isEmpty then everywhere .error else ⟨rules⟩)

/-- The rule that decides about a part. -/
def decisive? (filter : Filter) (origin : String) : Option FilterRule :=
  (filter.rules.filter (·.about origin)).foldl (fun best rule =>
    match best with
    | none => some rule
    | some other => if other.origin.length ≤ rule.origin.length then some rule else best) none

/-- Whether a message is told. -/
def tells (filter : Filter) (message : Message) : Bool :=
  match filter.decisive? message.origin with
  | some rule => message.detail.rank ≤ rule.detail.rank
  | none => false

/-- The filter that some settings ask for, which a text from the environment goes before. -/
def ofSettings (environment : Option String) (level : String) : Filter :=
  let usual := (read? level).getD (everywhere .info)
  match environment with
  | none => usual
  | some text => (read? text).getD (everywhere .info)

end Filter

end UserDashboard.Service
