import ControlPlane.Telemetry
import ControlPlane.Text.Quoted
import ControlPlane.Text.Split

/-!
# Routes

Which handler serves a request. A table holds patterns in the order in which
they were registered, and the first one that matches a target decides; a longer
or more specific pattern registered later does not take over.

A pattern either is the whole target or is how the target begins. Targets are
compared as they were sent, character by character.

## Main definitions

* `MatchMode`, `Matcher`: A pattern and how it is compared.
* `Matcher.rest?`: What a match leaves of a target.
* `RouteTable`: Patterns with what they lead to, the oldest first.
* `RouteTable.register`, `RouteTable.unregister`, `RouteTable.resolve`: The
  operations on a table.
-/

namespace ControlPlane

/-- How a pattern is compared with a target. -/
inductive MatchMode where
  /-- The target is the pattern. -/
  | exact
  /-- The target begins with the pattern. -/
  | leading
  deriving DecidableEq

namespace MatchMode

/-- The mode that a configuration flag stands for. -/
def ofExact (isExact : Bool) : MatchMode :=
  if isExact then .exact else .leading

/-- The whole target is compared. -/
def isExact : MatchMode → Bool
  | .exact => true
  | .leading => false

/-- The name of the mode. -/
def name : MatchMode → String
  | .exact => "Exact"
  | .leading => "Prefix"

end MatchMode

/-- A pattern for targets. -/
structure Matcher where
  pattern : String
  mode : MatchMode
  deriving DecidableEq

namespace Matcher

/-- What follows the pattern in a target that matches it. Nothing follows a
    pattern that is the whole target. -/
def rest? (m : Matcher) (target : String) : Option String :=
  match m.mode with
  | .exact => if target = m.pattern then some "" else none
  | .leading => (Text.dropFront? m.pattern.toList target.toList).map String.ofList

/-- The matcher with its parts on one line. -/
def describe (m : Matcher) : String :=
  "PathMatcher \x7b prefix: " ++ Text.quoted m.pattern ++ ", mode: " ++ m.mode.name ++ " \x7d"

/-- The matcher with each part on a line of its own, as an element of a list. -/
def describeTall (m : Matcher) : String :=
  "    PathMatcher \x7b\n        prefix: " ++ Text.quoted m.pattern ++ ",\n        mode: " ++
    m.mode.name ++ ",\n    \x7d,\n"

/-- The words by which events name the matcher. -/
def announced (m : Matcher) : String :=
  m.pattern ++ " (exactmatch " ++ (if m.mode.isExact then "true" else "false") ++ ")"

end Matcher

/-- Patterns with what they lead to, in the order of registration. -/
structure RouteTable (α : Type) where
  entries : List (Matcher × α) := []

namespace RouteTable

variable {α : Type}

/-- Adds an entry behind all others. -/
def register (table : RouteTable α) (m : Matcher) (handler : α) : RouteTable α :=
  ⟨table.entries ++ [(m, handler)]⟩

/-- Some entry was registered with exactly this matcher. -/
def has (table : RouteTable α) (m : Matcher) : Bool :=
  table.entries.any fun entry => entry.1 = m

/-- Removes the oldest entry registered with exactly this matcher, if there is
    one. -/
def unregister (table : RouteTable α) (m : Matcher) : RouteTable α :=
  ⟨table.entries.eraseP fun entry => entry.1 = m⟩

/-- What the oldest matching entry leads to, and what its match leaves of the
    target. -/
def resolve (table : RouteTable α) (target : String) : Option (α × String) :=
  table.entries.findSome? fun entry => (entry.1.rest? target).map fun rest => (entry.2, rest)

/-- The matchers of the table on one line. -/
def describe (table : RouteTable α) : String :=
  "[" ++ ", ".intercalate (table.entries.map fun entry => entry.1.describe) ++ "]"

/-- The matchers of the table with each part on a line of its own. -/
def describeTall (table : RouteTable α) : String :=
  if table.entries.isEmpty then "[]"
  else "[\n" ++ String.join (table.entries.map fun entry => entry.1.describeTall) ++ "]"

/-- The event that tells of a new entry. -/
def registered (m : Matcher) : Telemetry.Observation :=
  Telemetry.log .debug .router ("Registering HTTP handler for " ++ m.announced)

/-- The event that tells of a removed entry. -/
def unregistered (m : Matcher) : Telemetry.Observation :=
  Telemetry.log .debug .router ("Unregistering HTTP handler for " ++ m.announced)

end RouteTable

end ControlPlane
