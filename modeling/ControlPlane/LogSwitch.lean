import ControlPlane.Config.Basic
import ControlPlane.LogFilter
import ControlPlane.Text.Quoted

/-!
# The Dump Switch

Full dumps of requests and replies can be switched on and off while the server
runs. Every time the filter is built anew from the same base directives, with one
more rule if dumps are on, so that switching off brings back exactly what the
base says.

The base directives come from the environment if it has any, and otherwise from
the configuration.

## Main definitions

* `LogSwitch`: The base directives and the position of the switch.
* `LogSwitch.filter`: The filter in force.
* `LogSwitch.start`: The switch at the start of the program.
* `LogSwitch.set`: Turns the switch.
-/

namespace ControlPlane

open Telemetry (Observation)

/-- The base directives and the position of the switch. -/
structure LogSwitch where
  directives : String
  dumps : Bool
  deriving DecidableEq

namespace LogSwitch

/-- The rule that shows every dump. -/
def dumpRule : LogRule :=
  ⟨some Telemetry.Source.dumps.name, [], some .trace⟩

/-- The filter of base directives, with or without dumps. -/
def compose (directives : String) (dumps : Bool) : LogFilter :=
  let base := LogFilter.ofText directives
  if dumps then base.add dumpRule else base

/-- The filter in force. -/
def filter (s : LogSwitch) : LogFilter :=
  compose s.directives s.dumps

/-- The base directives: those of the environment if they are more than blanks. -/
def base (environment : Option String) (o : Observability) : String :=
  match environment with
  | some directives => if Text.trim directives = "" then o.filter else directives
  | none => o.filter

/-- The switch at the start of the program. -/
def start (environment : Option String) (o : Observability) : LogSwitch :=
  ⟨base environment o, o.dumps⟩

/-- The text of a truth value in the log. -/
def truth (b : Bool) : String :=
  if b then "true" else "false"

/-- Turns the switch. -/
def set (s : LogSwitch) (dumps : Bool) : LogSwitch × Observation :=
  ({ s with dumps := dumps },
    Telemetry.log .info .logging "HTTP trace logging updated" [("enabled", truth dumps)])

/-- Turns the switch to its other position. -/
def toggle (s : LogSwitch) : LogSwitch × Observation :=
  s.set (!s.dumps)

/-- The events of what was told that the filter in force shows. -/
def shown (s : LogSwitch) (told : List Observation) : List Telemetry.Event :=
  (Telemetry.events told).filter s.filter.shows

/-- The switch with its parts, as messages show it. -/
def describe (s : LogSwitch) : String :=
  "LogHandle \x7b directives: " ++ Text.quoted s.directives ++ ", http_trace: " ++
    truth s.dumps ++ " \x7d"

end LogSwitch

end ControlPlane
