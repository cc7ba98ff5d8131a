import ControlPlane.LogFilter.Directive

/-!
# Log Filters

Which events the log shows. A filter is written as directives with commas between
them. Of the directives that concern an event the most specific one decides, and
the event is shown if it is at least as urgent as the level that the directive
gives.

A directive that is not understood is left out. If none is left, only errors are
shown. No event here happens in a span of time, so a directive about spans or about
values shows nothing, but it counts as a directive.

## Main definitions

* `LogRule`: What a directive says about events.
* `LogFilter`: The rules of a filter.
* `LogFilter.ofText`: Reads a filter.
* `LogFilter.threshold`, `LogFilter.shows`: What decides about a source and an event.
-/

namespace ControlPlane

open Telemetry (Event)

/-- A rule for the events of some sources that have some fields. -/
structure LogRule where
  target : Option String
  fields : List String
  threshold : Threshold
  deriving DecidableEq

namespace LogRule

/-- The rule of a directive, if it has one. -/
def ofDirective? (d : Directive) : Option LogRule :=
  if d.isConditional then none
  else some ⟨d.target, d.fields.map (·.name), d.threshold⟩

/-- The rule is about a source. -/
def concerns (source : String) (r : LogRule) : Bool :=
  match r.target with
  | none => true
  | some target => (Text.dropFront? target.toList source.toList).isSome

/-- The rule asks for the same as another one. -/
def sameScope (r other : LogRule) : Bool :=
  r.target = other.target && r.fields = other.fields

/-- How long a target is, none being shorter than any. -/
def targetLength (r : LogRule) : Nat :=
  match r.target with
  | none => 0
  | some target => target.utf8ByteSize + 1

/-- The rule is more specific than another one: its target is longer, or as long
    with more fields. What is left is decided by the names. -/
def outranks (r other : LogRule) : Bool :=
  if r.targetLength ≠ other.targetLength then other.targetLength < r.targetLength
  else if r.fields.length ≠ other.fields.length then other.fields.length < r.fields.length
  else if r.target ≠ other.target then other.target.getD "" < r.target.getD ""
  else other.fields < r.fields

end LogRule

/-- The rules of a filter, at most one for each scope. -/
structure LogFilter where
  rules : List LogRule
  deriving DecidableEq

namespace LogFilter

/-- The filter with one more rule, in place of one for the same scope. -/
def add (f : LogFilter) (r : LogRule) : LogFilter :=
  ⟨f.rules.filter (fun other => !r.sameScope other) ++ [r]⟩

/-- The filter of directives. Without any, errors are shown. -/
def ofDirectives : List Directive → LogFilter
  | [] => ⟨[⟨none, [], some .error⟩]⟩
  | ds => (ds.filterMap LogRule.ofDirective?).foldl add ⟨[]⟩

/-- Reads a filter, leaving out what is not understood. -/
def ofText (s : String) : LogFilter :=
  ofDirectives (((Text.splitAll ',' s.toList).filterMap fun part =>
    Directive.ofText? (String.ofList part)))

/-- The most specific of some rules. -/
def deciding? : List LogRule → Option LogRule
  | [] => none
  | r :: rest =>
    match deciding? rest with
    | none => some r
    | some best => if best.outranks r then some best else some r

/-- What is shown of a source, fields aside. -/
def threshold (f : LogFilter) (source : String) : Threshold :=
  ((deciding? (f.rules.filter fun r => r.concerns source)).map (·.threshold)).getD none

/-- An event is shown. Its message counts as a field. -/
def shows (f : LogFilter) (e : Event) : Bool :=
  let names := "message" :: e.fields.map Prod.fst
  let concerning := f.rules.filter fun r =>
    r.concerns e.source.name && r.fields.all names.contains
  match deciding? concerning with
  | none => false
  | some r => e.level.verbosity ≤ r.threshold.verbosity

end LogFilter

end ControlPlane
