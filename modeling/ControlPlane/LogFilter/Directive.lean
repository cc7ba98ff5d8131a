import ControlPlane.Pattern.Basic
import ControlPlane.Telemetry
import ControlPlane.Text.Place

/-!
# Directives

The parts of a log filter. A directive gives a level to the sources whose names
begin with a given text, or to all of them. Between brackets it may ask for a span
of time with a given name, and between braces for a field of an event. A field may
have to have a value that is a number or fits a pattern.

Blanks around a directive do not count when its signs are looked for. The parts
between the signs are then taken from the whole text at the same places, blanks
included, so in front of a directive a blank moves every part by one octet. A level
must not have blanks, and a part that would begin inside a character is none.

## Main definitions

* `Threshold`: A level, or nothing at all.
* `FieldDemand`: A field that a directive asks for.
* `Directive`: One directive.
* `Directive.ofText?`: Reads a directive.
-/

namespace ControlPlane

open Telemetry (Level)

/-- The most verbose level that is shown, if any is. -/
abbrev Threshold := Option Level

namespace Threshold

/-- How much a threshold shows. -/
def verbosity : Threshold → Nat
  | none => 0
  | some level => level.verbosity

/-- The name of a threshold. -/
def name : Threshold → String
  | none => "off"
  | some level => Text.lowerCase level.name

/-- The thresholds, those that show less first. -/
def all : List Threshold :=
  [none, some .error, some .warn, some .info, some .debug, some .trace]

/-- Reads a threshold: its name in letters of any case, or its place in the order. -/
def ofText? (s : String) : Option Threshold :=
  match (Text.unsigned? (Nat.pow 2 64) s.toList).bind fun n => all[n]? with
  | some t => some t
  | none => all.find? fun t => t.name = Text.lowerCase s

end Threshold

/-- A field that a directive asks for, perhaps with a value. -/
structure FieldDemand where
  name : String
  value : Option String := none
  deriving DecidableEq

namespace FieldDemand

/-- The text is a positive or an unsigned decimal fraction, perhaps with an exponent
    of ten. -/
def isDecimal (cs : List Char) : Bool :=
  let (whole, rest) := Text.digits 10 cs
  let (places, rest) := match rest with
    | '.' :: rest => Text.digits 10 rest
    | _ => ([], rest)
  !(whole ++ places).isEmpty && match rest with
    | [] => true
    | c :: rest =>
      (c = 'e' || c = 'E') && (Text.digitsOnly? (match rest with
        | '+' :: rest | '-' :: rest => rest
        | _ => rest)).isSome

/-- The text names a number that no digits can write. -/
def isNamedNumber (cs : List Char) : Bool :=
  ["inf", "infinity", "nan"].contains (Text.lowerCase (String.ofList cs))

/-- A value can be asked for if it is a number or a pattern. A number without a plus
    sign is a pattern as well. -/
def isValue : List Char → Bool
  | '+' :: cs => isDecimal cs || isNamedNumber cs
  | cs => Pattern.isValid cs

/-- Reads a field with its value, if it has one. What follows a second equals sign
    does not count. -/
def ofText? (cs : List Char) : Option FieldDemand :=
  match Text.splitAll '=' cs with
  | [] | [[]] => none
  | [name] => some ⟨String.ofList name, none⟩
  | name :: value :: _ =>
    if isValue value then some ⟨String.ofList name, some (String.ofList value)⟩ else none

end FieldDemand

/-- A directive: the sources, the spans and the fields that it asks for, and the
    level that it gives to what has them. -/
structure Directive where
  target : Option String := none
  span : Option String := none
  fields : List FieldDemand := []
  threshold : Threshold := some .trace
  deriving DecidableEq

namespace Directive

/-- A character with which the name of a source may begin. -/
def beginsTarget (c : Char) : Bool :=
  c = '-' || c = ':' || c = '_' || Text.isLetterOrNumeral c

/-- Reads the level from a place to the end. Without one everything is shown. -/
def level? (whole : List Char) (place : Nat) : Option Threshold :=
  match Text.dropTo? place whole with
  | none => none
  | some [] => some (some .trace)
  | some cs => Threshold.ofText? (String.ofList cs)

/-- Reads what follows the brackets: nothing, or an equals sign and a level. -/
def afterSpan? (whole : List Char) (place : Nat) : List Char → Option Threshold
  | [] => some (some .trace)
  | '=' :: _ => level? whole (place + 1)
  | _ :: _ => none

/-- Reads a field from its first place, and what follows its brace and the closing
    bracket. -/
def demanding? (whole : List Char) (d : Directive) (first : Nat) (rest : List Char) :
    Option Directive :=
  match Text.seek (· = '\x7d') first rest with
  | some (_, place, ']' :: rest) =>
    match (Text.cut? first place whole).bind FieldDemand.ofText?, afterSpan? whole (place + 2) rest with
    | some field, some threshold => some { d with fields := [field], threshold := threshold }
    | _, _ => none
  | _ => none

/-- Reads what follows an opening bracket: a span, a field between braces or
    both, and what follows the closing bracket. -/
def bracketed? (whole : List Char) (target : Option String) (first : Nat) (rest : List Char) :
    Option Directive :=
  match Text.seek (fun c => c = ']' || c = '\x7b') first rest with
  | none => none
  | some (sign, place, rest) =>
    match Text.cut? first place whole with
    | none => none
    | some span =>
      if sign = ']' then
        (afterSpan? whole (place + 1) rest).map fun threshold =>
          { target := target, span := some (String.ofList span), threshold := threshold }
      else
        let named := if span.isEmpty then none else some (String.ofList span)
        demanding? whole { target := target, span := named } (place + 1) rest

/-- Reads a directive that is a name by itself, which may also be that of a level. -/
def ofName (name : String) : Directive :=
  match Threshold.ofText? name with
  | some threshold => { threshold := threshold }
  | none => { target := some name }

/-- Reads a directive that begins with a name. -/
def named? (whole trimmed : List Char) : Option Directive :=
  match Text.seek (fun c => c = '=' || c = '[') 0 trimmed with
  | none => some (ofName (String.ofList whole))
  | some (sign, place, rest) =>
    match Text.takeTo? place whole with
    | none => none
    | some name =>
      let target := some (String.ofList name)
      if sign = '=' then
        (level? whole (place + 1)).map fun threshold => { target := target, threshold := threshold }
      else bracketed? whole target (place + 1) rest

/-- Reads a directive. -/
def ofText? (s : String) : Option Directive :=
  match Text.trimBlank s.toList with
  | [] => none
  | c :: rest =>
    if c = '[' then bracketed? s.toList none 1 rest
    else if beginsTarget c then named? s.toList (c :: rest)
    else none

/-- The directive is about spans or about the values of fields. -/
def isConditional (d : Directive) : Bool :=
  d.span.isSome || d.fields.any fun field => field.value.isSome

end Directive

end ControlPlane
