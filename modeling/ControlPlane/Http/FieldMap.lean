import ControlPlane.Http.Field
import ControlPlane.Http.Method
import ControlPlane.Text.Utf8

/-!
# Fields of a Message

What a message can hold. A field name is a token, kept in lower case; a value is
any octets but control characters, of which only the tab is allowed. A message
keeps the fields of one name together, at the place where the name came first,
and in order among themselves.

## Main definitions

* `fieldName?`: The kept form of a name, if it is valid.
* `isFieldValue`: The octets may be a value.
* `named`, `notNamed`: The fields of a name, and the others.
* `gather`: Fields as a message keeps them.
* `visible?`: A value as text, if it shows no more than ASCII.
-/

namespace ControlPlane

namespace Http

/-- The longest field name. -/
def maxNameLength : Nat := 65535

/-- The kept form of a field name, if it is valid. -/
def fieldName? (name : String) : Option String :=
  if name.isEmpty || maxNameLength < name.length || !name.toList.all isTokenChar then none
  else some (Text.lowerCase name)

/-- The octet may stand in a field value. -/
def isValueOctet (b : UInt8) : Bool :=
  (32 ≤ b && b != 127) || b == 9

/-- The octets may be a field value. -/
def isFieldValue (octets : List UInt8) : Bool :=
  octets.all isValueOctet

/-- The fields with the name. -/
def named {α : Type} (name : String) (fields : List (String × α)) : List (String × α) :=
  fields.filter fun field => field.1 == name

/-- The fields with other names. -/
def notNamed {α : Type} (name : String) (fields : List (String × α)) : List (String × α) :=
  fields.filter fun field => field.1 != name

/-- Fields as a message keeps them: those of one name together, in the order in
    which the names came first. -/
def gather {α : Type} : List (String × α) → List (String × α)
  | [] => []
  | field :: rest => field :: named field.1 rest ++ gather (notNamed field.1 rest)
termination_by fields => fields.length
decreasing_by
  exact Nat.lt_succ_of_le (List.length_filter_le _ rest)

/-- The value as text, if it holds visible characters of ASCII, spaces and tabs
    only. -/
def visible? (value : String) : Option String :=
  if value.toList.all fun c => (32 ≤ c.toNat && c.toNat < 127) || c == '\t' then some value
  else none

end Http

end ControlPlane
