import ControlPlane.Text.Split

/-!
# Header Fields

Named values before the body of a message. A list of fields keeps the order in
which they came and every repetition; names are compared without regard to the
case of ASCII letters.

## Main definitions

* `Field`: A name and a value.
* `sameName`: Two names mean the same field.
* `firstValue?`: The value of the first field of a name.
* `fieldLines`: The fields as text, one to a line.
-/

namespace ControlPlane

namespace Http

/-- The name and the value of a header field. -/
abbrev Field := String × String

/-- The names mean the same field. -/
def sameName (a b : String) : Bool :=
  Text.lowerCase a == Text.lowerCase b

/-- The value of the first field with the name. -/
def firstValue? (name : String) (fields : List Field) : Option String :=
  (fields.find? fun field => sameName field.1 name).map Prod.snd

/-- The fields as text, one to a line. -/
def fieldLines (fields : List Field) : String :=
  "\n".intercalate (fields.map fun field => field.1 ++ ": " ++ field.2)

/-- The field that asks the client not to reuse the connection. -/
def closeField : Field :=
  ("Connection", "close")

end Http

end ControlPlane
