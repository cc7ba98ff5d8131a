import ControlPlane.Http.FieldMap
import ControlPlane.Reply
import ControlPlane.Telemetry

/-!
# Responses

A reply as it goes out. A field whose name or value is not valid is left out,
with a warning; the reply itself still goes out. The other fields are kept the
way a message keeps them, with their names in lower case.

## Main definitions

* `Response`: Status, fields as kept, and body.
* `Response.ofReply`: The response for a reply, and the warnings.
* `Response.ofStatus`: A response that is a status only.
-/

namespace ControlPlane

namespace Http

/-- A reply as it goes out. -/
structure Response where
  status : Status
  headers : List Field
  body : ByteArray
  deriving DecidableEq

namespace Response

/-- The field as a message keeps it, if it is valid. -/
def keep? (field : Field) : Option Field :=
  match fieldName? field.1 with
  | some name => if isFieldValue field.2.toUTF8.toList then some (name, field.2) else none
  | none => none

/-- What is told about a field that is left out. -/
def droppedEvent (field : Field) : Telemetry.Observation :=
  Telemetry.log .warn .response "Dropping invalid output header" [("header", field.1)]

/-- The response for a reply, and a warning for each field that is left out. -/
def ofReply (reply : Reply) : Response × List Telemetry.Observation :=
  (⟨reply.status, gather (reply.headers.filterMap keep?), reply.body⟩,
    (reply.headers.filter fun field => (keep? field).isNone).map droppedEvent)

/-- A response without fields and body. -/
def ofStatus (status : Status) : Response :=
  ⟨status, [], ByteArray.empty⟩

end Response

end Http

end ControlPlane
