import ControlPlane.Address.Socket
import ControlPlane.Http.FieldMap
import ControlPlane.Http.Target

/-!
# Requests

What a connection knows of a request before the body: who sent it, what it asks
for, and the header fields.

The fields of a request are listed the way a message keeps them, so those of one
name stand together. A value that is not well-formed text is shown with
replacement characters.

## Main definitions

* `RequestHead`: Everything before the body.
* `RequestLine`: The parts of a request as they were sent.
* `RequestHead.ofLine`: The head of a request, or what is wrong with it.
-/

namespace ControlPlane

/-- Everything of a request that comes before its body. -/
structure RequestHead where
  peer : SocketAddress
  method : Http.Method
  /-- The path and the query as sent. -/
  target : String
  headers : List Http.Field
  deriving DecidableEq

/-- The parts of a request as they were sent. -/
structure RequestLine where
  method : String
  target : String
  headers : List (String × List UInt8)

/-- What can be wrong with the parts of a request. -/
inductive InvalidRequest where
  | method
  | target
  | headerName
  | headerValue
  deriving DecidableEq

namespace RequestHead

/-- The fields of a request with their names as kept, up to the first that is
    not valid. -/
def readFields : List (String × List UInt8) →
    Except InvalidRequest (List (String × List UInt8))
  | [] => .ok []
  | (name, value) :: rest =>
    match Http.fieldName? name with
    | none => .error .headerName
    | some kept =>
      if Http.isFieldValue value then
        match readFields rest with
        | .error e => .error e
        | .ok fields => .ok ((kept, value) :: fields)
      else .error .headerValue

/-- Fields as a handler sees them. -/
def shown (fields : List (String × List UInt8)) : List Http.Field :=
  (Http.gather fields).map fun field => (field.1, Text.ofOctets field.2)

/-- The head of a request, or what is wrong with it. The method is looked at
    first, then the target, then the fields in order. -/
def ofLine (line : RequestLine) (peer : SocketAddress) : Except InvalidRequest RequestHead :=
  match Http.Method.ofToken? line.method with
  | none => .error .method
  | some method =>
    match Http.target? line.target with
    | none => .error .target
    | some target =>
      match readFields line.headers with
      | .error e => .error e
      | .ok fields => .ok ⟨peer, method, target, shown fields⟩

end RequestHead

end ControlPlane
