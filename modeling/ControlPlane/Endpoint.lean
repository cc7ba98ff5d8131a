import ControlPlane.Telemetry
import ControlPlane.Text.Blank
import ControlPlane.Text.Numeral
import ControlPlane.Text.Quoted
import ControlPlane.Text.Split

/-!
# Endpoints

A host and a port to listen on, and the choice of the endpoints of a server.

The written form is the host, with a colon and the port after it. A host with
colons of its own stands in brackets. An entry may leave out the port, and then
a default port applies; an entry with several colons and no brackets is a host
without a port.

Exposing the server beyond the host it runs on takes two decisions: who may
connect, and where to listen. With only one of them made, the server listens on
the host's own addresses.

## Main definitions

* `Endpoint`: A host and a port.
* `Endpoint.ofText`: Reads an entry, with a default port.
* `Endpoint.toText`: The written form.
* `Endpoint.choose`: The endpoints that a configuration asks for.
* `InvalidEndpoint`: An entry that is no endpoint.
-/

namespace ControlPlane

/-- A host and a port to listen on. The empty host means every interface. -/
structure Endpoint where
  host : String
  port : UInt16
  deriving DecidableEq

/-- An entry that is no endpoint. -/
structure InvalidEndpoint where
  text : String
  deriving DecidableEq

/-- The wording of the error. -/
def InvalidEndpoint.message (e : InvalidEndpoint) : String :=
  "invalid bind address " ++ Text.quoted e.text

namespace Endpoint

/-- Reads all of the characters as a port. -/
def port? (cs : List Char) : Option UInt16 :=
  (Text.unsigned? 65536 cs).map UInt16.ofNat

/-- Reads what follows an opening bracket: a host up to the first closing
    bracket, and then nothing or a colon and a port. -/
def bracketed? (rest : List Char) (defaultPort : UInt16) : Option Endpoint :=
  match Text.splitFirst ']' rest with
  | none => none
  | some (host, []) => some ⟨String.ofList host, defaultPort⟩
  | some (host, ':' :: port) => (port? port).map fun p => ⟨String.ofList host, p⟩
  | some (_, _ :: _) => none

/-- Reads an entry that does not begin with a bracket. -/
def plain? (cs : List Char) (defaultPort : UInt16) : Option Endpoint :=
  match Text.splitLast ':' cs with
  | none => some ⟨String.ofList cs, defaultPort⟩
  | some (host, port) =>
    if ':' ∈ host then some ⟨String.ofList cs, defaultPort⟩
    else (port? port).map fun p => ⟨String.ofList host, p⟩

/-- Reads a whole text as an endpoint, if it is one. -/
def ofText? (s : String) (defaultPort : UInt16) : Option Endpoint :=
  match s.toList with
  | '[' :: rest => bracketed? rest defaultPort
  | cs => plain? cs defaultPort

/-- Reads a whole text as an endpoint, or names the text that is none. -/
def ofText (s : String) (defaultPort : UInt16) : Except InvalidEndpoint Endpoint :=
  match ofText? s defaultPort with
  | some e => .ok e
  | none => .error ⟨s⟩

/-- The host and the port, the host in brackets if it has a colon. -/
def toText (e : Endpoint) : String :=
  if ':' ∈ e.host.toList then "[" ++ e.host ++ "]:" ++ Text.decimal e.port.toNat
  else e.host ++ ":" ++ Text.decimal e.port.toNat

/-- The endpoints of a server that is not exposed. -/
def loopback (port : UInt16) : List Endpoint :=
  [⟨"::1", port⟩, ⟨"127.0.0.1", port⟩]

/-- Reads entries one after the other, without the blanks around them, up to
    the first that is no endpoint. -/
def readEntries (defaultPort : UInt16) : List String → Except InvalidEndpoint (List Endpoint)
  | [] => .ok []
  | entry :: rest =>
    match ofText (Text.trim entry) defaultPort with
    | .error e => .error e
    | .ok endpoint =>
      match readEntries defaultPort rest with
      | .error e => .error e
      | .ok endpoints => .ok (endpoint :: endpoints)

/-- What is told when only one of the two lists has entries. -/
def choiceWarnings (bind allow : List String) : List Telemetry.Observation :=
  if !bind.isEmpty && !allow.isEmpty then []
  else
    (if allow.isEmpty then [] else
      [Telemetry.log .warn .listener
        ("option -rpcallowip was specified without -rpcbind; " ++
          "this doesn't usually make sense")]) ++
    (if bind.isEmpty then [] else
      [Telemetry.log .warn .listener
        ("option -rpcbind was ignored because -rpcallowip was not specified, " ++
          "refusing to allow everyone to connect")])

/-- The endpoints to listen on: those of the bind entries if there are also
    allow entries, and otherwise the host's own addresses. -/
def choose (port : UInt16) (bind allow : List String) : Except InvalidEndpoint (List Endpoint) :=
  if bind.isEmpty || allow.isEmpty then .ok (loopback port)
  else readEntries port bind

end Endpoint

end ControlPlane
