import ControlPlane.Http.Response
import ControlPlane.Listener
import ControlPlane.Worker

/-!
# The Reactor

The side of the server that faces its clients. It collects the body of a request
up to the largest size that is allowed, opens an exchange, puts it through the
callback of the moment, and sends what the exchange is answered with.

A request whose body is too large or breaks off is answered at once, and nothing
else of the server hears of it.

## Main definitions

* `Incoming`: A body as it arrives.
* `Incoming.collect`: The body, if it can be had.
* `Reactor.receive`: A request up to the point where its reply is awaited.
* `Reactor.finish`: The response of an exchange, once it is answered.
* `Reactor.respond`: A request from its arrival to its response, while the workers
  serve what is queued.
-/

namespace ControlPlane

open Telemetry (Observation)

/-- A body as it arrives: in pieces, and perhaps without its end. -/
structure Incoming where
  pieces : List ByteArray := []
  /-- The body breaks off after the pieces, for this reason. -/
  broken : Option String := none

/-- What collecting a body comes to. -/
inductive Collected where
  | body (octets : ByteArray)
  | tooLarge
  | unreadable (reason : String)

namespace Incoming

/-- Collects pieces behind what was collected before, with so many octets left. -/
def collectPieces (broken : Option String) : (soFar : ByteArray) → (left : Nat) →
    List ByteArray → Collected
  | soFar, _, [] =>
    match broken with
    | none => .body soFar
    | some reason => .unreadable reason
  | soFar, left, piece :: rest =>
    if left < piece.size then .tooLarge
    else collectPieces broken (soFar ++ piece) (left - piece.size) rest

/-- Collects a body of at most so many octets. The first piece that does not fit
    decides, whatever comes after it. -/
def collect (limit : Nat) (b : Incoming) : Collected :=
  collectPieces b.broken ByteArray.empty limit b.pieces

end Incoming

namespace Reactor

/-- What has become of a request once it was received. -/
inductive Received where
  /-- It was answered without an exchange. -/
  | answered (response : Http.Response)
  /-- Its exchange has this number. -/
  | awaiting (number : Nat)

/-- The event that a body is too large. -/
def tooLargeEvent (limit : Nat) (head : RequestHead) : Observation :=
  Telemetry.log .debug .reactor "Request body exceeds size limit"
    [("peer", head.peer.toText), ("limit", Text.decimal limit)]

/-- The event that a body could not be read. -/
def unreadableEvent (reason : String) (head : RequestHead) : Observation :=
  Telemetry.log .debug .reactor "Failed to read request body"
    [("peer", head.peer.toText), ("error", reason)]

/-- Takes a request up to the point where its reply is awaited. -/
def receive (s : Service) (limit : Nat) (head : RequestHead) (incoming : Incoming) :
    Service × Received × List Observation :=
  match incoming.collect limit with
  | .tooLarge => (s, .answered (.ofStatus .payloadTooLarge), [tooLargeEvent limit head])
  | .unreadable reason => (s, .answered (.ofStatus .badRequest), [unreadableEvent reason head])
  | .body octets =>
    let (s, number) := s.openExchange head octets
    let (s, told) := s.handle number
    (s, .awaiting number, told)

/-- The response of an exchange, once it is answered. Nobody waits for it
    afterwards. -/
def finish (s : Service) (number : Nat) : Service × Option Http.Response × List Observation :=
  match s.exchanges[number]? with
  | none => (s, none, [])
  | some x =>
    match x.slot.wait with
    | .reply reply =>
      let (response, told) := Http.Response.ofReply reply
      (s.disconnect number, some response, told)
    | _ => (s, none, [])

/-- Everything that is queued is served, or given up if the queue was stopped. -/
def settle (s : Service) : Service × List Observation :=
  match Worker.work 0 s with
  | (s, .exited, told) =>
    let (s, _, released) := s.release
    (s, told ++ released)
  | (s, _, told) => (s, told)

/-- Takes a request from its arrival to its response, while a worker serves what is
    queued. -/
def respond (s : Service) (limit : Nat) (head : RequestHead) (incoming : Incoming) :
    Service × Option Http.Response × List Observation :=
  match receive s limit head incoming with
  | (s, .answered response, told) => (s, some response, told)
  | (s, .awaiting number, told) =>
    let (s, settled) := settle s
    let (s, response, finished) := finish s number
    (s, response, told ++ settled ++ finished)

/-- What the reactor tells when it begins to accept connections. -/
def startEvents (listeners : List Listener) : List Observation :=
  Telemetry.log .debug .reactor "Entering HTTP event loop" ::
    listeners.map fun l =>
      Telemetry.log .info .reactor "Accepting HTTP connections" [("address", l.address.toText)]

/-- What the reactor tells when it ends. -/
def exitEvents (listeners : List Listener) : List Observation :=
  (listeners.map fun l =>
    Telemetry.log .debug .reactor "Unbound HTTP listener" [("address", l.address.toText)]) ++
    [Telemetry.log .debug .reactor "Exited HTTP event loop"]

end Reactor

end ControlPlane
