import ControlPlane.Dump
import ControlPlane.Text.Quoted

/-!
# Exchanges

One request while it is served: what its sender said, what the serving side has
written so far, and the slot through which it is answered.

Every request is answered exactly once. Writing a reply uses up the right to
reply; writing a second one is a fault of the handler and stops it. A request
that is given up without a reply gets the fallback reply, so that giving up is
an answer too.

Once the server is shutting down, every reply asks the client to close its
connection. That field comes after those that the handler wrote.

## Main definitions

* `Conditions`: What the rest of the server contributes to a reply.
* `Exchange`: One request while it is served.
* `Fault`: Why a handler stopped.
* `Exchange.send`: Builds the reply and passes it on.
* `Exchange.writeReply`, `Exchange.writeHeader`, `Exchange.readBody`: What a
  handler may do.
* `Exchange.release`: The serving side gives the request up.
* `Session.apply`: Any operation on either side of an exchange.
* `Session.run`: Several operations one after the other.
-/

namespace ControlPlane

open Telemetry (Observation)

/-- What the rest of the server contributes to a reply. -/
structure Conditions where
  /-- The server is shutting down. -/
  closing : Bool := false
  /-- Full dumps are switched on. -/
  dumps : Bool := false
  deriving DecidableEq

/-- Why a handler stopped before its end. -/
inductive Fault where
  /-- It wrote a second reply to the request with this target. -/
  | doubleReply (target : String)
  /-- It failed with a text. -/
  | text (message : String)
  /-- It failed without a text. -/
  | other
  deriving DecidableEq

/-- One request while it is served. -/
structure Exchange where
  head : RequestHead
  body : ByteArray
  /-- The header fields written for the reply so far. -/
  outgoing : List Http.Field := []
  slot : ReplySlot := {}
  /-- The serving side has not given the request up. -/
  held : Bool := true
  deriving DecidableEq

/-- What an action on an exchange comes to. -/
structure Outcome where
  exchange : Exchange
  fault : Option Fault := none
  told : List Observation := []

namespace Exchange

/-- The fields by which events name the request. -/
def identity (x : Exchange) : List (String × String) :=
  [("uri", x.head.target), ("peer", x.head.peer.toText)]

/-- The request is still to be answered. -/
def isPending (x : Exchange) : Bool :=
  x.slot.isReady

/-- The reply with the fields written so far. -/
def replyWith (c : Conditions) (status : Http.Status) (body : ByteArray) (x : Exchange) : Reply :=
  ⟨status, if c.closing then x.outgoing ++ [Http.closeField] else x.outgoing, body⟩

/-- Builds the reply from what was written so far and passes it on. Only called
    on a pending exchange. -/
def send (c : Conditions) (status : Http.Status) (body : ByteArray) (x : Exchange) :
    Exchange × List Observation :=
  let reply := x.replyWith c status body
  let (slot, reached) := x.slot.fire reply
  ({ x with outgoing := [], slot := slot },
    (if c.dumps then [Dump.reply x.head.peer reply] else []) ++
    [.count (.requests x.head.method status)] ++
    (if reached then [] else
      [Telemetry.log .debug .request "Connection closed before reply could be sent" x.identity]))

/-- Writes the reply. A second one is a fault and changes nothing. -/
def writeReply (c : Conditions) (status : Http.Status) (body : ByteArray) (x : Exchange) :
    Outcome :=
  if x.isPending then
    let (x', told) := x.send c status body
    { exchange := x', told := told }
  else
    { exchange := x
      fault := some (.doubleReply x.head.target)
      told := [Telemetry.log .error .request "Reply already sent for request" x.identity] }

/-- Adds a header field to the reply to be written. -/
def writeHeader (name value : String) (x : Exchange) : Exchange :=
  { x with outgoing := x.outgoing ++ [(name, value)] }

/-- Reads the body. Draining leaves nothing for later reads. -/
def readBody (drain : Bool) (x : Exchange) : Exchange × ByteArray :=
  (if drain then { x with body := ByteArray.empty } else x, x.body)

/-- The value of the first header field of the request with the name. -/
def header (name : String) (x : Exchange) : Option String :=
  Http.firstValue? name x.head.headers

/-- The body of the fallback reply. -/
def fallbackBody : ByteArray :=
  "Unhandled request".toUTF8

/-- The serving side gives the request up. A pending one gets the fallback reply. -/
def release (c : Conditions) (x : Exchange) : Exchange × List Observation :=
  if x.isPending then
    let (x', told) := x.send c .internalError fallbackBody
    ({ x' with held := false },
      Telemetry.log .warn .request "Unhandled request" x.identity :: .count .unhandled :: told)
  else ({ x with held := false }, [])

/-- The request with its parts, as messages show it. -/
def describe (x : Exchange) : String :=
  "RequestContext \x7b peer: " ++ x.head.peer.toText ++ ", method: " ++ x.head.method.label ++
    ", uri: " ++ Text.quoted x.head.target ++ ", state: " ++
    (if x.isPending then "Pending" else "Replied") ++ " \x7d"

/-- Anything that either side of an exchange may do, or that the rest of the
    server may do to it. -/
inductive Operation where
  /-- The server begins to shut down. -/
  | close
  /-- The waiting side looks for the reply. -/
  | look
  /-- The waiting side waits for the reply. -/
  | wait
  /-- The waiting side leaves. -/
  | leave
  | release
  | header (name : String)
  | inputHeaders
  | outputHeaders
  | readBody (drain : Bool)
  | writeHeader (name value : String)
  | writeReply (status : Http.Status) (body : ByteArray)
  | isPending
  | describe

/-- What an operation answers. -/
inductive Answer where
  | done
  /-- The side that the operation needs does not exist any more. -/
  | gone
  | closing
  | looked (reply : Option Reply)
  | waited (outcome : ReplySlot.Waited)
  | value (value : Option String)
  | fields (fields : List Http.Field)
  | body (body : ByteArray)
  | pending (pending : Bool)
  | text (text : String)
  | fault (fault : Fault)

end Exchange

/-- The event that tells that the server begins to shut down. -/
def closingEvent : Observation :=
  Telemetry.log .debug .shutdown "Shutdown requested"

/-- An exchange by itself, together with the conditions under which it runs. -/
structure Session where
  conditions : Conditions
  exchange : Exchange

namespace Session

open Exchange (Operation Answer)

/-- An operation of the serving side, on a request that it still holds. -/
def onHeld (s : Session) (act : Exchange → Exchange × Answer × List Observation) :
    Session × Answer × List Observation :=
  if s.exchange.held then
    let (x, answer, told) := act s.exchange
    ({ s with exchange := x }, answer, told)
  else (s, .gone, [])

/-- An operation of the waiting side, while it is there. -/
def onWaiting (s : Session) (act : ReplySlot → ReplySlot × Answer) :
    Session × Answer × List Observation :=
  if s.exchange.slot.waiter = .gone then (s, .gone, [])
  else
    let (slot, answer) := act s.exchange.slot
    ({ s with exchange := { s.exchange with slot := slot } }, answer, [])

/-- Performs an operation if the side that it needs still exists. -/
def apply (s : Session) : Operation → Session × Answer × List Observation
  | .close =>
    ({ s with conditions := { s.conditions with closing := true } }, .closing,
      if s.conditions.closing then [] else [closingEvent])
  | .look => s.onWaiting fun slot => ((slot.look).1, .looked (slot.look).2)
  | .wait => s.onWaiting fun slot => (slot.leave, .waited slot.wait)
  | .leave => s.onWaiting fun slot => (slot.leave, .done)
  | .release => s.onHeld fun x =>
    let (x', told) := x.release s.conditions
    (x', .done, told)
  | .header name => s.onHeld fun x => (x, .value (x.header name), [])
  | .inputHeaders => s.onHeld fun x => (x, .fields x.head.headers, [])
  | .outputHeaders => s.onHeld fun x => (x, .fields x.outgoing, [])
  | .readBody drain => s.onHeld fun x =>
    let (x', body) := x.readBody drain
    (x', .body body, [])
  | .writeHeader name value => s.onHeld fun x => (x.writeHeader name value, .done, [])
  | .writeReply status body => s.onHeld fun x =>
    let outcome := x.writeReply s.conditions status body
    (outcome.exchange, (outcome.fault.map .fault).getD .done, outcome.told)
  | .isPending => s.onHeld fun x => (x, .pending x.isPending, [])
  | .describe => s.onHeld fun x => (x, .text x.describe, [])

/-- Several operations one after the other, with their answers in order and with
    everything that they tell. -/
def run (s : Session) : List Operation → Session × List Answer × List Observation
  | [] => (s, [], [])
  | op :: rest =>
    let (s, answer, first) := s.apply op
    let (s, answers, others) := s.run rest
    (s, answer :: answers, first ++ others)

end Session

end ControlPlane
