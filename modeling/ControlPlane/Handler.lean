import ControlPlane.Exchange

/-!
# Handlers

What serves a request is a list of actions on its exchange, performed in order.
An action may fail, and then the rest is not performed. Either way the request
is given up afterwards, so that a handler that never replies is still answered
for.

A handler may stop at a gate until somebody opens it; the gate is the caller's,
so performing that action alone does nothing.

## Main definitions

* `Action`: One thing that a handler does.
* `Handler`: The actions of a handler.
* `Exchange.perform`: One action on an exchange.
* `Exchange.performAll`: Actions up to the first fault.
* `Exchange.serve`: A handler from its first action to giving up the request.
-/

namespace ControlPlane

open Telemetry (Observation)

/-- One thing that a handler does. -/
inductive Action where
  /-- Adds a header field to the reply. -/
  | header (name value : String)
  /-- Adds a header field with the request's value of that name. -/
  | copyHeader (name : String)
  /-- Reads the body and leaves nothing of it. -/
  | drain
  | reply (status : Http.Status) (body : ByteArray)
  /-- Replies with what the handler was given. -/
  | echo (status : Http.Status)
  /-- Waits until the gate is open. -/
  | gate
  | fail (fault : Fault)
  deriving DecidableEq

/-- What serves a request. -/
abbrev Handler := List Action

namespace Exchange

/-- The text before the body in the reply that shows what a handler was given. -/
def echoed (subpath : String) (x : Exchange) : String :=
  x.head.method.name ++ "\n" ++ x.head.target ++ "\n" ++ subpath ++ "\n" ++
    String.join (x.head.headers.map fun field => field.1 ++ ": " ++ field.2 ++ "\n") ++ "\n"

/-- One action, for a request that was routed with the given rest of its target. -/
def perform (c : Conditions) (subpath : String) (action : Action) (x : Exchange) : Outcome :=
  match action with
  | .header name value => { exchange := x.writeHeader name value }
  | .copyHeader name => { exchange := x.writeHeader name ((x.header name).getD "(none)") }
  | .drain => { exchange := (x.readBody true).1 }
  | .reply status body => x.writeReply c status body
  | .echo status =>
    let (x', body) := x.readBody true
    x'.writeReply c status ((x.echoed subpath).toUTF8 ++ body)
  | .gate => { exchange := x }
  | .fail fault => { exchange := x, fault := some fault }

/-- Actions in order, up to the first fault. -/
def performAll (c : Conditions) (subpath : String) : List Action → Exchange → Outcome
  | [], x => { exchange := x }
  | action :: rest, x =>
    let first := x.perform c subpath action
    match first.fault with
    | some _ => first
    | none =>
      let others := performAll c subpath rest first.exchange
      { others with told := first.told ++ others.told }

/-- A handler from its first action to giving up the request. -/
def serve (c : Conditions) (subpath : String) (handler : Handler) (x : Exchange) : Outcome :=
  let served := x.performAll c subpath handler
  let (x', told) := served.exchange.release c
  { exchange := x', fault := served.fault, told := served.told ++ told }

end Exchange

end ControlPlane
