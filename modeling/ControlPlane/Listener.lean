import ControlPlane.Address.Socket
import ControlPlane.Endpoint

/-!
# Listeners

Endpoints on which a server listens. Binding an endpoint may fail; the endpoints
that cannot be bound are left out, and those that can stay in their order.

What binding comes to is up to the host. It is given here as the outcome of each
attempt, so that nothing below depends on how a host decides.

## Main definitions

* `Listener`: A bound endpoint with its local address.
* `Attempt`: What binding an endpoint comes to.
* `BindFault`: An endpoint that could not be bound.
* `Listener.ofAttempt`: The listener of an attempt, and what is told of it.
* `Listener.bindAll`: The listeners of several attempts.
-/

namespace ControlPlane

open Telemetry (Observation)

/-- What binding an endpoint comes to: the local address, or the reason why there
    is none. -/
abbrev Attempt := Except String SocketAddress

/-- An endpoint that could not be bound. -/
structure BindFault where
  endpoint : Endpoint
  reason : String
  deriving DecidableEq

/-- The wording of the fault. -/
def BindFault.message (f : BindFault) : String :=
  "failed to bind " ++ f.endpoint.toText ++ ": " ++ f.reason

/-- A bound endpoint with its local address. -/
structure Listener where
  endpoint : Endpoint
  address : SocketAddress
  deriving DecidableEq

namespace Listener

/-- The event that an endpoint was bound. -/
def boundEvent (address : SocketAddress) : Observation :=
  Telemetry.log .info .listener "Listener bound" [("address", address.toText)]

/-- The listener of an attempt, and what is told of it. -/
def ofAttempt (e : Endpoint) : Attempt → Except BindFault Listener × List Observation
  | .ok address => (.ok ⟨e, address⟩, [boundEvent address])
  | .error reason => (.error ⟨e, reason⟩, [])

/-- How an endpoint is named while it is bound. -/
def bindingText (e : Endpoint) : String :=
  "Binding RPC on address " ++ e.host ++ " port " ++ Text.decimal e.port.toNat

/-- What is told about an attempt, from its beginning to its end. -/
def attemptEvents (e : Endpoint) (attempt : Attempt) : List Observation :=
  Telemetry.log .debug .listener (bindingText e) ::
    match ofAttempt e attempt with
    | (.ok _, told) => told
    | (.error fault, told) =>
      told ++ [Telemetry.log .warn .listener (bindingText e ++ " failed.")
        [("error", fault.message)]]

/-- The listener of an attempt, if it came to one. -/
def ofAttempt? (e : Endpoint) (attempt : Attempt) : Option Listener :=
  (ofAttempt e attempt).1.toOption

/-- Binds endpoints one after the other. Attempts are numbered in their order,
    since one endpoint may be tried several times. -/
def bindAll (attempt : Nat → Endpoint → Attempt) (endpoints : List Endpoint) :
    List Listener × List Observation :=
  let tried := endpoints.zipIdx.map fun (e, i) => (e, attempt i e)
  (tried.filterMap fun (e, a) => ofAttempt? e a, tried.flatMap fun (e, a) => attemptEvents e a)

end Listener

end ControlPlane
