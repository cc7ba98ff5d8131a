import ControlPlane.Address.Short
import ControlPlane.Listener

/-!
# The Host's Network

The sockets of a host, as far as a server on it can tell. Every address is the
host's own. Port zero asks for a free port, and the ports below 1024 are kept for the
system. An address is taken together with its port, and the unspecified address takes
a port on all addresses.

The host knows its own name and written addresses, and nobody else's.

Nobody reaches the listeners of such a host: it is closed off, and whoever tries
to connect is refused.

## Main definitions

* `Network`: The addresses that are taken.
* `Network.resolve`: The address that a host is known by.
* `Network.take`, `Network.bind`: Binds an address, and the address of an endpoint.
* `Network.attempts`: The outcomes of binding several endpoints.
* `Connecting`, `Network.connect`: What trying to connect comes to.
-/

namespace ControlPlane

/-- The sockets of a host. -/
structure Network where
  /-- The addresses that are taken. -/
  taken : List SocketAddress := []
  /-- The port that is free next. -/
  freePort : UInt16 := 49152

namespace Network

/-- The address of a host, or the reason why it is not known. The empty name stands
    for all addresses. -/
def resolve (host : String) : Except String Address :=
  if host = "" then .ok (.v4 0)
  else match Address.ofText? host with
    | some address => .ok address
    | none =>
      if '\x00' ∈ host.toList then .error "file name contained an unexpected NUL byte"
      else match Address.short? host with
        | some address => .ok address
        | none =>
          if host = "localhost" then .ok (.v4 Address.loopback4)
          else .error "failed to lookup address information: Temporary failure in name resolution"

/-- The first port that is not kept for the system. -/
def firstOpenPort : UInt16 := 1024

/-- Two addresses get in each other's way. -/
def conflict (a b : SocketAddress) : Bool :=
  a.port = b.port &&
    (a.address = b.address || a.address.isUnspecified || b.address.isUnspecified)

/-- Binds an address with a port. -/
def take (n : Network) (address : Address) (port : UInt16) : Network × Attempt :=
  if port = 0 then
    let bound : SocketAddress := ⟨address, n.freePort, 0⟩
    ({ taken := n.taken ++ [bound], freePort := n.freePort + 1 }, .ok bound)
  else if port < firstOpenPort then (n, .error "Permission denied (os error 13)")
  else
    let bound : SocketAddress := ⟨address, port, 0⟩
    if n.taken.any (conflict bound) then (n, .error "Address already in use (os error 98)")
    else ({ n with taken := n.taken ++ [bound] }, .ok bound)

/-- Binds the address of an endpoint. -/
def bind (n : Network) (e : Endpoint) : Network × Attempt :=
  match resolve e.host with
  | .error reason => (n, .error reason)
  | .ok address => n.take address e.port

/-- The outcomes of binding endpoints one after the other. -/
def attempts (n : Network) : List Endpoint → Network × List Attempt
  | [] => (n, [])
  | e :: rest =>
    let (n, first) := n.bind e
    let (n, others) := n.attempts rest
    (n, first :: others)

/-- The outcome of a numbered attempt. -/
def outcome (outcomes : List Attempt) (number : Nat) (_ : Endpoint) : Attempt :=
  outcomes.getD number (.error "not tried")

/-- Binds endpoints, leaving out those that cannot be bound. -/
def bindAll (n : Network) (endpoints : List Endpoint) :
    Network × List Listener × List Telemetry.Observation :=
  let (n, outcomes) := n.attempts endpoints
  (n, Listener.bindAll (outcome outcomes) endpoints)

end Network

/-- What trying to connect to a listener comes to. -/
inductive Connecting where
  /-- There is no such listener. -/
  | noAddress
  | refused
  deriving DecidableEq

/-- Tries to connect to one of some addresses. -/
def Network.connect (_ : Network) (addresses : List SocketAddress) (number : Nat) : Connecting :=
  if number < addresses.length then .refused else .noAddress

end ControlPlane
