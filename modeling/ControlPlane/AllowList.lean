import ControlPlane.Subnet
import ControlPlane.Telemetry
import ControlPlane.Text.Blank

/-!
# The Allow List

The subnets whose peers may use the server. Peers on the host itself are always
on the list; the configuration adds further subnets. A peer with the unspecified
address is never allowed, whatever the subnets say.

## Main definitions

* `AllowList`: The subnets of a list, the two for the host first.
* `AllowList.ofEntries`: The list with the entries of a configuration.
* `AllowList.isAllowed`: The decision for a peer.
* `AllowList.announcement`: The event that shows a new list.
-/

namespace ControlPlane

/-- The subnets whose peers may use the server. -/
structure AllowList where
  subnets : List Subnet
  deriving DecidableEq

namespace AllowList

/-- The subnets of the host itself, which are on every list. -/
def loopback : List Subnet :=
  [Subnet.loopback4, Subnet.loopback6]

/-- Reads entries one after the other, without the blanks around them, up to
    the first that is no subnet. -/
def readEntries : List String → Except InvalidSubnet (List Subnet)
  | [] => .ok []
  | entry :: rest =>
    match Subnet.ofText (Text.trim entry) with
    | .error e => .error e
    | .ok subnet =>
      match readEntries rest with
      | .error e => .error e
      | .ok subnets => .ok (subnet :: subnets)

/-- The list with the given entries besides the host itself. -/
def ofEntries (entries : List String) : Except InvalidSubnet AllowList :=
  match readEntries entries with
  | .error e => .error e
  | .ok subnets => .ok ⟨loopback ++ subnets⟩

/-- The list without entries. -/
def standard : AllowList :=
  ⟨loopback⟩

/-- The peer may use the server. -/
def isAllowed (list : AllowList) (peer : Address) : Bool :=
  !peer.isUnspecified && list.subnets.any fun subnet => subnet.contains peer

/-- The event that shows a new list. -/
def announcement (list : AllowList) : Telemetry.Observation :=
  Telemetry.log .debug .accessControl
    ("Allowing HTTP connections from: " ++ " ".intercalate (list.subnets.map Subnet.toText))

end AllowList

end ControlPlane
