import ControlPlane.Address.Socket
import ControlPlane.Config.Basic
import ControlPlane.Endpoint
import ControlPlane.Subnet

/-!
# Problems of a Configuration

What can be wrong with settings that are each of the right kind. All problems
are found, not just the first, and they are told in a fixed order: those of the
allow entries, of the bind entries, and then of single settings.

Entries are read without the blanks around them, but a problem names the entry
as it was written.

## Main definitions

* `Problem`: One thing that is wrong.
* `Config.problems`: Everything that is wrong.
* `Problem.joined`: Problems on one line.
-/

namespace ControlPlane

/-- One thing that is wrong with a configuration. -/
inductive Problem where
  | allow (entry : String)
  | bind (entry : String)
  | timeout
  | headerLimit (least : Nat) (actual : UInt64)
  | metricsAddress (text : String)
  deriving DecidableEq

namespace Problem

/-- The wording of the problem. -/
def message : Problem → String
  | .allow entry =>
    "rpc.allow_ip entry " ++ Text.quoted entry ++
      " is not a single IP, network/netmask or network/CIDR"
  | .bind entry => "rpc.bind entry " ++ Text.quoted entry ++ " is not a valid host[:port]"
  | .timeout => "rpc.server_timeout_secs must be greater than zero"
  | .headerLimit least actual =>
    "limits.max_header_bytes must be at least " ++ Text.decimal least ++ ", got " ++
      Text.decimal actual.toNat
  | .metricsAddress text =>
    "observability.metrics_address " ++ Text.quoted text ++ " is not a socket address"

/-- The name of the kind of problem. -/
def name : Problem → String
  | .allow _ => "InvalidAllowIp"
  | .bind _ => "InvalidBind"
  | .timeout => "ZeroServerTimeout"
  | .headerLimit _ _ => "HeaderLimitTooSmall"
  | .metricsAddress _ => "InvalidMetricsAddress"

/-- The problem with its parts, as it is shown where the program ends with it. -/
def describe (p : Problem) : String :=
  match p with
  | .allow entry | .bind entry | .metricsAddress entry =>
    p.name ++ "(" ++ Text.quoted entry ++ ")"
  | .timeout => p.name
  | .headerLimit least actual =>
    p.name ++ " \x7b min: " ++ Text.decimal least ++ ", actual: " ++
      Text.decimal actual.toNat ++ " \x7d"

/-- Problems on one line. -/
def joined (ps : List Problem) : String :=
  String.intercalate ", " (ps.map message)

end Problem

namespace Config

/-- The problem of an allow entry, if it has one. -/
def allowProblem? (entry : String) : Option Problem :=
  match Subnet.ofText (Text.trim entry) with
  | .ok _ => none
  | .error _ => some (.allow entry)

/-- The problem of a bind entry, if it has one. -/
def bindProblem? (port : UInt16) (entry : String) : Option Problem :=
  match Endpoint.ofText (Text.trim entry) port with
  | .ok _ => none
  | .error _ => some (.bind entry)

/-- The problems of single settings. -/
def settingProblems (c : Config) : List Problem :=
  (if c.serving.timeout = 0 then [.timeout] else []) ++
  (if c.limits.headerBytes.toNat < minHeaderBytes then
    [.headerLimit minHeaderBytes c.limits.headerBytes] else []) ++
  (if c.observability.metrics ∧
      SocketAddress.ofText? c.observability.metricsAddress = none then
    [.metricsAddress c.observability.metricsAddress] else [])

/-- Everything that is wrong with a configuration. -/
def problems (c : Config) : List Problem :=
  c.serving.allow.filterMap allowProblem? ++
    c.serving.bind.filterMap (bindProblem? c.serving.port) ++ c.settingProblems

end Config

end ControlPlane
