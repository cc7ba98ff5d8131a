/-!
# Configuration

The settings of a server, in three sections: how it serves, what sizes it
allows, and what it tells about itself.

Counts of zero where at least one is needed are raised to one. The largest body
of a request grows with the largest block that the node accepts, so that a block
always fits into one request; it is a count of octets in sixty-four bits and
stays at the greatest one instead of wrapping.

## Main definitions

* `Serving`, `Limits`, `Observability`: The sections.
* `Config`: All settings, each with its default.
* `Serving.workerThreads`, `Serving.queueDepth`, `Limits.maxBodyBytes`: What follows
  from the settings.
-/

namespace ControlPlane

/-- Where a server listens, for whom, and with how many workers. -/
structure Serving where
  /-- The port of endpoints that do not have one of their own. -/
  port : UInt16 := 8332
  /-- The endpoints to listen on. They count only if `allow` has entries too. -/
  bind : List String := []
  /-- The subnets that may connect beside the host itself. -/
  allow : List String := []
  threads : UInt64 := 4
  queue : UInt64 := 16
  /-- How long a connection may be idle, in seconds. -/
  timeout : UInt64 := 30
  deriving DecidableEq

/-- The fewest octets that the head of a request may be limited to. -/
def minHeaderBytes : Nat := 8192

/-- What sizes a server allows. -/
structure Limits where
  headerBytes : UInt64 := 8192
  /-- The largest block that the node accepts, in octets. -/
  blockBytes : UInt64 := 32000000
  deriving DecidableEq

/-- What a server tells about itself, and where. -/
structure Observability where
  /-- The directives of the log filter. -/
  filter : String := "rpc_httpd=info"
  /-- Full dumps of requests and replies are switched on. -/
  dumps : Bool := false
  metrics : Bool := false
  metricsAddress : String := "127.0.0.1:9100"
  deriving DecidableEq

/-- The settings of a server. -/
structure Config where
  serving : Serving := {}
  limits : Limits := {}
  observability : Observability := {}
  deriving DecidableEq

namespace Serving

/-- The number of workers. -/
def workerThreads (s : Serving) : Nat :=
  max 1 s.threads.toNat

/-- How many requests may wait for a worker. -/
def queueDepth (s : Serving) : Nat :=
  max 1 s.queue.toNat

end Serving

namespace Limits

/-- The greatest count of octets. -/
def maxCount : Nat := Nat.pow 2 64 - 1

/-- The octets that a body may have even if blocks are empty. -/
def baseBodyBytes : Nat := 0x02000000

/-- The octets that the body of a request may have. -/
def maxBodyBytes (l : Limits) : Nat :=
  min maxCount (baseBodyBytes + min maxCount (2 * l.blockBytes.toNat))

end Limits

end ControlPlane
