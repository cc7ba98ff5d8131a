import ControlPlane.Http.Method
import ControlPlane.Http.Status

/-!
# Telemetry

What the server tells its operator while it runs: log events, counters and
gauges. Operations return what they tell as a list, in the order in which it
was told, and never change their answer for it.

An event comes from one part of the program and carries that part's name, by
which filters switch it on and off. Full dumps of requests and replies are
events of a source of their own.

## Main definitions

* `Level`: How urgent an event is.
* `Source`: The part of the program an event comes from.
* `Event`: One event of the log.
* `Counter`, `Gauge`: The numbers kept about the server.
* `Observation`: One thing told, of any of these kinds.
* `events`, `counters`, `gauges`: The things of one kind, in order.
-/

namespace ControlPlane

namespace Telemetry

/-- How urgent an event is, the most verbose first. -/
inductive Level where
  | trace
  | debug
  | info
  | warn
  | error
  deriving DecidableEq

namespace Level

/-- The name written in the log. -/
def name : Level → String
  | .trace => "TRACE"
  | .debug => "DEBUG"
  | .info => "INFO"
  | .warn => "WARN"
  | .error => "ERROR"

/-- The number of levels that are at least as urgent. -/
def verbosity : Level → Nat
  | .error => 1
  | .warn => 2
  | .info => 3
  | .debug => 4
  | .trace => 5

end Level

/-- The part of the program an event comes from. -/
inductive Source where
  | program
  | accessControl
  | listener
  | connection
  | request
  | response
  | dispatcher
  | worker
  | reactor
  | server
  | router
  | shutdown
  | signals
  | logging
  | metrics
  | dumps
  deriving DecidableEq

/-- The name by which filters and the log know the source. -/
def Source.name : Source → String
  | .program => "rpc_httpd"
  | .accessControl => "rpc_httpd::security::access_control"
  | .listener => "rpc_httpd::net::listener"
  | .connection => "rpc_httpd::net::connection"
  | .request => "rpc_httpd::http::request"
  | .response => "rpc_httpd::http::response"
  | .dispatcher => "rpc_httpd::http::dispatcher"
  | .worker => "rpc_httpd::http::worker"
  | .reactor => "rpc_httpd::http::reactor"
  | .server => "rpc_httpd::http::server"
  | .router => "rpc_httpd::routing::router"
  | .shutdown => "rpc_httpd::lifecycle::shutdown"
  | .signals => "rpc_httpd::lifecycle::signals"
  | .logging => "rpc_httpd::observability::logging"
  | .metrics => "rpc_httpd::observability::metrics"
  | .dumps => "httptrace"

/-- One event of the log. -/
structure Event where
  level : Level
  source : Source
  message : String
  /-- Named values beside the message, in the order in which they are shown. -/
  fields : List (String × String) := []
  deriving DecidableEq

/-- A number that only grows. -/
inductive Counter where
  /-- Replies written, by the method of the request and the status. -/
  | requests (method : Http.Method) (status : Http.Status)
  /-- Requests that nobody answered, so that the fallback reply went out. -/
  | unhandled
  /-- Requests refused because the work queue was full. -/
  | rejected
  deriving DecidableEq

/-- The name of a counter with its labels. -/
def Counter.name : Counter → String
  | .requests method status =>
    "rpc_http_requests_total\x7bmethod=" ++ method.name ++ ",status=" ++ toString status.code ++ "\x7d"
  | .unhandled => "rpc_http_unhandled_requests_total"
  | .rejected => "rpc_http_work_queue_rejected_total"

/-- A number that is set. -/
inductive Gauge where
  /-- Requests waiting for a worker. -/
  | queueDepth
  /-- Open client connections. -/
  | activeConnections
  deriving DecidableEq

/-- The name of a gauge. -/
def Gauge.name : Gauge → String
  | .queueDepth => "rpc_http_work_queue_depth"
  | .activeConnections => "rpc_http_active_connections"

/-- One thing that an operation tells. -/
inductive Observation where
  | event (e : Event)
  | count (c : Counter)
  | set (g : Gauge) (value : Nat)
  deriving DecidableEq

/-- The event with the given parts, as an observation. -/
def log (level : Level) (source : Source) (message : String)
    (fields : List (String × String) := []) : Observation :=
  .event ⟨level, source, message, fields⟩

/-- The events told, in order. -/
def events (observations : List Observation) : List Event :=
  observations.filterMap fun
    | .event e => some e
    | _ => none

/-- The counters that grew, once for each time. -/
def counters (observations : List Observation) : List Counter :=
  observations.filterMap fun
    | .count c => some c
    | _ => none

/-- The gauge values set, in order. -/
def gauges (observations : List Observation) : List (Gauge × Nat) :=
  observations.filterMap fun
    | .set g value => some (g, value)
    | _ => none

end Telemetry

end ControlPlane
