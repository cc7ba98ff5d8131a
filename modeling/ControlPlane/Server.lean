import ControlPlane.Config.Problem
import ControlPlane.Listener
import ControlPlane.Phase
import ControlPlane.Service.Basic

/-!
# Servers

A server from its setup to its end. Setting it up makes the allow list, binds the
endpoints and makes the queue; starting it hands the listeners to the reactor and
starts the workers; interrupting it refuses new requests and stops the queue; and
stopping it waits for the workers, answers what is still queued and waits for the
reactor.

An operation that is refused or fails leaves the server as it was, except that a
start that fails half-way stops it. What a host decides, whether an endpoint can
be bound or a thread be started, is given to the operations.

## Main definitions

* `Server`: A server with what it holds.
* `ServerFault`: Why an operation fails.
* `Server.prepare`, `Server.init`: Sets a server up.
* `Server.start`, `Server.interrupt`, `Server.stop`: The rest of its life.
* `Server.Operation`, `Server.apply`: Anything that its owner may do.
-/

namespace ControlPlane

open Telemetry (Observation)

/-- Why a reactor did not start. -/
inductive ReactorFault where
  | spawn (reason : String)
  | setup (reason : String)
  /-- It ended before it was ready. -/
  | exited
  deriving DecidableEq

/-- The wording of the fault. -/
def ReactorFault.message : ReactorFault → String
  | .spawn reason => "failed to spawn HTTP event thread: " ++ reason
  | .setup reason => "failed to set up HTTP event loop: " ++ reason
  | .exited => "HTTP event thread exited before becoming ready"

/-- What an owner asks of a server that only some phases allow. -/
inductive Transition where
  | setUp
  | start
  | interrupt
  deriving DecidableEq

/-- The verb for what is asked. -/
def Transition.verb : Transition → String
  | .setUp => "initialize"
  | .start => "start"
  | .interrupt => "interrupt"

/-- Why an operation on a server fails. -/
inductive ServerFault where
  | config (ps : List Problem)
  | allow (fault : InvalidSubnet)
  | endpoint (fault : InvalidEndpoint)
  /-- None of the endpoints could be bound. -/
  | noEndpoints
  /-- The phase does not allow it. -/
  | phase (transition : Transition) (phase : Phase)
  | workers (reason : String)
  | reactor (fault : ReactorFault)
  deriving DecidableEq

namespace ServerFault

/-- The wording of the fault. -/
def message : ServerFault → String
  | .config ps => "invalid HTTP server configuration: " ++ Problem.joined ps
  | .allow fault => fault.message
  | .endpoint fault => fault.message
  | .noEndpoints => "Unable to bind any endpoint for RPC server"
  | .phase transition current =>
    "cannot " ++ transition.verb ++ " an HTTP server that is " ++ current.name
  | .workers reason => "failed to spawn HTTP worker thread: " ++ reason
  | .reactor fault => fault.message

/-- The fault with its parts, as it is shown where the program ends with it. -/
def describe : ServerFault → String
  | .config ps => "Config([" ++ String.intercalate ", " (ps.map Problem.describe) ++ "])"
  | .allow fault => "AllowList(InvalidSubnet(" ++ Text.quoted fault.text ++ "))"
  | .endpoint fault => "Listener(InvalidEndpoint(" ++ Text.quoted fault.text ++ "))"
  | .noEndpoints => "NoEndpoints"
  | .phase transition current =>
    "InvalidState \x7b op: " ++ Text.quoted transition.verb ++ ", state: " ++ current.label ++ " \x7d"
  | .workers reason => "Spawn(" ++ reason ++ ")"
  | .reactor (.spawn reason) => "Reactor(Spawn(" ++ reason ++ "))"
  | .reactor (.setup reason) => "Reactor(Setup(" ++ reason ++ "))"
  | .reactor .exited => "Reactor(Exited)"

end ServerFault

/-- A server with what it holds. -/
structure Server where
  config : Config
  phase : Phase := .uninitialized
  /-- The state shared with the reactor and the workers. -/
  service : Service := { queue := .ofDepth 0 }
  /-- The queue was made, and the server has not given it up. -/
  holdsQueue : Bool := false
  /-- The listeners that were not handed to a reactor. -/
  listeners : List Listener := []
  /-- The local addresses that were bound. -/
  addresses : List SocketAddress := []
  /-- How many workers there are, if they were started. -/
  workers : Option Nat := none
  /-- The listeners of the reactor, if it was started. -/
  reactor : Option (List Listener) := none

/-- What starting threads comes to. -/
structure Starting where
  reactor : Except ReactorFault Unit := .ok ()
  /-- The number of the worker that could not be started, with the reason. -/
  workers : Except (Nat × String) Unit := .ok ()

namespace Server

/-- A server before its setup. -/
def ofConfig (config : Config) : Server :=
  { config := config }

/-- An event of the server itself. -/
def log (level : Telemetry.Level) (message : String) : Observation :=
  Telemetry.log level .server message

/-- Requests waiting for a worker. -/
def queued (s : Server) : Nat :=
  if s.holdsQueue then s.service.queue.size else 0

/-- What setting a server up makes of its configuration. -/
structure Setup where
  allow : AllowList
  listeners : List Listener

/-- Checks a configuration, makes the allow list and binds the endpoints. At least
    one of them must be bound. -/
def prepare (config : Config) (attempt : Nat → Endpoint → Attempt) :
    Except ServerFault Setup × List Observation :=
  let serving := config.serving
  match config.problems with
  | p :: ps => (.error (.config (p :: ps)), [])
  | [] =>
    match AllowList.ofEntries serving.allow with
    | .error fault => (.error (.allow fault), [])
    | .ok allow =>
      let warned := allow.announcement :: Endpoint.choiceWarnings serving.bind serving.allow
      match Endpoint.choose serving.port serving.bind serving.allow with
      | .error fault => (.error (.endpoint fault), warned)
      | .ok endpoints =>
        let (listeners, told) := Listener.bindAll attempt endpoints
        if listeners.isEmpty then
          (.error .noEndpoints, warned ++ told ++ [log .error ServerFault.noEndpoints.message])
        else (.ok ⟨allow, listeners⟩, warned ++ told)

/-- The server with what its setup has made. -/
def establish (s : Server) (setup : Setup) : Server :=
  { s with
    phase := .initialized
    service := { s.service with
      callback := .dispatch setup.allow
      queue := .ofDepth s.config.serving.queueDepth }
    holdsQueue := true
    listeners := setup.listeners
    addresses := setup.listeners.map (·.address) }

/-- Sets a server up. -/
def init (s : Server) (attempt : Nat → Endpoint → Attempt) :
    Server × Except ServerFault Unit × List Observation :=
  if s.phase = .uninitialized then
    let begun := log .debug "Initializing HTTP server"
    match prepare s.config attempt with
    | (.error fault, told) => (s, .error fault, begun :: told)
    | (.ok setup, told) =>
      (s.establish setup, .ok (), begun :: told ++
        [log .info ("creating work queue of depth " ++ Text.decimal s.config.serving.queueDepth)])
  else (s, .error (.phase .setUp s.phase), [])

/-- Refuses new requests, stops the queue and requests shutdown. -/
def halt (s : Server) : Server × List Observation :=
  let service := s.service.stopAdmitting
  let service := if s.holdsQueue then service.stopQueue else service
  let (service, told) := service.requestShutdown
  ({ s with service := service, phase := .interrupted },
    log .debug "Interrupting HTTP server" :: told)

/-- Interrupts a server. A second time does nothing. -/
def interrupt (s : Server) : Server × Except ServerFault Unit × List Observation :=
  match s.phase with
  | .interrupted | .stopped => (s, .ok (), [])
  | .uninitialized => (s, .error (.phase .interrupt s.phase), [])
  | .initialized | .running =>
    let (s, told) := s.halt
    (s, .ok (), told)

/-- Waits for the workers, if there are any. -/
def joinWorkers (s : Server) : Server × List Observation :=
  match s.workers with
  | none => (s, [])
  | some _ => ({ s with workers := none }, [log .debug "Waiting for HTTP worker threads to exit"])

/-- Gives up the queue with the requests that are still in it. -/
def dropQueue (s : Server) : Server × List Observation :=
  if s.holdsQueue then
    let (service, released, told) := s.service.release
    ({ s with service := service, holdsQueue := false },
      told ++ if released = 0 then [] else
        [Telemetry.log .debug .server "Released queued requests"
          [("released", Text.decimal released)]])
  else (s, [])

/-- Waits for the reactor, if there is one. -/
def joinReactor (s : Server) : Server × List Observation :=
  match s.reactor with
  | none => (s, [])
  | some _ => ({ s with reactor := none }, [log .debug "Waiting for HTTP event thread to exit"])

/-- Stops a server, in whatever phase it is. A second time does nothing. -/
def stop (s : Server) : Server × List Observation :=
  if s.phase = .stopped then (s, [])
  else
    let (s, halted) := if s.phase.isAccepting then s.halt else (s, [])
    let (s, first) := s.joinWorkers
    let (s, second) := s.dropQueue
    let (s, third) := s.joinReactor
    ({ s with listeners := [], phase := .stopped },
      halted ++ [log .debug "Stopping HTTP server"] ++ first ++ second ++ third ++
        [log .debug "Stopped HTTP server"])

/-- Stops a server whose start has failed. -/
def abandon (s : Server) : Server × List Observation :=
  let (s, told) := s.stop
  (s, log .error "Failed to start HTTP server" :: told)

/-- Starts the reactor and then the workers. If either fails, the server is
    stopped. -/
def start (s : Server) (starting : Starting) :
    Server × Except ServerFault Unit × List Observation :=
  if s.phase = .initialized ∧ s.holdsQueue then
    let begun := log .debug "Starting HTTP server"
    let handed := s.listeners
    let s := { s with listeners := [] }
    match starting.reactor with
    | .error fault =>
      let (s, told) := s.abandon
      (s, .error (.reactor fault), begun :: told)
    | .ok () =>
      let s := { s with reactor := some handed }
      let count := s.config.serving.workerThreads
      let told := [begun, log .info ("starting " ++ Text.decimal count ++ " worker threads")]
      match starting.workers with
      | .error (worker, reason) =>
        let failed := Telemetry.log .error .worker "Failed to spawn HTTP worker thread"
          [("worker_id", Text.decimal worker), ("error", reason)]
        let (s, stopped) := { s with service := s.service.stopQueue }.abandon
        (s, .error (.workers reason), told ++ failed :: stopped)
      | .ok () => ({ s with workers := some count, phase := .running }, .ok (), told)
  else (s, .error (.phase .start s.phase), [])

/-- Adds a route behind all others. -/
def register (s : Server) (m : Matcher) (handler : Handler) : Server × List Observation :=
  let (service, told) := s.service.register m handler
  ({ s with service := service }, told)

/-- Removes the oldest route with exactly this matcher. -/
def unregister (s : Server) (m : Matcher) : Server × Bool × List Observation :=
  let (service, removed, told) := s.service.unregister m
  ({ s with service := service }, removed, told)

/-- The server with its parts, as messages show it. -/
def describe (s : Server) : String :=
  "HttpServer \x7b state: " ++ s.phase.label ++ ", local_addrs: [" ++
    String.intercalate ", " (s.addresses.map SocketAddress.toText) ++
    "], queued_requests: " ++ Text.decimal s.queued ++ " \x7d"

/-- Anything that the owner of a server may do. -/
inductive Operation where
  | register (m : Matcher) (handler : Handler)
  | unregister (m : Matcher)
  | init (attempt : Nat → Endpoint → Attempt)
  | start (starting : Starting)
  | interrupt
  | stop

/-- What an operation answers. -/
inductive Answer where
  | done
  | removed (wasThere : Bool)
  | outcome (outcome : Except ServerFault Unit)

/-- Does one thing to a server. -/
def apply (s : Server) : Operation → Server × Answer × List Observation
  | .register m handler =>
    let (s, told) := s.register m handler
    (s, .done, told)
  | .unregister m =>
    let (s, removed, told) := s.unregister m
    (s, .removed removed, told)
  | .init attempt =>
    let (s, outcome, told) := s.init attempt
    (s, .outcome outcome, told)
  | .start starting =>
    let (s, outcome, told) := s.start starting
    (s, .outcome outcome, told)
  | .interrupt =>
    let (s, outcome, told) := s.interrupt
    (s, .outcome outcome, told)
  | .stop =>
    let (s, told) := s.stop
    (s, .done, told)

/-- Does several things to a server, one after the other. -/
def run (s : Server) (ops : List Operation) : Server :=
  ops.foldl (fun s op => (s.apply op).1) s

end Server

end ControlPlane
