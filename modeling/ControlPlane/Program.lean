import ControlPlane.CommandLine
import ControlPlane.LogLine
import ControlPlane.LogSwitch
import ControlPlane.Network
import ControlPlane.Reactor
import ControlPlane.Server

/-!
# The Program

The server as a program: it reads its words, sets the log up, serves one fixed
route, and runs until it is told to stop. While it runs, a signal turns the dump
switch.

Several threads tell what happens to them. Whatever happens on the threads of the
reactor and of the workers is told right behind what made it happen. What the log
shows is decided by the position of the dump switch at that time.

A program that cannot bring its server up takes it down again before it ends.

## Main definitions

* `Launch`: What the program is given.
* `Ending`: How it ends, with its exit code and the line on standard error.
* `Report`: What a thread tells.
* `Program`: The running program.
* `Program.launch`: From the words to the running program.
* `Program.toggleDumps`, `Program.stop`: What signals do.
* `Program.receive`: Any signal.
-/

namespace ControlPlane

open Telemetry (Observation)

/-- What the program is given when it is launched. -/
structure Launch where
  /-- The words of the command line, without the name of the program. -/
  words : List String
  /-- The directives of the log filter in the environment. -/
  environment : Option String := none
  files : Files

/-- How the program ends. -/
inductive Ending where
  | usage (fault : UsageFault)
  | config (fault : ConfigFault)
  | server (fault : ServerFault)
  /-- It was told to stop. -/
  | stopped
  deriving DecidableEq

namespace Ending

/-- The exit code. Asking for help is no failure. -/
def exitCode : Ending → UInt32
  | .usage .help => 0
  | .usage _ => 2
  | .config _ | .server _ => 1
  | .stopped => 0

/-- The line on standard error with which a failure ends. Faults of the words are
    explained with the usage instead. -/
def failureLine? : Ending → Option String
  | .config fault => some ("Error: " ++ fault.describe)
  | .server fault => some ("Error: " ++ fault.describe)
  | .usage _ | .stopped => none

end Ending

/-- A signal that stops the program. -/
inductive StopSignal where
  /-- The user interrupts it. -/
  | interrupt
  /-- The system ends it. -/
  | terminate
  deriving DecidableEq

/-- The name of the signal. -/
def StopSignal.name : StopSignal → String
  | .interrupt => "SIGINT"
  | .terminate => "SIGTERM"

/-- A signal that the program heeds. -/
inductive Signal where
  /-- Turns the dump switch. -/
  | toggleDumps
  | stop (signal : StopSignal)
  deriving DecidableEq

/-- What a thread tells. -/
structure Report where
  thread : Thread
  told : List Observation

/-- The lines of some reports that the filter in force shows. -/
def LogSwitch.lines (s : LogSwitch) (reports : List Report) : List LogLine :=
  reports.flatMap fun r => (s.shown r.told).map fun e => ⟨r.thread, e⟩

/-- The running program. -/
structure Program where
  server : Server
  switch : LogSwitch
  network : Network

namespace Program

/-- The version that the program announces. -/
def version : String := "0.1.0"

/-- The first line of the log. -/
def greeting : Observation :=
  Telemetry.log .info .program ("rpc-httpd v" ++ version ++ " starting")

/-- The settings that matter most to an operator. -/
def configEvent (s : Serving) : Observation :=
  Telemetry.log .info .program "Configuration loaded"
    [("port", Text.decimal s.port.toNat), ("threads", Text.decimal s.workerThreads),
      ("work_queue", Text.decimal s.queueDepth),
      ("server_timeout_secs", Text.decimal s.timeout.toNat)]

/-- Starts to offer the metrics at an address. Failing to do so is told, and the
    program goes on. -/
def offerMetrics (n : Network) (address : SocketAddress) : Network × Observation :=
  match n.take address.address address.port with
  | (n, .ok _) =>
    (n, Telemetry.log .info .metrics "Metrics exporter listening" [("address", address.toText)])
  | (n, .error reason) =>
    (n, Telemetry.log .error .metrics "Failed to install metrics exporter"
      [("error", "failed to create HTTP listener: " ++ reason), ("address", address.toText)])

/-- Starts to offer the metrics if that is wanted. -/
def setUpMetrics (n : Network) (o : Observability) : Network × List Observation :=
  if o.metrics then
    match SocketAddress.ofText? o.metricsAddress with
    | some address =>
      let (n, told) := offerMetrics n address
      (n, [told])
    | none => (n, [])
  else (n, [])

/-- The target of the route that tells that the server is up. -/
def statusMatcher : Matcher :=
  ⟨"/status", .exact⟩

/-- Replies that the server is up. -/
def statusHandler : Handler :=
  [.header "Content-Type" "text/plain", .reply .ok "OK".toUTF8]

/-- The endpoints that a server will try to bind. -/
def endpoints (s : Serving) : List Endpoint :=
  ((Endpoint.choose s.port s.bind s.allow).toOption).getD []

/-- What all workers tell when they begin. -/
def workersBegin (count : Nat) : List Report :=
  (List.range count).map fun number => ⟨.worker number, [Worker.startEvent number]⟩

/-- What all workers tell when they end. -/
def workersEnd (count : Nat) : List Report :=
  (List.range count).map fun number => ⟨.worker number, [Worker.exitEvent number]⟩

/-- The event that the server listens at an address. -/
def listeningEvent (address : SocketAddress) : Observation :=
  Telemetry.log .info .program "Listening for connections" [("address", address.toText)]

/-- Sets a server up on a network and starts it. A server that was not set up is
    stopped. -/
def bringUp (n : Network) (server : Server) :
    Network × Except ServerFault Server × List Report :=
  let (n, outcomes) := n.attempts (endpoints server.config.serving)
  match server.init (Network.outcome outcomes) with
  | (server, .error fault, told) => (n, .error fault, [⟨.main, told ++ server.stop.2⟩])
  | (server, .ok (), first) =>
    let handed := server.listeners
    match server.start {} with
    | (_, .error fault, told) => (n, .error fault, [⟨.main, first ++ told⟩])
    | (server, .ok (), second) =>
      (n, .ok server, ⟨.main, first ++ second⟩ :: ⟨.reactor, Reactor.startEvents handed⟩ ::
        workersBegin (server.workers.getD 0) ++ [⟨.main, server.addresses.map listeningEvent⟩])

/-- Brings the server of a configuration up, with all that is told before. -/
def start (environment : Option String) (config : Config) (n : Network) :
    Except Ending Program × List LogLine :=
  let log := LogSwitch.start environment config.observability
  let (n, metrics) := setUpMetrics n config.observability
  let (server, registered) := (Server.ofConfig config).register statusMatcher statusHandler
  let (n, outcome, reports) := bringUp n server
  let first : Report := ⟨.main, greeting :: configEvent config.serving :: metrics ++ registered⟩
  let lines := log.lines (first :: reports)
  match outcome with
  | .error fault => (.error (.server fault), lines)
  | .ok server => (.ok ⟨server, log, n⟩, lines)

/-- Launches the program. -/
def launch (l : Launch) (n : Network) : Except Ending Program × List LogLine :=
  match CommandLine.ofWords l.words with
  | .error fault => (.error (.usage fault), [])
  | .ok line =>
    match line.config l.files with
    | .error fault => (.error (.config fault), [])
    | .ok config => start l.environment config n

/-- Turns the dump switch. What is told of it is shown as the new position says. -/
def toggleDumps (p : Program) : Program × List LogLine :=
  let (log, told) := p.switch.toggle
  ({ p with switch := log }, log.lines [⟨.main, [told]⟩])

/-- The event that a signal has arrived. -/
def signalEvent (signal : StopSignal) : Observation :=
  Telemetry.log .info .signals ("Received " ++ signal.name)

/-- Interrupts and stops the server. -/
def stop (p : Program) (signal : StopSignal) : Ending × List LogLine :=
  let count := p.server.workers.getD 0
  let handed := p.server.reactor.getD []
  match p.server.interrupt with
  | (_, .error fault, told) =>
    (.server fault, p.switch.lines [⟨.main, signalEvent signal :: told⟩])
  | (server, .ok (), interrupted) =>
    let (_, stopped) := server.stop
    (.stopped, p.switch.lines (⟨.main, signalEvent signal :: interrupted⟩ ::
      ⟨.stopping, stopped⟩ :: workersEnd count ++
      [⟨.reactor, Reactor.exitEvents handed⟩,
        ⟨.main, [Telemetry.log .info .program "Shutdown complete"]⟩]))

/-- What a signal does: the program goes on or ends. -/
def receive (p : Program) : Signal → Except Ending Program × List LogLine
  | .toggleDumps =>
    let (p, shown) := p.toggleDumps
    (.ok p, shown)
  | .stop signal =>
    let (ending, shown) := p.stop signal
    (.error ending, shown)

/-- Signals one after the other, until one ends the program. -/
def run (p : Program) : List Signal → Except Ending Program × List LogLine
  | [] => (.ok p, [])
  | signal :: rest =>
    match p.receive signal with
    | (.error ending, shown) => (.error ending, shown)
    | (.ok p, first) =>
      let (outcome, others) := p.run rest
      (outcome, first ++ others)

end Program

end ControlPlane
