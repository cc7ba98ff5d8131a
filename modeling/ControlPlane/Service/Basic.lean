import ControlPlane.AllowList
import ControlPlane.Handler
import ControlPlane.Route
import ControlPlane.WorkQueue.Basic

/-!
# The Service

The part of the server between the connections and the workers: the table of
routes, the callback that every request goes through, the queue of admitted
requests, and the exchanges themselves.

A request is screened first. One that a gate refuses is answered on the spot; of
several reasons the first in the order peer, method, route counts. One that
passes is queued with the handler and the rest of the target that the table gave
at that moment, so later changes of the table do not concern it. A full queue is
the last gate.

Once the server is interrupted the callback refuses everything, and the queue
hands out nothing more.

Exchanges are numbered in the order in which they were opened, and everything
else refers to them by number, so each exchange has one state that all sides see.

## Main definitions

* `Job`: An admitted request with what will serve it.
* `Callback`: What a request goes through.
* `Service`: The shared state.
* `Verdict`: What screening finds.
* `Service.openExchange`, `Service.screen`, `Service.enqueue`: The steps of a request up
  to the queue.
* `Service.take`, `Service.act`, `Service.giveUp`: The steps of a worker.
* `Service.stopAdmitting`, `Service.stopQueue`, `Service.requestShutdown`: The
  steps of an interrupt.
* `Service.handle`, `Service.runJob`, `Service.release`: Several steps at once.
-/

namespace ControlPlane

open Telemetry (Observation)

/-- An admitted request: its number, its handler, and the rest of its target. -/
structure Job where
  exchange : Nat
  handler : Handler
  subpath : String
  deriving DecidableEq

/-- What a request goes through. -/
inductive Callback where
  /-- The request is screened and queued. -/
  | dispatch (allow : AllowList)
  /-- The server is shutting down, and the request is refused. -/
  | reject
  deriving DecidableEq

/-- The state shared by connections, workers and the owner of the server. -/
structure Service where
  routes : RouteTable Handler := {}
  callback : Callback := .reject
  queue : WorkQueue Job
  /-- Shutdown was requested. -/
  closing : Bool := false
  /-- Full dumps are switched on. -/
  dumps : Bool := false
  exchanges : List Exchange := []

/-- What screening finds about a request. -/
inductive Verdict where
  /-- The peer may not use the server. -/
  | forbidden
  /-- The server does not know the method. -/
  | unknownMethod
  /-- No route leads anywhere. -/
  | unrouted
  | admitted (handler : Handler) (subpath : String)
  deriving DecidableEq

namespace Verdict

/-- The characters of a target that the log shows, beside letters and digits. -/
def loggedMarks : List Char :=
  "!*'();:@&=+$,/?#[]-_.~%".toList

/-- The target as the log shows it: nothing that could disturb the log, and at
    most a hundred characters. -/
def loggedTarget (target : String) : String :=
  String.ofList
    ((target.toList.filter fun c => c.isAlphanum || loggedMarks.contains c).take 100)

/-- Screens a request. The first reason to refuse it counts. -/
def ofHead (allow : AllowList) (routes : RouteTable Handler) (head : RequestHead) : Verdict :=
  if !allow.isAllowed head.peer.address then .forbidden
  else if head.method = .unknown then .unknownMethod
  else
    match routes.resolve head.target with
    | none => .unrouted
    | some (handler, subpath) => .admitted handler subpath

/-- The status of the refusal, if it is one. -/
def refusal? : Verdict → Option Http.Status
  | .forbidden => some .forbidden
  | .unknownMethod => some .badRequest
  | .unrouted => some .notFound
  | .admitted _ _ => none

/-- What screening tells. -/
def told (head : RequestHead) : Verdict → Observation
  | .forbidden =>
    Telemetry.log .debug .dispatcher
      ("HTTP request from " ++ head.peer.toText ++
        " rejected: Client network is not allowed RPC access")
  | .unknownMethod =>
    Telemetry.log .debug .dispatcher
      ("HTTP request from " ++ head.peer.toText ++ " rejected: Unknown HTTP request method")
  | .unrouted | .admitted _ _ =>
    Telemetry.log .debug .dispatcher
      ("Received a " ++ head.method.name ++ " request for " ++ loggedTarget head.target ++
        " from " ++ head.peer.toText)

end Verdict

namespace Service

/-- What the service contributes to replies. -/
def conditions (s : Service) : Conditions :=
  { closing := s.closing, dumps := s.dumps }

/-- Does something to one exchange. A number that was never given out names none. -/
def onExchange (s : Service) (number : Nat) (act : Exchange → Outcome) :
    Service × Option Fault × List Observation :=
  match s.exchanges[number]? with
  | none => (s, none, [])
  | some x =>
    let outcome := act x
    ({ s with exchanges := s.exchanges.set number outcome.exchange }, outcome.fault, outcome.told)

/-- Opens an exchange for a request that has arrived, and gives it a number. -/
def openExchange (s : Service) (head : RequestHead) (body : ByteArray) : Service × Nat :=
  ({ s with exchanges := s.exchanges ++ [{ head := head, body := body }] }, s.exchanges.length)

/-- The serving side gives a request up. -/
def giveUp (s : Service) (number : Nat) : Service × List Observation :=
  let (s', _, told) := s.onExchange number fun x =>
    let (x', told) := x.release s.conditions
    { exchange := x', told := told }
  (s', told)

/-- Replies to a request on the spot and gives it up. -/
def answer (s : Service) (number : Nat) (status : Http.Status) (body : ByteArray) :
    Service × List Observation :=
  let (s, _, written) := s.onExchange number fun x => x.writeReply s.conditions status body
  let (s, released) := s.giveUp number
  (s, written ++ released)

/-- Screens a request with the callback that was loaded for it. Either it is
    answered, or it becomes a job that is still to be queued. -/
def screen (s : Service) (callback : Callback) (number : Nat) :
    Service × Option Job × List Observation :=
  match s.exchanges[number]? with
  | none => (s, none, [])
  | some x =>
    match callback with
    | .reject =>
      let (s', told) := s.answer number .unavailable ByteArray.empty
      (s', none, Telemetry.log .debug .dispatcher "Rejecting request while shutting down" :: told)
    | .dispatch allow =>
      let dump := if s.dumps then [Dump.request x.head x.body] else []
      let verdict := Verdict.ofHead allow s.routes x.head
      match verdict with
      | .admitted handler subpath =>
        (s, some ⟨number, handler, subpath⟩, dump ++ [verdict.told x.head])
      | _ =>
        let status := verdict.refusal?.getD .internalError
        let (s', told) := s.answer number status ByteArray.empty
        (s', none, dump ++ [verdict.told x.head] ++ told)

/-- The body of the reply to a request that finds the queue full. -/
def overloadBody : ByteArray :=
  "Work queue depth exceeded".toUTF8

/-- What is told when a request finds the queue full. -/
def overloadEvent : Observation :=
  Telemetry.log .warn .dispatcher
    ("request rejected because http work queue depth exceeded, " ++
      "it can be increased with the -rpcworkqueue= setting")

/-- Queues a job, or answers its request if the queue is full. -/
def enqueue (s : Service) (job : Job) : Service × List Observation :=
  match s.queue.enqueue job with
  | .ok queue => ({ s with queue := queue }, [.set .queueDepth queue.size])
  | .error job =>
    let (s', told) := s.answer job.exchange .internalError overloadBody
    (s', overloadEvent :: .count .rejected :: told)

/-- Puts a request through the callback of the moment: screens it and queues it. -/
def handle (s : Service) (number : Nat) : Service × List Observation :=
  let (s, job, screened) := s.screen s.callback number
  match job with
  | none => (s, screened)
  | some job =>
    let (s, queued) := s.enqueue job
    (s, screened ++ queued)

/-- Queues a request with a handler of its own, past the routes and the gates. A
    request that finds the queue full is given up. Answers whether it was queued. -/
def submit (s : Service) (head : RequestHead) (body : ByteArray) (handler : Handler)
    (subpath : String) : Service × Bool × List Observation :=
  let (s, number) := s.openExchange head body
  match s.queue.enqueue ⟨number, handler, subpath⟩ with
  | .ok queue => ({ s with queue := queue }, true, [])
  | .error job =>
    let (s', told) := s.giveUp job.exchange
    (s', false, told)

/-- Takes the oldest job out of the queue. -/
def take (s : Service) : WorkQueue.Dequeued Job × Service :=
  match s.queue.dequeue with
  | .item job queue => (.item job queue, { s with queue := queue })
  | other => (other, s)

/-- Performs one action of a job. -/
def act (s : Service) (job : Job) (action : Action) :
    Service × Option Fault × List Observation :=
  s.onExchange job.exchange fun x => x.perform s.conditions job.subpath action

/-- Runs a job from its first action to giving up its request. -/
def runJob (s : Service) (job : Job) : Service × Option Fault × List Observation :=
  s.onExchange job.exchange fun x => x.serve s.conditions job.subpath job.handler

/-- From now on every request is refused. -/
def stopAdmitting (s : Service) : Service :=
  { s with callback := .reject }

/-- Stops the queue. -/
def stopQueue (s : Service) : Service :=
  { s with queue := s.queue.interrupt }

/-- Requests shutdown. It is told the first time only. -/
def requestShutdown (s : Service) : Service × List Observation :=
  ({ s with closing := true }, if s.closing then [] else [closingEvent])

/-- Gives up the requests of jobs that no worker will take, in order. -/
def giveUpAll (s : Service) : List Job → Service × List Observation
  | [] => (s, [])
  | job :: rest =>
    let (s, first) := s.giveUp job.exchange
    let (s, others) := s.giveUpAll rest
    (s, first ++ others)

/-- Empties the queue and gives up the requests in it. -/
def release (s : Service) : Service × Nat × List Observation :=
  let (queue, jobs) := s.queue.release
  let (s', told) := ({ s with queue := queue }).giveUpAll jobs
  (s', jobs.length, told)

/-- The waiting side of an exchange leaves. -/
def disconnect (s : Service) (number : Nat) : Service :=
  (s.onExchange number fun x => { exchange := { x with slot := x.slot.leave } }).1

/-- Collects the replies that have become available, with the numbers of their
    exchanges. -/
def collect (s : Service) : Service × List (Nat × Reply) :=
  let looked := s.exchanges.map fun x =>
    if x.slot.waiter = .gone then (x, none)
    else ({ x with slot := x.slot.look.1 }, x.slot.look.2)
  ({ s with exchanges := looked.map Prod.fst },
    (looked.zipIdx.filterMap fun ((_, reply), number) => reply.map fun r => (number, r)))

/-- Adds a route behind all others. -/
def register (s : Service) (m : Matcher) (handler : Handler) : Service × List Observation :=
  ({ s with routes := s.routes.register m handler }, [RouteTable.registered m])

/-- Removes the oldest route with exactly this matcher, and tells whether there
    was one. -/
def unregister (s : Service) (m : Matcher) : Service × Bool × List Observation :=
  if s.routes.has m then
    ({ s with routes := s.routes.unregister m }, true, [RouteTable.unregistered m])
  else (s, false, [])

/-- How many hold the queue: its owner, and the callback while it admits. -/
def queueHolders (s : Service) : Nat :=
  match s.callback with
  | .dispatch _ => 2
  | .reject => 1

end Service

end ControlPlane
