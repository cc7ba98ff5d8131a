import ControlPlane.Worker

/-!
# The Whole System

Everything that runs side by side in a started server, one atomic step at a time:
the reactor with its requests, the workers, the owner who interrupts and stops
the server, the clients who may leave, and whoever changes the routes.

The reactor takes a request through four steps: it opens an exchange, loads the
callback, screens the request with it, and queues the job. The callback that it
has loaded may be out of date by the time the job is queued, so a job can land in
a queue that was stopped, or even emptied, before.

The queue lives as long as somebody holds it: the owner, a callback that admits,
published or still in use by the reactor, and each worker. When the last holder
lets go, what is still in the queue is given up. That is how late jobs are
answered.

## Main definitions

* `ReactorStage`, `WorkerStage`, `OwnerStage`: Where everyone stands.
* `System`: All of it.
* `System.holders`: How many hold the queue.
* `System.Step`, `System.step`: One atomic step of any of them.
* `System.run`: Steps one after the other.
-/

namespace ControlPlane

open Telemetry (Observation)

/-- Where the reactor stands with the request that it takes in. -/
inductive ReactorStage where
  /-- It takes in no request at the moment. -/
  | idle
  /-- The exchange was opened. -/
  | opened (number : Nat)
  /-- The callback was loaded. -/
  | loaded (number : Nat) (callback : Callback)
  /-- The request was screened and is to be queued. -/
  | routed (job : Job)
  /-- It has ended. -/
  | joined
  deriving DecidableEq

/-- Where a worker stands. -/
inductive WorkerStage where
  | waiting
  /-- It runs a job, with these actions to go. -/
  | serving (job : Job) (rest : List Action)
  | exited
  deriving DecidableEq

/-- How far the owner has come with interrupting and stopping the server. -/
inductive OwnerStage where
  /-- The server runs. -/
  | running
  /-- New requests are refused. -/
  | refusing
  /-- The queue was stopped. -/
  | stopping
  /-- Shutdown was requested, and with that the interrupt is complete. -/
  | interrupted
  /-- All workers have exited. -/
  | joined
  /-- The queue was emptied, and these jobs are still to be given up. -/
  | releasing (rest : List Job)
  /-- The owner has let go of the queue. -/
  | dropped
  /-- The reactor has ended, and with that the stop is complete. -/
  | stopped
  deriving DecidableEq

/-- The owner holds the queue. -/
def OwnerStage.holds : OwnerStage → Bool
  | .dropped | .stopped => false
  | _ => true

/-- Everything that runs side by side in a started server. -/
structure System where
  service : Service
  reactor : ReactorStage := .idle
  workers : List WorkerStage
  owner : OwnerStage := .running
  /-- A worker has aborted the process. -/
  aborted : Bool := false
  /-- The jobs that workers have begun, in order. -/
  begun : List Job := []

namespace System

/-- A server that was just started with so many workers. -/
def ofService (s : Service) (workers : Nat) : System :=
  { service := s, workers := List.replicate workers .waiting }

/-- A callback holds the queue. -/
def callbackHolds : Callback → Bool
  | .dispatch _ => true
  | .reject => false

/-- The reactor holds the queue through the callback that it has loaded. -/
def reactorHolds : ReactorStage → Bool
  | .loaded _ callback => callbackHolds callback
  | .routed _ => true
  | _ => false

/-- How many hold the queue. -/
def holders (y : System) : Nat :=
  y.owner.holds.toNat + (callbackHolds y.service.callback).toNat +
    (reactorHolds y.reactor).toNat + y.workers.countP (· ≠ .exited)

/-- A queue that nobody holds is given up with the jobs in it. -/
def dropUnheld (y : System) : System × List Observation :=
  if y.holders = 0 then
    let (service, _, told) := y.service.release
    ({ y with service := service }, told)
  else (y, [])

/-- One atomic step. -/
inductive Step where
  /-- A request arrives at the reactor. -/
  | arrive (head : RequestHead) (body : ByteArray)
  /-- The reactor loads the callback. -/
  | load
  /-- The reactor screens the request. -/
  | screen
  /-- The reactor queues the job. -/
  | enqueue
  /-- A worker takes a job, or exits if the queue was stopped. -/
  | take (worker : Nat)
  /-- A worker performs the next action of its job, or gives the request up after
      the last one. -/
  | act (worker : Nat)
  /-- The owner does what comes next. -/
  | advance
  /-- A client leaves. -/
  | leave (number : Nat)
  | register (m : Matcher) (handler : Handler)
  | unregister (m : Matcher)

/-- A step of the reactor. -/
def stepReactor (y : System) : Step → Option (System × List Observation)
  | .arrive head body =>
    match y.reactor with
    | .idle =>
      let (service, number) := y.service.openExchange head body
      some ({ y with service := service, reactor := .opened number }, [])
    | _ => none
  | .load =>
    match y.reactor with
    | .opened number => some ({ y with reactor := .loaded number y.service.callback }, [])
    | _ => none
  | .screen =>
    match y.reactor with
    | .loaded number callback =>
      let (service, job, told) := y.service.screen callback number
      let reactor := match job with
        | some job => .routed job
        | none => .idle
      let (y, given) := { y with service := service, reactor := reactor }.dropUnheld
      some (y, told ++ given)
    | _ => none
  | .enqueue =>
    match y.reactor with
    | .routed job =>
      let (service, told) := y.service.enqueue job
      let (y, given) := { y with service := service, reactor := .idle }.dropUnheld
      some (y, told ++ given)
    | _ => none
  | _ => none

/-- The system with a worker at another stage. -/
def setWorker (y : System) (worker : Nat) (stage : WorkerStage) : System :=
  { y with workers := y.workers.set worker stage }

/-- A worker takes a job. It cannot while the queue runs and is empty. -/
def take (y : System) (worker : Nat) : Option (System × List Observation) :=
  match y.service.take with
  | (.blocked, _) => none
  | (.stopped, _) =>
    let (y, given) := (y.setWorker worker .exited).dropUnheld
    some (y, Worker.exitEvent worker :: given)
  | (.item job _, service) =>
    some ({ y with service := service, begun := y.begun ++ [job] }.setWorker worker
      (.serving job job.handler), [.set .queueDepth service.queue.size])

/-- A worker gives the request of its job up, after a fault if there was one. -/
def conclude (y : System) (worker : Nat) (job : Job) (fault : Option Fault) :
    System × List Observation :=
  let (service, told) := y.service.giveUp job.exchange
  ({ y with service := service, aborted := fault.any Worker.isFatal }.setWorker worker .waiting,
    told ++ (fault.map (Worker.faultEvent worker job.subpath)).toList)

/-- A step of a worker. -/
def stepWorker (y : System) : Step → Option (System × List Observation)
  | .take worker =>
    match y.workers[worker]? with
    | some .waiting => y.take worker
    | _ => none
  | .act worker =>
    match y.workers[worker]? with
    | some (.serving job []) => some (y.conclude worker job none)
    | some (.serving job (action :: rest)) =>
      let (service, fault, told) := y.service.act job action
      let y := { y with service := service }
      match fault with
      | none => some (y.setWorker worker (.serving job rest), told)
      | some fault =>
        let (y, given) := y.conclude worker job (some fault)
        some (y, told ++ given)
    | _ => none
  | _ => none

/-- What the owner does next, if it can. It waits for the workers to exit, and at
    the end for the reactor to have no request in its hands. -/
def advance (y : System) : Option (System × List Observation) :=
  match y.owner with
  | .running =>
    let (y, given) :=
      { y with service := y.service.stopAdmitting, owner := .refusing }.dropUnheld
    some (y, given)
  | .refusing => some ({ y with service := y.service.stopQueue, owner := .stopping }, [])
  | .stopping =>
    let (service, told) := y.service.requestShutdown
    some ({ y with service := service, owner := .interrupted }, told)
  | .interrupted => if y.workers.all (· = .exited) then some ({ y with owner := .joined }, []) else none
  | .joined =>
    let (queue, jobs) := y.service.queue.release
    some ({ y with service := { y.service with queue := queue }, owner := .releasing jobs }, [])
  | .releasing (job :: rest) =>
    let (service, told) := y.service.giveUp job.exchange
    some ({ y with service := service, owner := .releasing rest }, told)
  | .releasing [] =>
    let (y, given) := { y with owner := .dropped }.dropUnheld
    some (y, given)
  | .dropped =>
    match y.reactor with
    | .idle => some ({ y with reactor := .joined, owner := .stopped }, [])
    | _ => none
  | .stopped => none

/-- What a step does, if it can be taken. After an abort there are no steps. -/
def step (y : System) (s : Step) : Option (System × List Observation) :=
  if y.aborted then none
  else
    match s with
    | .arrive .. | .load | .screen | .enqueue => y.stepReactor s
    | .take _ | .act _ => y.stepWorker s
    | .advance => y.advance
    | .leave number => some ({ y with service := y.service.disconnect number }, [])
    | .register m handler =>
      let (service, told) := y.service.register m handler
      some ({ y with service := service }, told)
    | .unregister m =>
      let (service, _, told) := y.service.unregister m
      some ({ y with service := service }, told)

/-- Steps one after the other; one that cannot be taken is passed over. -/
def run (y : System) : List Step → System × List Observation
  | [] => (y, [])
  | s :: rest =>
    match y.step s with
    | none => y.run rest
    | some (y, first) =>
      let (y, others) := y.run rest
      (y, first ++ others)

/-- The exchanges that were opened and not answered yet. -/
def unanswered (y : System) : Nat :=
  y.service.exchanges.countP fun x => x.slot.isReady

end System

end ControlPlane
