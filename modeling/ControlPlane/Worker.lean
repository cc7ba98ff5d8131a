import ControlPlane.Service.Basic

/-!
# Workers

A worker takes jobs from the queue, one after the other, until the queue is
stopped. A handler that fails does not stop its worker: the request was given up
with the handler, and the worker tells of the failure and goes on. Only a second
reply is beyond repair, and the whole process aborts.

## Main definitions

* `Worker.faultEvent`: What a worker tells about a handler that failed.
* `Worker.Progress`: How one turn of a worker ends.
* `Worker.turn`: A worker takes one job, if it can.
* `Worker.work`: Turns until there is nothing left to take.
-/

namespace ControlPlane

open Telemetry (Observation)

namespace Worker

open Text (decimal)

/-- The text by which a fault is told. -/
def faultText : Fault → String
  | .text message => message
  | _ => "non-string panic payload"

/-- What a worker tells about a handler that failed. -/
def faultEvent (worker : Nat) (subpath : String) : Fault → Observation
  | .doubleReply _ =>
    Telemetry.log .error .worker "Handler replied twice; aborting"
      [("worker_id", decimal worker), ("subpath", subpath)]
  | fault =>
    Telemetry.log .error .worker "Handler panicked"
      [("worker_id", decimal worker), ("subpath", subpath), ("panic", faultText fault)]

/-- The fault is beyond repair. -/
def isFatal : Fault → Bool
  | .doubleReply _ => true
  | _ => false

/-- What a worker tells when it begins. -/
def startEvent (worker : Nat) : Observation :=
  Telemetry.log .debug .worker "Worker started" [("worker_id", decimal worker)]

/-- What a worker tells when it ends. -/
def exitEvent (worker : Nat) : Observation :=
  Telemetry.log .debug .worker "Worker exiting" [("worker_id", decimal worker)]

/-- How one turn of a worker ends. -/
inductive Progress where
  /-- There was no job. -/
  | waiting
  /-- The queue was stopped, and the worker is done. -/
  | exited
  /-- A job was run. -/
  | served (job : Job)
  /-- The process aborts. -/
  | aborted (job : Job)
  deriving DecidableEq

/-- A worker takes one job and runs it, if it can. -/
def turn (worker : Nat) (s : Service) : Service × Progress × List Observation :=
  match s.take with
  | (.blocked, s) => (s, .waiting, [])
  | (.stopped, s) => (s, .exited, [exitEvent worker])
  | (.item job _, s) =>
    let depth : Observation := .set .queueDepth s.queue.size
    let (s, fault, told) := s.runJob job
    match fault with
    | none => (s, .served job, depth :: told)
    | some fault =>
      (s, if isFatal fault then .aborted job else .served job,
        depth :: (told ++ [faultEvent worker job.subpath fault]))

/-- At most the given number of turns, up to one that ran no job or aborted. -/
def turns (worker : Nat) : (count : Nat) → Service → Service × Progress × List Observation
  | 0, s => (s, .waiting, [])
  | count + 1, s =>
    match turn worker s with
    | (s, .served _, first) =>
      let (s, last, others) := turns worker count s
      (s, last, first ++ others)
    | ended => ended

/-- Turns until there is nothing left to take. A turn adds nothing to the queue,
    so one turn more than there are jobs suffices. -/
def work (worker : Nat) (s : Service) : Service × Progress × List Observation :=
  turns worker (s.queue.size + 1) s

end Worker

/-- What serving everything in a queue with a number of workers leaves. -/
structure PoolRun where
  service : Service
  /-- A worker aborted the process. -/
  aborted : Bool
  /-- What each worker told. -/
  told : List (List Observation)
  /-- Jobs that no worker took. -/
  released : Nat
  /-- What was told while they were given up. -/
  toldAtRelease : List Observation

namespace PoolRun

/-- Lets workers serve one after the other. Each one begins, works and, if the
    queue was stopped in the end, exits. -/
def serveAll (s : Service) : List Nat → Service × Bool × List (List Observation)
  | [] => (s, false, [])
  | worker :: rest =>
    let (s, progress, told) := Worker.work worker s
    let own := Worker.startEvent worker :: told
    match progress with
    | .aborted _ => (s, true, [own])
    | .exited =>
      let (s, aborted, others) := serveAll s rest
      (s, aborted, own :: others)
    | _ =>
      let (s, aborted, others) := serveAll s rest
      (s, aborted, (own ++ [Worker.exitEvent worker]) :: others)

/-- Workers serve what is queued, the queue is stopped, the workers exit, and
    what is left is given up. -/
def ofService (s : Service) (workers : Nat) : PoolRun :=
  let (s, aborted, told) := serveAll s (List.range workers)
  let (s, released, toldAtRelease) := s.stopQueue.release
  { service := s, aborted, told, released, toldAtRelease }

end PoolRun

end ControlPlane
