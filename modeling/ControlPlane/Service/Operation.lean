import ControlPlane.Service.Basic

/-!
# Operations on a Service

Everything that can be done to a service from outside, one thing at a time: its
routes change, requests arrive and leave, a worker takes the next job, and the
server is interrupted piece by piece. A history is a list of such operations.

## Main definitions

* `Service.Operation`: One thing done to a service.
* `Service.Answer`: What it answers.
* `Service.apply`: Does it.
* `Service.run`: Several things one after the other.
-/

namespace ControlPlane

open Telemetry (Observation)

namespace Service

/-- One thing done to a service. -/
inductive Operation where
  | register (m : Matcher) (handler : Handler)
  | unregister (m : Matcher)
  /-- A request arrives and goes through the callback. -/
  | request (head : RequestHead) (body : ByteArray)
  /-- The waiting side of an exchange leaves. -/
  | disconnect (number : Nat)
  /-- The oldest job is taken out and run. -/
  | run
  /-- The oldest job is taken out, and its request is given up, perhaps after a
      reply. -/
  | takeBack (reply : Option (Http.Status × ByteArray))
  | stopAdmitting
  | stopQueue
  | requestShutdown
  | release

/-- What taking a job answers. -/
inductive Taken where
  | blocked
  | stopped
  /-- The job was run. -/
  | ran (description : String) (job : Job) (fault : Option Fault)
  /-- The request of the job was taken back. -/
  | takenBack (description : String) (job : Job)

/-- What an operation answers. -/
inductive Answer where
  | done
  | removed (wasThere : Bool)
  | taken (taken : Taken)
  | holders (count : Nat)
  | released (count : Nat)

/-- A job with the target of its request, as messages show it. -/
def describeJob (s : Service) (job : Job) : String :=
  let target := ((s.exchanges[job.exchange]?).map fun x => x.head.target).getD ""
  "WorkItem \x7b uri: " ++ Text.quoted target ++ ", subpath: " ++ Text.quoted job.subpath ++ " \x7d"

/-- The request of a job, as messages show it. -/
def describeRequest (s : Service) (job : Job) : String :=
  ((s.exchanges[job.exchange]?).map Exchange.describe).getD ""

/-- Does one thing to a service. -/
def apply (s : Service) : Operation → Service × Answer × List Observation
  | .register m handler =>
    let (s, told) := s.register m handler
    (s, .done, told)
  | .unregister m =>
    let (s, removed, told) := s.unregister m
    (s, .removed removed, told)
  | .request head body =>
    let (s, number) := s.openExchange head body
    let (s, told) := s.handle number
    (s, .done, told)
  | .disconnect number => (s.disconnect number, .done, [])
  | .run =>
    match s.take with
    | (.blocked, s) => (s, .taken .blocked, [])
    | (.stopped, s) => (s, .taken .stopped, [])
    | (.item job _, s) =>
      let description := s.describeJob job
      let (s, fault, told) := s.runJob job
      (s, .taken (.ran description job fault), told)
  | .takeBack reply =>
    match s.take with
    | (.blocked, s) => (s, .taken .blocked, [])
    | (.stopped, s) => (s, .taken .stopped, [])
    | (.item job _, s) =>
      let description := s.describeRequest job
      let (s, told) := match reply with
        | some (status, body) => s.answer job.exchange status body
        | none => s.giveUp job.exchange
      (s, .taken (.takenBack description job), told)
  | .stopAdmitting =>
    let s := s.stopAdmitting
    (s, .holders s.queueHolders, [])
  | .stopQueue => (s.stopQueue, .done, [])
  | .requestShutdown =>
    let (s, told) := s.requestShutdown
    (s, .done, told)
  | .release =>
    let (s, count, told) := s.release
    (s, .released count, told)

/-- Does several things to a service, one after the other, and collects the answers
    and everything that is told. -/
def run (s : Service) : List Operation → Service × List Answer × List Observation
  | [] => (s, [], [])
  | op :: rest =>
    let (s, answer, first) := s.apply op
    let (s, answers, others) := s.run rest
    (s, answer :: answers, first ++ others)

end Service

end ControlPlane
