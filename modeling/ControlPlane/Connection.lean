import ControlPlane.Telemetry
import ControlPlane.Text.Numeral

/-!
# Connections

The server counts its open connections, so that it can wait for them to end
when it stops. A connection holds a guard; dropping the guard takes the
connection out of the count, shows the new count, and wakes those who wait if it
is zero.

Waiting for the count to become zero is a loop: take note of how often waiters
were woken so far, read the count, and sleep unless it is zero. A sleeper wakes
when waiters have been woken since its note, and starts over. The note comes
before the reading, so a last connection that ends in between is not missed.

Dropping and waiting are kept in their separate steps, since connections and
waiters run side by side; the operations done in one go are runs of those steps.

## Main definitions

* `Tracker`: The count, the guards, the drops in progress and the waiters.
* `Tracker.Step`, `Tracker.step`: One atomic step of any of them.
* `Tracker.track`, `Tracker.drop`: A connection begins and ends.
* `Tracker.drains`: Whether waiting ends while guards are dropped.
-/

namespace ControlPlane

open Telemetry (Observation)

/-- The name of a connection. -/
def connectionName (number : Nat) : String :=
  "conn-" ++ Text.decimal number

/-- A drop in progress: the guard is out of the count already. -/
structure Leaving where
  /-- The number of the connection. -/
  number : Nat
  /-- The count that the drop has left. -/
  remaining : Nat
  /-- The count has been shown. -/
  shown : Bool := false
  deriving DecidableEq

/-- Where a waiter stands in its loop. -/
inductive IdleWaiter where
  /-- It is about to take note of the wake-ups. -/
  | starting
  /-- It has taken note and is about to read the count. -/
  | noted (wakeups : Nat)
  /-- It has read a count above zero and sleeps. -/
  | sleeping (wakeups : Nat)
  /-- It has read zero. -/
  | drained
  deriving DecidableEq

/-- The open connections of a server and those who wait for them to end. -/
structure Tracker where
  /-- How many connections are open. -/
  active : Nat := 0
  /-- The number that the next connection gets. -/
  next : Nat := 1
  /-- The numbers of the connections whose guards are held. -/
  guards : List Nat := []
  leaving : List Leaving := []
  /-- How often waiters were woken. -/
  wakeups : Nat := 0
  waiters : List IdleWaiter := []
  deriving DecidableEq

namespace Tracker

/-- One atomic step. -/
inductive Step where
  /-- A connection begins. -/
  | track
  /-- A number is given out without a connection. -/
  | number
  /-- A guard leaves the count. -/
  | leave (number : Nat)
  /-- A drop shows the count that it has left. -/
  | report (number : Nat)
  /-- A drop wakes the waiters if it has left none, and ends. -/
  | finish (number : Nat)
  /-- Somebody begins to wait. -/
  | join
  /-- A waiter takes note of the wake-ups. -/
  | note (waiter : Nat)
  /-- A waiter reads the count. -/
  | read (waiter : Nat)
  /-- A sleeping waiter finds that waiters were woken. -/
  | wake (waiter : Nat)
  deriving DecidableEq

/-- The event that a connection has ended. -/
def closedEvent (number : Nat) : Observation :=
  Telemetry.log .trace .connection "Connection closed"
    [("connection_id", connectionName number)]

/-- What a step does, if it can be taken. -/
def step (t : Tracker) : Step → Option (Tracker × List Observation)
  | .track =>
    some ({ t with active := t.active + 1, next := t.next + 1, guards := t.guards ++ [t.next] },
      [.set .activeConnections (t.active + 1)])
  | .number => some ({ t with next := t.next + 1 }, [])
  | .leave number =>
    if number ∈ t.guards then
      some ({ t with
          active := t.active - 1
          guards := t.guards.erase number
          leaving := t.leaving ++ [⟨number, t.active - 1, false⟩] }, [])
    else none
  | .report number =>
    match t.leaving.find? fun l => l.number = number ∧ l.shown = false with
    | none => none
    | some l =>
      some ({ t with
          leaving := t.leaving.map fun other => if other = l then { l with shown := true } else other },
        [.set .activeConnections l.remaining])
  | .finish number =>
    match t.leaving.find? fun l => l.number = number ∧ l.shown = true with
    | none => none
    | some l =>
      some ({ t with
          leaving := t.leaving.erase l
          wakeups := if l.remaining = 0 then t.wakeups + 1 else t.wakeups },
        [closedEvent number])
  | .join => some ({ t with waiters := t.waiters ++ [.starting] }, [])
  | .note waiter =>
    match t.waiters[waiter]? with
    | some .starting => some ({ t with waiters := t.waiters.set waiter (.noted t.wakeups) }, [])
    | _ => none
  | .read waiter =>
    match t.waiters[waiter]? with
    | some (.noted seen) =>
      let found := if t.active = 0 then .drained else .sleeping seen
      some ({ t with waiters := t.waiters.set waiter found }, [])
    | _ => none
  | .wake waiter =>
    match t.waiters[waiter]? with
    | some (.sleeping seen) =>
      if t.wakeups = seen then none
      else some ({ t with waiters := t.waiters.set waiter .starting }, [])
    | _ => none

/-- Steps one after the other; one that cannot be taken is passed over. -/
def run (t : Tracker) : List Step → Tracker × List Observation
  | [] => (t, [])
  | s :: rest =>
    match t.step s with
    | none => t.run rest
    | some (t, first) =>
      let (t, others) := t.run rest
      (t, first ++ others)

/-- A connection begins. Answers its number. -/
def track (t : Tracker) : Tracker × Nat × List Observation :=
  let (t', told) := t.run [.track]
  (t', t.next, told)

/-- The steps in which a guard is dropped. -/
def dropSteps (number : Nat) : List Step :=
  [.leave number, .report number, .finish number]

/-- A connection ends, if its guard is still held. -/
def drop (t : Tracker) (number : Nat) : Tracker × List Observation :=
  t.run (dropSteps number)

/-- Whether waiting for the last connection to end comes to an end while the
    guards are dropped in order. The waiter that is added for it is gone
    afterwards. -/
def drains (t : Tracker) (numbers : List Nat) : Tracker × Bool × List Observation :=
  let waiter := t.waiters.length
  let steps := [.join, .note waiter, .read waiter] ++ numbers.flatMap dropSteps ++
    [.wake waiter, .note waiter, .read waiter]
  let (t', told) := t.run steps
  ({ t' with waiters := t'.waiters.take waiter }, t'.waiters[waiter]? = some .drained, told)

end Tracker

end ControlPlane
