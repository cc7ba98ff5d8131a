import ControlPlane.WorkQueue.Basic

/-!
# Waiting at the Work Queue

Those who take items from a queue sleep while it is empty. Bringing an item
wakes one sleeper, stopping the queue wakes all, and a sleeper may also wake for
no reason. Waking is not yet having: a woken consumer has to look at the queue
again, and another one may have been faster.

Consumers are alike, so the state counts them: how many sleep, and how many were
woken and have not looked again yet.

## Main definitions

* `WaitingRoom`: A queue and the consumers that wait at it.
* `WaitingRoom.Step`: One atomic step of a producer, a consumer or the owner.
* `WaitingRoom.step`: What a step does, if it can be taken.
* `WaitingRoom.run`: Steps one after the other.
-/

namespace ControlPlane

/-- A queue and the consumers that wait at it. -/
structure WaitingRoom (α : Type) where
  queue : WorkQueue α
  /-- Consumers that sleep until they are woken. -/
  asleep : Nat := 0
  /-- Consumers that were woken and have not looked at the queue again yet. -/
  woken : Nat := 0

namespace WaitingRoom

variable {α : Type}

/-- One atomic step. -/
inductive Step (α : Type) where
  | enqueue (a : α)
  /-- A consumer comes and looks at the queue. -/
  | enter
  /-- A woken consumer looks at the queue again. -/
  | recheck
  /-- A sleeper wakes for no reason. -/
  | stir
  | interrupt
  | release

/-- What a step answers. -/
inductive Answer (α : Type) where
  | accepted
  | refused (a : α)
  /-- A consumer leaves with an item, or without one because the queue stopped. -/
  | left (item : Option α)
  /-- A consumer goes to sleep. -/
  | slept
  | released (items : List α)
  | done
  deriving DecidableEq

/-- Wakes one sleeper, if there is one. -/
def wakeOne (room : WaitingRoom α) : WaitingRoom α :=
  if room.asleep = 0 then room
  else { room with asleep := room.asleep - 1, woken := room.woken + 1 }

/-- Wakes every sleeper. -/
def wakeAll (room : WaitingRoom α) : WaitingRoom α :=
  { room with asleep := 0, woken := room.woken + room.asleep }

/-- A consumer looks at the queue, and leaves or goes to sleep. -/
def look (room : WaitingRoom α) : WaitingRoom α × Answer α :=
  match room.queue.dequeue with
  | .blocked => ({ room with asleep := room.asleep + 1 }, .slept)
  | .stopped => (room, .left none)
  | .item a rest => ({ room with queue := rest }, .left (some a))

/-- What a step does. A step of a consumer needs one that can take it. -/
def step (room : WaitingRoom α) : Step α → Option (WaitingRoom α × Answer α)
  | .enqueue a =>
    match room.queue.enqueue a with
    | .error a => some (room, .refused a)
    | .ok queue => some (wakeOne { room with queue := queue }, .accepted)
  | .enter => some room.look
  | .recheck => if room.woken = 0 then none else some ({ room with woken := room.woken - 1 }).look
  | .stir =>
    if room.asleep = 0 then none
    else some ({ room with asleep := room.asleep - 1, woken := room.woken + 1 }, .done)
  | .interrupt => some (wakeAll { room with queue := room.queue.interrupt }, .done)
  | .release =>
    let (queue, items) := room.queue.release
    some ({ room with queue := queue }, .released items)

/-- Steps one after the other, with the answers in order. -/
def run (room : WaitingRoom α) : List (Step α) → Option (WaitingRoom α × List (Answer α))
  | [] => some (room, [])
  | s :: rest =>
    match room.step s with
    | none => none
    | some (room', answer) => (room'.run rest).map fun (last, answers) => (last, answer :: answers)

/-- What the consumers that left have taken with them, in order. -/
def departures (answers : List (Answer α)) : List (Option α) :=
  answers.filterMap fun
    | .left item => some item
    | _ => none

/-- A consumer that sleeps is handed an item. -/
def handoff (q : WorkQueue α) (a : α) : Option (WaitingRoom α × List (Answer α)) :=
  run { queue := q } [.enter, .enqueue a, .recheck]

/-- The queue is stopped under consumers that have come, and each that was woken
    by that looks again. -/
def interruptAsleep (q : WorkQueue α) (consumers : Nat) :
    Option (WaitingRoom α × List (Answer α)) := do
  let (room, first) ← run { queue := q } (List.replicate consumers .enter ++ [.interrupt])
  let (room, others) ← room.run (List.replicate room.woken .recheck)
  return (room, first ++ others)

end WaitingRoom

end ControlPlane
