import ControlPlane.WorkQueue.Basic

/-!
# Operations on a Work Queue

Everything that producers, consumers and the owner do to a queue, one atomic
operation at a time, and the history that such operations leave: the items that
were accepted, in the order in which the queue accepted them, and the items that
were taken out again, in the order in which they left and with the way they went.

## Main definitions

* `WorkQueue.Operation`, `WorkQueue.Answer`: One operation and what it answers.
* `WorkQueue.apply`: Does it.
* `WorkQueue.run`: Several operations, with their answers in order.
* `WorkQueue.accepted`, `WorkQueue.removals`: The history in some answers.
-/

namespace ControlPlane

namespace WorkQueue

variable {α : Type}

/-- One atomic operation on a queue. -/
inductive Operation (α : Type) where
  | enqueue (a : α)
  | dequeue
  | interrupt
  | release
  deriving DecidableEq

/-- What an operation answers. -/
inductive Answer (α : Type) where
  | accepted (a : α)
  | refused (a : α)
  /-- There is nothing to take yet, and the consumer would have to wait. -/
  | blocked
  /-- The queue was stopped and gives nothing. -/
  | stopped
  | taken (a : α)
  | interrupted
  | released (items : List α)
  deriving DecidableEq

/-- Does one operation. -/
def apply (q : WorkQueue α) : Operation α → WorkQueue α × Answer α
  | .enqueue a =>
    match q.enqueue a with
    | .ok q => (q, .accepted a)
    | .error a => (q, .refused a)
  | .dequeue =>
    match q.dequeue with
    | .blocked => (q, .blocked)
    | .stopped => (q, .stopped)
    | .item a rest => (rest, .taken a)
  | .interrupt => (q.interrupt, .interrupted)
  | .release =>
    let (q, items) := q.release
    (q, .released items)

/-- Several operations one after the other, with their answers in order. -/
def run (q : WorkQueue α) : List (Operation α) → WorkQueue α × List (Answer α)
  | [] => (q, [])
  | op :: rest =>
    let (q, answer) := q.apply op
    let (q, answers) := q.run rest
    (q, answer :: answers)

/-- The items that were accepted, in order. -/
def accepted (answers : List (Answer α)) : List α :=
  answers.filterMap fun
    | .accepted a => some a
    | _ => none

/-- How an item left a queue. -/
inductive Removal (α : Type) where
  /-- A consumer has taken it. -/
  | taken (a : α)
  /-- It was released with all others. -/
  | released (a : α)
  deriving DecidableEq

/-- The item that has left. -/
def Removal.item : Removal α → α
  | .taken a | .released a => a

/-- What an answer tells about items that left. -/
def Answer.removals : Answer α → List (Removal α)
  | .taken a => [.taken a]
  | .released items => items.map .released
  | _ => []

/-- The items that have left, in order. -/
def removals (answers : List (Answer α)) : List (Removal α) :=
  answers.flatMap Answer.removals

end WorkQueue

end ControlPlane
