/-!
# The Work Queue

Items wait in a queue between those who bring them and those who take them, in
the order in which they came. The queue holds at most a fixed number, and an
item that finds it full is handed back at once. Stopping the queue is final: it
hands out nothing more, even if items are left or still arrive, and what is left
can only be released.

## Main definitions

* `WorkQueue`: The items, whether the queue runs, and how many it may hold.
* `WorkQueue.enqueue`: Brings an item, or hands it back.
* `WorkQueue.dequeue`: Takes the oldest item, if the queue gives one.
* `WorkQueue.interrupt`: Stops the queue.
* `WorkQueue.release`: Empties the queue.
-/

namespace ControlPlane

/-- Items in order of arrival, at most `depth` of them. -/
structure WorkQueue (α : Type) where
  items : List α := []
  running : Bool := true
  depth : Nat

namespace WorkQueue

variable {α : Type}

/-- A running queue without items. -/
def ofDepth (depth : Nat) : WorkQueue α :=
  { depth := depth }

/-- How many items wait. -/
def size (q : WorkQueue α) : Nat :=
  q.items.length

/-- Brings an item. A full queue hands it back. -/
def enqueue (q : WorkQueue α) (a : α) : Except α (WorkQueue α) :=
  if q.depth ≤ q.size then .error a else .ok { q with items := q.items ++ [a] }

/-- What taking an item comes to. -/
inductive Dequeued (α : Type) where
  /-- There is no item yet. -/
  | blocked
  /-- The queue was stopped. -/
  | stopped
  /-- The oldest item, and the queue without it. -/
  | item (a : α) (rest : WorkQueue α)

/-- Takes the oldest item of a running queue. -/
def dequeue (q : WorkQueue α) : Dequeued α :=
  if q.running then
    match q.items with
    | [] => .blocked
    | a :: rest => .item a { q with items := rest }
  else .stopped

/-- Stops the queue for good. -/
def interrupt (q : WorkQueue α) : WorkQueue α :=
  { q with running := false }

/-- Takes all the items out, in order. -/
def release (q : WorkQueue α) : WorkQueue α × List α :=
  ({ q with items := [] }, q.items)

end WorkQueue

end ControlPlane
