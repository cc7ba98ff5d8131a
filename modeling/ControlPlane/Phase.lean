/-!
# Phases of a Server

A server goes through five phases, always forward. It is set up, it runs, it is
interrupted, and it stops; some phases may be left out, and none comes back.

## Main definitions

* `Phase`: The phases in order.
* `Phase.rank`: The place of a phase in the order.
* `Phase.isAccepting`: Requests are still queued for workers.
-/

namespace ControlPlane

/-- Where a server is in its life. -/
inductive Phase where
  | uninitialized
  | initialized
  | running
  | interrupted
  | stopped
  deriving DecidableEq

namespace Phase

/-- The name of the phase. -/
def name : Phase → String
  | .uninitialized => "uninitialized"
  | .initialized => "initialized"
  | .running => "running"
  | .interrupted => "interrupted"
  | .stopped => "stopped"

/-- The name used where a server is shown with its parts. -/
def label : Phase → String
  | .uninitialized => "Uninitialized"
  | .initialized => "Initialized"
  | .running => "Running"
  | .interrupted => "Interrupted"
  | .stopped => "Stopped"

/-- The place of the phase in the order. -/
def rank : Phase → Nat
  | .uninitialized => 0
  | .initialized => 1
  | .running => 2
  | .interrupted => 3
  | .stopped => 4

/-- The phases in order. -/
def all : List Phase :=
  [.uninitialized, .initialized, .running, .interrupted, .stopped]

/-- The phase that a label names. -/
def ofLabel? (label : String) : Option Phase :=
  all.find? fun phase => phase.label = label

/-- Requests that reach the server are still queued for workers. -/
def isAccepting : Phase → Bool
  | .initialized | .running => true
  | _ => false

end Phase

end ControlPlane
