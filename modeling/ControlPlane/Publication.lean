import ControlPlane.Handler
import ControlPlane.Route

/-!
# Publishing Routes

The table of routes is read without locks, and several threads may change it at
the same time. A change takes the published table, makes a new one from it, and
publishes that only if the table it was made from is still the published one;
otherwise it starts over from the newer table.

Tables are told apart by a version, which every publication raises.

## Main definitions

* `RouteChange`: A route is added or removed.
* `Publisher`: A thread with the change that it makes.
* `Publication`: The published table, the threads, and the changes made so far.
* `Publication.Step`, `Publication.step`: One atomic step of a thread.
-/

namespace ControlPlane

/-- A change of the table of routes. -/
inductive RouteChange where
  | register (m : Matcher) (handler : Handler)
  | unregister (m : Matcher)
  deriving DecidableEq

namespace RouteChange

/-- The table after a change. -/
def applyTo (t : RouteTable Handler) : RouteChange → RouteTable Handler
  | .register m handler => t.register m handler
  | .unregister m => t.unregister m

/-- What a change answers: whether it has removed a route. -/
def answer (t : RouteTable Handler) : RouteChange → Bool
  | .register _ _ => false
  | .unregister m => t.has m

end RouteChange

/-- A thread that changes the table, as far as it has come. -/
inductive Publisher where
  /-- It has not looked at the table yet. -/
  | starting (change : RouteChange)
  /-- It has made a new table from the one of this version. -/
  | prepared (change : RouteChange) (version : Nat) (table : RouteTable Handler) (answer : Bool)
  | finished (change : RouteChange) (answer : Bool)

/-- The published table and those who change it. -/
structure Publication where
  version : Nat := 0
  table : RouteTable Handler := {}
  publishers : List Publisher := []
  /-- The changes made, with their answers, in the order of publication. -/
  made : List (RouteChange × Bool) := []

namespace Publication

/-- One atomic step. -/
inductive Step where
  /-- A thread begins a change. -/
  | enter (change : RouteChange)
  /-- A thread takes the table and makes a new one. -/
  | load (thread : Nat)
  /-- A thread publishes its table, or starts over. -/
  | swap (thread : Nat)

/-- A thread that has made a new table from the published one. -/
def prepare (p : Publication) (change : RouteChange) : Publisher :=
  .prepared change p.version (change.applyTo p.table) (change.answer p.table)

/-- What a step does, if it can be taken. -/
def step (p : Publication) : Step → Option Publication
  | .enter change => some { p with publishers := p.publishers ++ [.starting change] }
  | .load thread =>
    match p.publishers[thread]? with
    | some (.starting change) =>
      some { p with publishers := p.publishers.set thread (p.prepare change) }
    | _ => none
  | .swap thread =>
    match p.publishers[thread]? with
    | some (.prepared change version table answer) =>
      if version = p.version then
        some {
          version := p.version + 1
          table := table
          publishers := p.publishers.set thread (.finished change answer)
          made := p.made ++ [(change, answer)] }
      else some { p with publishers := p.publishers.set thread (p.prepare change) }
    | _ => none

/-- Steps one after the other; one that cannot be taken is passed over. -/
def run (p : Publication) (steps : List Step) : Publication :=
  steps.foldl (fun p s => (p.step s).getD p) p

end Publication

end ControlPlane
