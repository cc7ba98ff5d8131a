import ControlPlane.Handler
import ControlPlane.Proofs.Exchange.Figures

/-!
# Onlookers of an Exchange

Two parties look on while a request is served: the client, who may leave at any moment, and
the operator, who may have whole requests and replies dumped. Neither has a say in it. This
is said by comparing an exchange with the one where the client has stayed (`attended`) and
nothing is dumped (`Conditions.silent`): everything that the serving side does comes to the
same in both.

A client that has left and the dumps do show in the log, so of what is told only the figures
are compared.

## Main definitions

* `Conditions.silent`: The same conditions without dumps.
* `Exchange.attended`: An exchange whose client has stayed.
* `Agrees`, `Answers`: Two results of which one is seen in the other.
* `Outcome.Agrees`: The same outcome but for the onlookers.
* `Reading`: What a handler reads of its request.

## Theorems

* `agrees_writeReply`, `agrees_release`, `agrees_perform`, `agrees_performAll`, `agrees_serve`:
  What the serving side does comes to the same.
* `readings_attended`: Handlers read the same.
-/

namespace ControlPlane

open Telemetry (Observation)

section

variable {σ α : Type}

/-- A state and what is told on the way to it: what one shows is the view of the other. -/
structure Agrees (view : σ → σ) (r' r : σ × List Observation) : Prop where
  state : r'.1 = view r.1
  figures : Telemetry.figures r'.2 = Telemetry.figures r.2

/-- So with an answer, which is the same. -/
structure Answers (view : σ → σ) (r' r : σ × α × List Observation) : Prop where
  state : r'.1 = view r.1
  answer : r'.2.1 = r.2.1
  figures : Telemetry.figures r'.2.2 = Telemetry.figures r.2.2

end

/-- The same conditions without dumps. -/
def Conditions.silent (c : Conditions) : Conditions :=
  { c with dumps := false }

/-- What a handler reads of its request. -/
inductive Reading where
  | header (name : String) (value : Option String)
  | body (body : ByteArray)
  /-- The whole request. -/
  | request (head : RequestHead) (body : ByteArray)
  deriving DecidableEq

/-- What an action reads of the request. -/
def Action.reading? (x : Exchange) : Action → Option Reading
  | .copyHeader name => some (.header name (x.header name))
  | .drain => some (.body (x.readBody true).2)
  | .echo _ => some (.request x.head (x.readBody true).2)
  | _ => none

namespace Exchange

/-- The exchange as it would be if its client had stayed. -/
def attended (left : Bool) (x : Exchange) : Exchange :=
  { x with slot := { x.slot with waiter := if left then .listening else x.slot.waiter } }

/-- What the actions of a handler read, up to the first fault. -/
def readings (c : Conditions) (subpath : String) : Handler → Exchange → List Reading
  | [], _ => []
  | action :: rest, x =>
    let first := x.perform c subpath action
    (action.reading? x).toList ++
      match first.fault with
      | some _ => []
      | none => readings c subpath rest first.exchange

end Exchange

/-- The same outcome but for the onlookers. -/
structure Outcome.Agrees (left : Bool) (o' o : Outcome) : Prop where
  exchange : o'.exchange = o.exchange.attended left
  fault : o'.fault = o.fault
  figures : Telemetry.figures o'.told = Telemetry.figures o.told

namespace Exchange

open Telemetry (figures)

variable (left : Bool) (c : Conditions) (subpath : String) (x : Exchange)

@[simp] theorem isPending_attended : (x.attended left).isPending = x.isPending := rfl

/-- The reply is the same, and so is everything else about the exchange. -/
theorem send_attended (status : Http.Status) (body : ByteArray) :
    ((x.attended left).send c.silent status body).1 = (x.send c status body).1.attended left := rfl

theorem agrees_writeReply (status : Http.Status) (body : ByteArray) :
    Outcome.Agrees left ((x.attended left).writeReply c.silent status body)
      (x.writeReply c status body) := by
  unfold writeReply
  rw [isPending_attended]
  by_cases hp : x.isPending = true
  · rw [if_pos hp, if_pos hp]
    refine ⟨send_attended left c x status body, rfl, ?_⟩
    exact (figures_send c.silent status body (x.attended left)).trans
      (figures_send c status body x).symm
  · rw [if_neg hp, if_neg hp]
    exact ⟨rfl, rfl, rfl⟩

/-- Giving the request up. -/
theorem agrees_release : Agrees (attended left) ((x.attended left).release c.silent) (x.release c) := by
  unfold release
  rw [isPending_attended]
  by_cases hp : x.isPending = true
  · rw [if_pos hp, if_pos hp]
    refine ⟨rfl, ?_⟩
    simp only [Telemetry.figures_log, Telemetry.figures_count, figures_send]
    rfl
  · rw [if_neg hp, if_neg hp]
    exact ⟨rfl, rfl⟩

theorem agrees_perform (action : Action) :
    Outcome.Agrees left ((x.attended left).perform c.silent subpath action)
      (x.perform c subpath action) := by
  cases action with
  | header name value => exact ⟨rfl, rfl, rfl⟩
  | copyHeader name => exact ⟨rfl, rfl, rfl⟩
  | drain => exact ⟨rfl, rfl, rfl⟩
  | reply status body => exact agrees_writeReply left c x status body
  | echo status => exact agrees_writeReply left c { x with body := ByteArray.empty } status _
  | gate => exact ⟨rfl, rfl, rfl⟩
  | fail fault => exact ⟨rfl, rfl, rfl⟩

/-- Actions in order, by induction on what is left to do. -/
theorem agrees_performAll (handler : Handler) :
    Outcome.Agrees left ((x.attended left).performAll c.silent subpath handler)
      (x.performAll c subpath handler) := by
  induction handler generalizing x with
  | nil => exact ⟨rfl, rfl, rfl⟩
  | cons action rest ih =>
      have hfirst := agrees_perform left c subpath x action
      have hothers := ih (x.perform c subpath action).exchange
      cases hfault : (x.perform c subpath action).fault with
      | some fault =>
          simp only [performAll, hfirst.fault, hfault]
          exact hfirst
      | none =>
          simp only [performAll, hfirst.fault, hfault, hfirst.exchange]
          refine ⟨hothers.exchange, hothers.fault, ?_⟩
          simp only [Telemetry.figures_append, hfirst.figures, hothers.figures]

theorem agrees_serve (handler : Handler) :
    Outcome.Agrees left ((x.attended left).serve c.silent subpath handler)
      (x.serve c subpath handler) := by
  have hserved := agrees_performAll left c subpath x handler
  have hreleased := agrees_release left c (x.performAll c subpath handler).exchange
  simp only [serve, hserved.exchange]
  refine ⟨hreleased.state, hserved.fault, ?_⟩
  simp only [Telemetry.figures_append, hserved.figures, hreleased.figures]

/-- Handlers read the same, by the same induction. -/
theorem readings_attended (handler : Handler) :
    (x.attended left).readings c.silent subpath handler = x.readings c subpath handler := by
  induction handler generalizing x with
  | nil => rfl
  | cons action rest ih =>
      have hfirst := agrees_perform left c subpath x action
      have hreading : action.reading? (x.attended left) = action.reading? x := by
        cases action <;> rfl
      simp only [readings, hreading, hfirst.fault, hfirst.exchange, ih]

end Exchange

end ControlPlane
