import ControlPlane.Proofs.Exchange.Spending

/-!
# The Books of an Exchange

A reply that was sent is an entry in the books: one on the counter of its method and status. The
right to reply is used up at most once, so an exchange has at most one entry, and whatever is done
on its serving side counts exactly the entry that it makes. This is one equation between the
entries before, the entries after and what is told, and such equations can be put one after the
other, through all the actions of a handler.

Nothing on the serving side of an exchange sets a gauge, and nothing there changes who waits.

## Main definitions

* `Telemetry.requests`: The replies that were counted, by method and status.
* `Exchange.counter?`: The counter on which the reply of an exchange belongs.
* `Exchange.Keeps`, `Exchange.Books`: What an operation on the serving side leaves alone, and
  what it counts.

## Theorems

* `books_trans`: Operations one after the other.
* `books_writeReply`, `books_release`, `books_perform`, `books_serve`: The operations.
-/

namespace ControlPlane

open Telemetry (Observation Counter)

namespace Telemetry

/-- The replies that were counted, by method and status and in order. -/
def requests (told : List Observation) : List Counter :=
  (counters told).filter fun
    | .requests _ _ => true
    | _ => false

@[simp] theorem requests_nil : requests [] = [] := rfl

@[simp] theorem requests_append (first others : List Observation) :
    requests (first ++ others) = requests first ++ requests others := by
  simp only [requests, counters, List.filterMap_append, List.filter_append]

@[simp] theorem gauges_append (first others : List Observation) :
    gauges (first ++ others) = gauges first ++ gauges others :=
  List.filterMap_append

theorem requests_figures (told : List Observation) : requests (figures told) = requests told := by
  rw [requests, counters_figures, requests]

/-- Where no reply is told of, none is counted. -/
theorem requests_of_silent {told : List Observation} (h : replies told = 0) :
    requests told = [] := by
  induction told with
  | nil => rfl
  | cons o rest ih =>
      rw [replies_cons] at h
      have hrest := ih (by omega)
      cases o with
      | event e => exact hrest
      | set g value => exact hrest
      | count c =>
          cases c with
          | requests method status => exact absurd h (Nat.succ_ne_zero _)
          | unhandled => exact hrest
          | rejected => exact hrest

end Telemetry

open Telemetry (requests gauges)

namespace Exchange

variable {x x' x'' : Exchange} {told told' : List Observation}

/-- The counter on which the reply of the exchange belongs, if there is one. -/
def counter? (x : Exchange) : Option Counter :=
  x.slot.sent?.map fun reply => .requests x.head.method reply.status

/-- What the serving side of an exchange leaves alone: the request, who waits, and that there is
    somebody to reply. -/
structure Keeps (x x' : Exchange) : Prop where
  head : x'.head = x.head
  waiter : x'.slot.waiter = x.slot.waiter
  alive : x'.slot.trigger = .dropped → x.slot.trigger = .dropped

/-- What an operation on the serving side counts: the entry that it makes, and nothing else. -/
structure Books (x x' : Exchange) (told : List Observation) : Prop where
  keeps : Keeps x x'
  entry : x'.counter?.toList = x.counter?.toList ++ requests told
  gauges : gauges told = []

theorem keeps_refl (x : Exchange) : Keeps x x :=
  ⟨rfl, rfl, id⟩

theorem keeps_trans (h : Keeps x x') (h' : Keeps x' x'') : Keeps x x'' :=
  ⟨h'.head.trans h.head, h'.waiter.trans h.waiter, h.alive ∘ h'.alive⟩

theorem books_refl (x : Exchange) : Books x x [] :=
  ⟨keeps_refl x, (List.append_nil _).symm, rfl⟩

/-- Operations one after the other count their entries. -/
theorem books_trans (h : Books x x' told) (h' : Books x' x'' told') :
    Books x x'' (told ++ told') := by
  refine ⟨keeps_trans h.keeps h'.keeps, ?_, ?_⟩
  · rw [h'.entry, h.entry, Telemetry.requests_append, List.append_assoc]
  · rw [Telemetry.gauges_append, h.gauges, h'.gauges, List.append_nil]

/-- A pending exchange has no entry yet. -/
theorem counter?_of_pending (h : x.isPending = true) : x.counter? = none := by
  have hready := (isPending_iff x).mp h
  simp only [counter?, ReplySlot.sent?, hready, Option.map_none]

/-- Sending makes one entry, under the method of the request and the status sent. -/
theorem books_send (c : Conditions) (status : Http.Status) (body : ByteArray)
    (h : x.isPending = true) : Books x (x.send c status body).1 (x.send c status body).2 := by
  constructor
  case keeps => exact ⟨rfl, rfl, nofun⟩
  case entry =>
      rw [← Telemetry.requests_figures, figures_send, counter?_of_pending h]
      rfl
  case gauges =>
      rw [← Telemetry.gauges_figures, figures_send]
      rfl

theorem books_writeReply (c : Conditions) (status : Http.Status) (body : ByteArray)
    (x : Exchange) :
    Books x (x.writeReply c status body).exchange (x.writeReply c status body).told := by
  unfold writeReply
  by_cases hp : x.isPending = true
  · rw [if_pos hp]
    exact books_send c status body hp
  · -- A second reply changes nothing, and what is told of it is no entry.
    rw [if_neg hp]
    exact ⟨keeps_refl x, (List.append_nil _).symm, rfl⟩

theorem books_release (c : Conditions) (x : Exchange) :
    Books x (x.release c).1 (x.release c).2 := by
  unfold release
  by_cases hp : x.isPending = true
  · rw [if_pos hp]
    have hsent := books_send c .internalError fallbackBody hp
    exact ⟨⟨hsent.keeps.head, hsent.keeps.waiter, hsent.keeps.alive⟩, hsent.entry, hsent.gauges⟩
  · rw [if_neg hp]
    exact ⟨⟨rfl, rfl, id⟩, (List.append_nil _).symm, rfl⟩

theorem books_perform (c : Conditions) (subpath : String) (action : Action) (x : Exchange) :
    Books x (x.perform c subpath action).exchange (x.perform c subpath action).told := by
  cases action with
  | reply status body => exact books_writeReply c status body x
  | echo status =>
      -- The body is drained first, which is no part of the books.
      have hwrite := books_writeReply c status ((x.echoed subpath).toUTF8 ++ x.body)
        (x.readBody true).1
      exact ⟨⟨hwrite.keeps.head, hwrite.keeps.waiter, hwrite.keeps.alive⟩, hwrite.entry,
        hwrite.gauges⟩
  | _ => exact ⟨⟨rfl, rfl, id⟩, (List.append_nil _).symm, rfl⟩

theorem books_performAll (c : Conditions) (subpath : String) (handler : Handler) :
    ∀ x : Exchange, Books x (x.performAll c subpath handler).exchange
      (x.performAll c subpath handler).told := by
  induction handler with
  | nil => exact books_refl
  | cons action rest ih =>
      intro x
      have hfirst := books_perform c subpath action x
      rw [performAll]
      cases hfault : (x.perform c subpath action).fault with
      | some fault => exact hfirst
      | none => exact books_trans hfirst (ih _)

/-- Serving a request counts its one entry, whichever action makes it. -/
theorem books_serve (c : Conditions) (subpath : String) (handler : Handler) (x : Exchange) :
    Books x (x.serve c subpath handler).exchange (x.serve c subpath handler).told :=
  books_trans (books_performAll c subpath handler x) (books_release c _)

end Exchange

end ControlPlane
