import ControlPlane.Http.Field
import ControlPlane.Http.Status

/-!
# Replies and Their Delivery

A reply is written by whoever serves a request and read by the connection that
brought it. The two meet in a slot with two ends. The *trigger* end holds the
right to reply and is used up by replying; the *waiting* end takes the reply,
once, either by looking whether it is there or by waiting for it.

The two ends move on their own, so each has its own state, and the slot is the
pair. The reply that was sent stays part of the trigger's state: whether it is
still to be collected is the waiting end's.

A waiting end that looks after the trigger was given up without a reply learns
that no reply will come. The look answers like any other look without a reply,
but waiting afterwards is an error.

## Main definitions

* `Reply`: Status, header fields and body.
* `Trigger`, `Waiter`: The states of the two ends.
* `ReplySlot`: The two ends of one request.
* `ReplySlot.fire`, `ReplySlot.giveUp`: What the trigger end does.
* `ReplySlot.look`, `ReplySlot.wait`, `ReplySlot.leave`: What the waiting end does.
* `ReplySlot.apply`: Any of these by whichever end still exists.
-/

namespace ControlPlane

/-- Bodies are compared octet by octet. This way of doing so comes before any other,
    so that all modules compare bodies in the same way. -/
instance (priority := 2000) instDecidableEqBody : DecidableEq ByteArray :=
  ByteArray.decEq

/-- An answer to a request. -/
structure Reply where
  status : Http.Status
  headers : List Http.Field
  body : ByteArray
  deriving DecidableEq

/-- The reply of a request that nobody can answer any more. -/
def Reply.bare : Reply :=
  ⟨.internalError, [], ByteArray.empty⟩

/-- The end that replies. -/
inductive Trigger where
  /-- No reply was sent yet. -/
  | ready
  /-- The reply was sent. -/
  | fired (reply : Reply)
  /-- The end was given up without a reply. -/
  | dropped
  deriving DecidableEq

/-- The end that waits. -/
inductive Waiter where
  /-- Nothing was learned yet. -/
  | listening
  /-- A look has found the reply. -/
  | collected
  /-- A look has found that no reply will come. -/
  | disappointed
  /-- The end is gone. -/
  | gone
  deriving DecidableEq

/-- The two ends through which one request is answered. -/
structure ReplySlot where
  trigger : Trigger := .ready
  waiter : Waiter := .listening
  deriving DecidableEq

namespace ReplySlot

/-- The right to reply was not used yet. -/
def isReady (s : ReplySlot) : Bool :=
  s.trigger = .ready

/-- The reply that was sent, if one was. -/
def sent? (s : ReplySlot) : Option Reply :=
  match s.trigger with
  | .fired reply => some reply
  | _ => none

/-- Sends the reply. It reaches the other end unless that is gone. -/
def fire (reply : Reply) (s : ReplySlot) : ReplySlot × Bool :=
  ({ s with trigger := .fired reply }, s.waiter ≠ .gone)

/-- Gives up the right to reply. -/
def giveUp (s : ReplySlot) : ReplySlot :=
  { s with trigger := .dropped }

/-- Looks whether the reply is there, and takes it if so. -/
def look (s : ReplySlot) : ReplySlot × Option Reply :=
  match s.waiter, s.trigger with
  | .listening, .fired reply => ({ s with waiter := .collected }, some reply)
  | .listening, .dropped => ({ s with waiter := .disappointed }, none)
  | _, _ => (s, none)

/-- The other end leaves. A reply that was not collected is lost with it. -/
def leave (s : ReplySlot) : ReplySlot :=
  { s with waiter := .gone }

/-- What waiting comes to. -/
inductive Waited where
  /-- The wait is over. -/
  | reply (reply : Reply)
  /-- The reply may still come. -/
  | blocked
  /-- The end waits although it has learned that nothing will come. -/
  | misused
  deriving DecidableEq

/-- How misuse of the waiting end is told. -/
def misuseText : String := "called after complete"

/-- Waits for the reply. A trigger that was given up, and a reply that was
    collected before, count as a failure of the server. -/
def wait (s : ReplySlot) : Waited :=
  match s.waiter, s.trigger with
  | .listening, .fired reply => .reply reply
  | .listening, .dropped => .reply .bare
  | .listening, .ready => .blocked
  | .disappointed, _ => .misused
  | .collected, _ => .reply .bare
  | .gone, _ => .reply .bare

/-- What either end may be asked to do. -/
inductive Operation where
  | fire (reply : Reply)
  | giveUp
  | look
  | wait
  | leave

/-- What an operation answers. -/
inductive Answer where
  /-- The reply was sent. -/
  | fired
  /-- The reply came back, since nobody waits for it. -/
  | returned (reply : Reply)
  /-- The end was there to be dropped, or not. -/
  | dropped (wasThere : Bool)
  | looked (reply : Option Reply)
  | waited (outcome : Waited)
  /-- The end that the operation needs does not exist any more. -/
  | gone

/-- Performs an operation if the end that it needs still exists. Waiting uses up
    the waiting end, whatever comes of it. -/
def apply (s : ReplySlot) : Operation → ReplySlot × Answer
  | .fire reply =>
    if s.isReady then
      let (s', reached) := s.fire reply
      (s', if reached then .fired else .returned reply)
    else (s, .gone)
  | .giveUp => if s.isReady then (s.giveUp, .dropped true) else (s, .dropped false)
  | .leave => if s.waiter = .gone then (s, .dropped false) else (s.leave, .dropped true)
  | .look =>
    if s.waiter = .gone then (s, .gone)
    else
      let (s', reply) := s.look
      (s', .looked reply)
  | .wait => if s.waiter = .gone then (s, .gone) else (s.leave, .waited s.wait)

end ReplySlot

end ControlPlane
