import ControlPlane.Handler
import ControlPlane.Proofs.Exchange.Figures

/-!
# The Right to Reply

The trigger of an exchange is the right to reply to it. Everything that the
serving side can do with an exchange either leaves that right as it was and
tells of no reply, or uses it up with one reply and tells of exactly one
(`Spends`). There is no third case: a second reply is refused before it is
built, and a request that is given up unanswered is answered by that.

So replies can be counted on either side, at the triggers or in what is told,
and the counts agree. A client that leaves takes no part in this: it changes the
other end.

What was sent is the reply built from the exchange as it was before the
operation, and the cases of `Spends` carry this fact along.

## Main definitions

* `Telemetry.replies`: How many replies were told of.
* `Action.reply?`: What an action replies.
* `Exchange.Spends`: What an operation does to the right to reply.
* `Exchange.Accounted`: Without a reply, somebody still holds the request.
* `Exchange.Built`: A reply that was built under given conditions.

## Theorems

* `spends_trans`: Operations one after the other.
* `spends_writeReply`, `spends_release`, `spends_perform`, `spends_serve`: The
  operations of the serving side spend the right to reply at most once.
* `accounted_of_spends`: An exchange that stays held stays accounted for.
* `accounted_release`, `accounted_serve`: So does one that is given up or served.
-/

namespace ControlPlane

open Telemetry (Observation)

namespace Telemetry

/-- A reply was written. -/
def isReply : Observation → Bool
  | .count (.requests _ _) => true
  | _ => false

/-- How many replies were told of. -/
def replies (told : List Observation) : Nat :=
  told.countP isReply

@[simp] theorem replies_nil : replies [] = 0 := rfl

@[simp] theorem replies_append (first others : List Observation) :
    replies (first ++ others) = replies first + replies others :=
  List.countP_append

@[simp] theorem replies_cons (o : Observation) (others : List Observation) :
    replies (o :: others) = replies others + (isReply o).toNat := by
  unfold replies
  rw [List.countP_cons]
  cases isReply o <;> rfl

@[simp] theorem isReply_unhandled : isReply (.count .unhandled) = false := rfl

@[simp] theorem isReply_log (level : Level) (source : Source) (message : String)
    (fields : List (String × String)) : isReply (log level source message fields) = false := rfl

/-- Replies are told of by figures only. -/
theorem replies_figures (told : List Observation) : replies (figures told) = replies told := by
  rw [replies, figures, List.countP_filter, replies]
  congr
  funext o
  cases o with
  | event e => rfl
  | count c => exact Bool.and_true _
  | set g value => rfl

end Telemetry

open Telemetry (replies)

/-- The status and the body that an action replies with, if it replies. -/
def Action.reply? (subpath : String) (x : Exchange) : Action → Option (Http.Status × ByteArray)
  | .reply status body => some (status, body)
  | .echo status => some (status, (x.echoed subpath).toUTF8 ++ x.body)
  | _ => none

namespace Exchange

variable {P Q : Reply → Prop} {x x' : Exchange} {told : List Observation}

/-- What an operation does to the right to reply: nothing, or it uses it up with
    a reply of the given kind. -/
inductive Spends (P : Reply → Prop) (x x' : Exchange) (told : List Observation) : Prop
  | kept (same : x'.slot.trigger = x.slot.trigger) (silent : replies told = 0)
  | spent (reply : Reply) (ready : x.slot.trigger = .ready)
      (fired : x'.slot.trigger = .fired reply) (may : P reply) (once : replies told = 1)

/-- As long as there is no reply, there may still be one, and somebody holds the
    request. -/
def Accounted (x : Exchange) : Prop :=
  x.slot.sent? = none → x.slot.isReady = true ∧ x.held = true

theorem spends_mono (h : Spends P x x' told) (hPQ : ∀ reply, P reply → Q reply) :
    Spends Q x x' told := by
  cases h with
  | kept same silent => exact .kept same silent
  | spent reply ready fired may once => exact .spent reply ready fired (hPQ reply may) once

/-- What two operations do one after the other. A right that is used up is not used again. -/
theorem spends_trans {x'' : Exchange} {told' : List Observation} (h : Spends P x x' told)
    (h' : Spends P x' x'' told') : Spends P x x'' (told ++ told') := by
  cases h with
  | kept same silent =>
      cases h' with
      | kept same' silent' =>
          refine .kept (same'.trans same) ?_
          rw [Telemetry.replies_append, silent, silent']
      | spent reply ready fired may once =>
          refine .spent reply (same ▸ ready) fired may ?_
          rw [Telemetry.replies_append, silent, once]
  | spent reply ready fired may once =>
      cases h' with
      | kept same' silent' =>
          refine .spent reply ready (same'.trans fired) may ?_
          rw [Telemetry.replies_append, once, silent']
      | spent other ready' fired' may' once' =>
          rw [fired] at ready'
          cases ready'

theorem isPending_iff (x : Exchange) : x.isPending = true ↔ x.slot.trigger = .ready := by
  simp only [isPending, ReplySlot.isReady, decide_eq_true_eq]

/-- Sending tells of one reply, whether it reaches the other side or not and
    whether it is dumped or not. -/
theorem replies_send (c : Conditions) (status : Http.Status) (body : ByteArray) (x : Exchange) :
    replies (x.send c status body).2 = 1 := by
  rw [← Telemetry.replies_figures, figures_send]
  rfl

theorem spends_writeReply (c : Conditions) (status : Http.Status) (body : ByteArray)
    (x : Exchange) :
    Spends (· = x.replyWith c status body) x (x.writeReply c status body).exchange
      (x.writeReply c status body).told := by
  unfold writeReply
  by_cases hp : x.isPending = true
  · rw [if_pos hp]
    exact .spent _ ((isPending_iff x).mp hp) rfl rfl (replies_send c status body x)
  · rw [if_neg hp]
    exact .kept rfl rfl

/-- Giving up answers a pending request with the fallback reply. -/
theorem spends_release (c : Conditions) (x : Exchange) :
    Spends (· = x.replyWith c .internalError fallbackBody) x (x.release c).1 (x.release c).2 := by
  unfold release
  by_cases hp : x.isPending = true
  · rw [if_pos hp]
    refine .spent _ ((isPending_iff x).mp hp) rfl rfl ?_
    simp only [Telemetry.replies_cons, Telemetry.isReply_log, Telemetry.isReply_unhandled,
      replies_send]
    rfl
  · rw [if_neg hp]
    exact .kept rfl rfl

theorem not_isPending_writeReply (c : Conditions) (status : Http.Status) (body : ByteArray)
    (x : Exchange) : ¬ (x.writeReply c status body).exchange.isPending = true := by
  unfold writeReply
  by_cases hp : x.isPending = true
  · rw [if_pos hp]
    intro hready
    exact absurd ((isPending_iff _).mp hready) (by simp only [send, ReplySlot.fire, reduceCtorEq,
      not_false_eq_true])
  · rw [if_neg hp]
    exact hp

/-- Giving up a request that was replied to tells of no reply. -/
theorem spends_release_of_not_pending (c : Conditions) (x : Exchange) (hp : ¬ x.isPending = true) :
    Spends P x (x.release c).1 (x.release c).2 := by
  unfold release
  rw [if_neg hp]
  exact .kept rfl rfl

/-- One action of a handler replies at most once, and with what the action says. -/
theorem spends_perform (c : Conditions) (subpath : String) (action : Action) (x : Exchange) :
    Spends (fun reply => ∃ status body, action.reply? subpath x = some (status, body) ∧
        reply = x.replyWith c status body)
      x (x.perform c subpath action).exchange (x.perform c subpath action).told := by
  cases action with
  | header name value => exact .kept rfl rfl
  | copyHeader name => exact .kept rfl rfl
  | drain => exact .kept rfl rfl
  | reply status body =>
      exact spends_mono (spends_writeReply c status body x)
        fun reply hreply => ⟨status, body, rfl, hreply⟩
  | echo status =>
      -- Draining the body first changes neither the trigger nor the written fields.
      have hw := spends_writeReply c status ((x.echoed subpath).toUTF8 ++ x.body) (x.readBody true).1
      cases hw with
      | kept same silent => exact .kept same silent
      | spent reply ready fired may once => exact .spent reply ready fired ⟨status, _, rfl, may⟩ once
  | gate => exact .kept rfl rfl
  | fail fault => exact .kept rfl rfl

theorem held_writeReply (c : Conditions) (status : Http.Status) (body : ByteArray) (x : Exchange) :
    (x.writeReply c status body).exchange.held = x.held := by
  unfold writeReply
  by_cases hp : x.isPending = true
  · rw [if_pos hp]
    rfl
  · rw [if_neg hp]

theorem held_release (c : Conditions) (x : Exchange) : (x.release c).1.held = false := by
  unfold release
  by_cases hp : x.isPending = true
  · rw [if_pos hp]
  · rw [if_neg hp]

theorem held_perform (c : Conditions) (subpath : String) (action : Action) (x : Exchange) :
    (x.perform c subpath action).exchange.held = x.held := by
  cases action with
  | reply status body => exact held_writeReply c status body x
  | echo status => exact held_writeReply c status _ (x.readBody true).1
  | header name value => rfl
  | copyHeader name => rfl
  | drain => rfl
  | gate => rfl
  | fail fault => rfl

theorem sent?_of_fired {reply : Reply} (h : x.slot.trigger = .fired reply) :
    x.slot.sent? = some reply := by
  simp only [ReplySlot.sent?, h]

/-- A reply that was sent is what the trigger was fired with. -/
theorem fired_of_sent? {reply : Reply} (h : x.slot.sent? = some reply) :
    x.slot.trigger = .fired reply := by
  cases ht : x.slot.trigger with
  | ready => simp only [ReplySlot.sent?, ht, reduceCtorEq] at h
  | fired other =>
      simp only [ReplySlot.sent?, ht, Option.some.injEq] at h
      rw [h]
  | dropped => simp only [ReplySlot.sent?, ht, reduceCtorEq] at h

theorem sent?_congr (h : x'.slot.trigger = x.slot.trigger) : x'.slot.sent? = x.slot.sent? := by
  simp only [ReplySlot.sent?, h]

theorem isReady_congr (h : x'.slot.trigger = x.slot.trigger) : x'.slot.isReady = x.slot.isReady := by
  simp only [ReplySlot.isReady, h]

theorem sent?_of_spends {reply : Reply} (h : Spends P x x' told) (hr : x.slot.sent? = some reply) :
    x'.slot.sent? = some reply := by
  cases h with
  | kept same silent =>
      rw [sent?_congr same]
      exact hr
  | spent other ready fired may once =>
      have hclash := (fired_of_sent? hr).symm.trans ready
      exact absurd hclash (by simp only [reduceCtorEq, not_false_eq_true])

theorem may_of_spends {reply : Reply} (h : Spends P x x' told) (hnone : x.slot.sent? = none)
    (hr : x'.slot.sent? = some reply) : P reply := by
  cases h with
  | kept same silent =>
      rw [sent?_congr same, hnone] at hr
      exact absurd hr.symm (Option.some_ne_none reply)
  | spent other ready fired may once =>
      rw [sent?_of_fired fired, Option.some.injEq] at hr
      rw [← hr]
      exact may

/-- An exchange stays accounted for as long as it stays held. -/
theorem accounted_of_spends (h : Spends P x x' told) (held : x'.held = x.held)
    (hx : x.Accounted) : x'.Accounted := by
  intro hnone
  cases h with
  | kept same silent =>
      rw [sent?_congr same] at hnone
      rw [isReady_congr same, held]
      exact hx hnone
  | spent reply ready fired may once =>
      rw [sent?_of_fired fired] at hnone
      exact absurd hnone (Option.some_ne_none reply)

/-- An exchange that was accounted for has a reply once it is given up. -/
theorem accounted_release (c : Conditions) (hx : x.Accounted) : (x.release c).1.Accounted := by
  intro hnone
  cases spends_release c x with
  | kept same silent =>
      -- Without a reply it was pending, and then giving up would have answered it.
      rw [sent?_congr same] at hnone
      have hp : x.isPending = true := (hx hnone).1
      have hready := (isPending_iff x).mp hp
      simp only [release, if_pos hp, send, ReplySlot.fire, hready, reduceCtorEq] at same
  | spent reply ready fired may once =>
      rw [sent?_of_fired fired] at hnone
      exact absurd hnone (Option.some_ne_none reply)

/-! ### Whole handlers -/

/-- The reply is built under these conditions, whoever writes it and whenever. -/
def Built (c : Conditions) (reply : Reply) : Prop :=
  ∃ (x : Exchange) (status : Http.Status) (body : ByteArray), reply = x.replyWith c status body

theorem spends_performAll (c : Conditions) (subpath : String) (handler : Handler) :
    ∀ x : Exchange, Spends (Built c) x (x.performAll c subpath handler).exchange
      (x.performAll c subpath handler).told := by
  induction handler with
  | nil => exact fun x => .kept rfl rfl
  | cons action rest ih =>
      intro x
      have hfirst : Spends (Built c) x (x.perform c subpath action).exchange
          (x.perform c subpath action).told := by
        refine spends_mono (spends_perform c subpath action x) ?_
        rintro reply ⟨status, body, _, hreply⟩
        exact ⟨x, status, body, hreply⟩
      rw [performAll]
      cases hfault : (x.perform c subpath action).fault with
      | some fault => exact hfirst
      | none => exact spends_trans hfirst (ih _)

/-- Serving replies once at most, whatever the handler comes to. -/
theorem spends_serve (c : Conditions) (subpath : String) (handler : Handler) (x : Exchange) :
    Spends (Built c) x (x.serve c subpath handler).exchange (x.serve c subpath handler).told :=
  spends_trans (spends_performAll c subpath handler x)
    (spends_mono (spends_release c _) fun _ hreply => ⟨_, _, _, hreply⟩)

theorem held_performAll (c : Conditions) (subpath : String) (handler : Handler) :
    ∀ x : Exchange, (x.performAll c subpath handler).exchange.held = x.held := by
  induction handler with
  | nil => exact fun x => rfl
  | cons action rest ih =>
      intro x
      have hfirst := held_perform c subpath action x
      rw [performAll]
      cases hfault : (x.perform c subpath action).fault with
      | some fault => exact hfirst
      | none => exact (ih _).trans hfirst

/-- An exchange that was accounted for has a reply once it is served. -/
theorem accounted_serve (c : Conditions) (subpath : String) (handler : Handler)
    (hx : x.Accounted) : (x.serve c subpath handler).exchange.Accounted :=
  accounted_release c (accounted_of_spends (spends_performAll c subpath handler x)
    (held_performAll c subpath handler x) hx)

end Exchange

end ControlPlane
