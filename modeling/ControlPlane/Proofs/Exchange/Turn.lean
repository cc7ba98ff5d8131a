import ControlPlane.Proofs.Exchange.Spending
import ControlPlane.Proofs.Reply.Waiting

/-!
# Turns of a Session

What an operation on one exchange can do, said once. An operation belongs to the
serving side, to the waiting side or to the server around both, and it does nothing
when its side is gone. `Turn` lists the ways in which the others come out, each with
the state afterwards, the answer and what is told. What holds along a session is
then a case analysis on turns, in which no operation is unfolded any more.

Three turns concern the right to reply while it is there or once it is gone. Writing
a reply and giving up a pending request use it up, and each counts one reply under
the method of the request. Writing a reply afterwards is a fault, and changes
nothing.

## Main definitions

* `Exchange.Operation.side`: Who does an operation.
* `Exchange.Operation.Plain`: An operation that is no concern of the reply.
* `Exchange.Operation.reply?`: What an operation replies with if it may.
* `Exchange.Answer.reply?`: The reply that a look has found.
* `Session.Turn`: What an operation does.

## Theorems

* `counters_send`: Sending a reply counts it and nothing else.
* `turn_apply`: Every operation takes one of the turns.
* `head_of_turn`, `closing_of_turn`, `held_of_turn`: What a turn does to the parts
  that do not depend on replies.
* `pending_of_turn`: A turn that replies nothing leaves the request pending.
* `built_of_turn`: The turn that replies.
* `kept_of_turn`: A reply that was sent stays, and nothing is counted any more.
* `alive_of_turn`: Nobody throws the right to reply away.
* `found_of_turn`, `waiter_of_turn`, `listening_of_turn`: What a turn does to the
  waiting side.
-/

namespace ControlPlane

open Telemetry (Observation counters)

theorem Telemetry.counters_append (first others : List Observation) :
    counters (first ++ others) = counters first ++ counters others :=
  List.filterMap_append

namespace Exchange

/-- Who does something to an exchange. -/
inductive Side where
  | serving
  | waiting
  /-- The server around both sides. -/
  | server
  deriving DecidableEq

namespace Operation

/-- Who does an operation. -/
def side : Operation → Side
  | .close => .server
  | .look | .wait | .leave => .waiting
  | _ => .serving

/-- The status and the body that an operation replies with if the request is
    pending. Giving a request up replies too. -/
def reply? : Operation → Option (Http.Status × ByteArray)
  | .writeReply status body => some (status, body)
  | .release => some (.internalError, fallbackBody)
  | _ => none

/-- The header fields that an operation adds to the reply to be written. -/
def fields : Operation → List Http.Field
  | .writeHeader name value => [(name, value)]
  | _ => []

/-- The operation begins the shutdown. -/
def closes : Operation → Bool
  | .close => true
  | _ => false

/-- The operation gives the request up. -/
def releases : Operation → Bool
  | .release => true
  | _ => false

/-- The operation ends the waiting side. -/
def departs : Operation → Bool
  | .wait | .leave => true
  | _ => false

/-- The operation asks about the exchange and leaves it as it is. -/
def asks : Operation → Bool
  | .header _ | .inputHeaders | .outputHeaders | .isPending | .describe => true
  | _ => false

/-- What an operation that is no concern of the reply leaves alone. -/
structure Plain (op : Operation) : Prop where
  closes : op.closes = false
  releases : op.releases = false
  fields : op.fields = []
  reply? : op.reply? = none

variable {op : Operation}

theorem plain_of_waiting (h : op.side = .waiting) : op.Plain := by
  cases op with
  | look => exact ⟨rfl, rfl, rfl, rfl⟩
  | wait => exact ⟨rfl, rfl, rfl, rfl⟩
  | leave => exact ⟨rfl, rfl, rfl, rfl⟩
  | _ => exact absurd h nofun

theorem plain_of_asks (h : op.asks = true) : op.Plain := by
  cases op with
  | header name => exact ⟨rfl, rfl, rfl, rfl⟩
  | inputHeaders => exact ⟨rfl, rfl, rfl, rfl⟩
  | outputHeaders => exact ⟨rfl, rfl, rfl, rfl⟩
  | isPending => exact ⟨rfl, rfl, rfl, rfl⟩
  | describe => exact ⟨rfl, rfl, rfl, rfl⟩
  | _ => exact absurd h nofun

theorem waiting_of_departs (h : op.departs = true) : op.side = .waiting := by
  cases op with
  | wait => rfl
  | leave => rfl
  | _ => exact absurd h nofun

theorem serving_of_asks (h : op.asks = true) : op.side = .serving := by
  cases op with
  | header name => rfl
  | inputHeaders => rfl
  | outputHeaders => rfl
  | isPending => rfl
  | describe => rfl
  | _ => exact absurd h nofun

theorem closes_of_serving (h : op.side = .serving) : op.closes = false := by
  cases op with
  | close => exact absurd h nofun
  | _ => rfl

theorem departs_of_serving (h : op.side = .serving) : op.departs = false := by
  cases op with
  | wait => exact absurd h nofun
  | leave => exact absurd h nofun
  | _ => rfl

end Operation

/-- The reply that a look has found. -/
def Answer.reply? : Answer → Option Reply
  | .looked reply => reply
  | _ => none

/-- Sending a reply counts it and nothing else, whether it reaches the other side or
    not and whether it is dumped or not. -/
theorem counters_send (c : Conditions) (status : Http.Status) (body : ByteArray) (x : Exchange) :
    counters (x.send c status body).2 = [.requests x.head.method status] := by
  rw [← Telemetry.counters_figures, figures_send]
  rfl

end Exchange

namespace Session

open Exchange (Operation Answer)

variable {s s' : Session} {op : Operation} {answer : Answer} {told : List Observation}

/-- The session with another state of the exchange. -/
def withExchange (s : Session) (x : Exchange) : Session :=
  { s with exchange := x }

/-- What an operation does. -/
inductive Turn (s : Session) : Operation → Session → Answer → List Observation → Prop
  /-- The request was given up, and its serving side is gone. -/
  | unheld (op : Operation) (side : op.side = .serving) (free : s.exchange.held = false) :
      Turn s op s .gone []
  /-- The waiting side is gone. -/
  | deserted (op : Operation) (side : op.side = .waiting) (left : s.exchange.slot.waiter = .gone) :
      Turn s op s .gone []
  | close :
      Turn s .close { s with conditions := { s.conditions with closing := true } } .closing
        (if s.conditions.closing then [] else [closingEvent])
  | look (there : s.exchange.slot.waiter ≠ .gone) :
      Turn s .look (s.withExchange { s.exchange with slot := s.exchange.slot.look.1 })
        (.looked s.exchange.slot.look.2) []
  | depart (op : Operation) (answer : Answer) (last : op.departs = true)
      (empty : answer.reply? = none) :
      Turn s op (s.withExchange { s.exchange with slot := s.exchange.slot.leave }) answer []
  | ask (op : Operation) (answer : Answer) (harmless : op.asks = true)
      (empty : answer.reply? = none) : Turn s op s answer []
  | readBody (drain : Bool) :
      Turn s (.readBody drain) (s.withExchange (s.exchange.readBody drain).1)
        (.body s.exchange.body) []
  | writeHeader (name value : String) :
      Turn s (.writeHeader name value) (s.withExchange (s.exchange.writeHeader name value)) .done []
  | reply (status : Http.Status) (body : ByteArray) (held : s.exchange.held = true)
      (ready : s.exchange.slot.trigger = .ready) :
      Turn s (.writeReply status body)
        (s.withExchange (s.exchange.send s.conditions status body).1) .done
        (s.exchange.send s.conditions status body).2
  /-- The request was replied to before. -/
  | again (status : Http.Status) (body : ByteArray) (used : s.exchange.slot.trigger ≠ .ready) :
      Turn s (.writeReply status body) s (.fault (.doubleReply s.exchange.head.target))
        [Telemetry.log .error .request "Reply already sent for request" s.exchange.identity]
  /-- Giving a pending request up replies first. -/
  | release (held : s.exchange.held = true) (ready : s.exchange.slot.trigger = .ready) :
      Turn s .release
        (s.withExchange { (s.exchange.send s.conditions .internalError
          Exchange.fallbackBody).1 with held := false })
        .done
        (Telemetry.log .warn .request "Unhandled request" s.exchange.identity ::
          .count .unhandled :: (s.exchange.send s.conditions .internalError
            Exchange.fallbackBody).2)
  | forget (used : s.exchange.slot.trigger ≠ .ready) :
      Turn s .release (s.withExchange { s.exchange with held := false }) .done []

/-! ### Every operation takes a turn -/

theorem onHeld_of_held (held : s.exchange.held = true)
    (act : Exchange → Exchange × Answer × List Observation) :
    s.onHeld act = (s.withExchange (act s.exchange).1, (act s.exchange).2.1,
      (act s.exchange).2.2) := by
  simp only [onHeld, held, if_true]
  rfl

theorem onWaiting_of_there (there : s.exchange.slot.waiter ≠ .gone)
    (act : ReplySlot → ReplySlot × Answer) :
    s.onWaiting act = (s.withExchange { s.exchange with slot := (act s.exchange.slot).1 },
      (act s.exchange.slot).2, []) := by
  simp only [onWaiting, if_neg there]
  rfl

/-- The serving side of a request that was given up does nothing. -/
theorem apply_unheld (side : op.side = .serving) (free : s.exchange.held = false) :
    s.apply op = (s, .gone, []) := by
  have hnot : ¬ s.exchange.held = true := by
    rw [free]
    exact Bool.false_ne_true
  cases op with
  | close => exact absurd side (by decide)
  | look => exact absurd side (by decide)
  | wait => exact absurd side (by decide)
  | leave => exact absurd side (by decide)
  | _ => simp only [apply, onHeld, if_neg hnot]

/-- A waiting side that has left does nothing. -/
theorem apply_deserted (side : op.side = .waiting) (left : s.exchange.slot.waiter = .gone) :
    s.apply op = (s, .gone, []) := by
  cases op with
  | look => simp only [apply, onWaiting, if_pos left]
  | wait => simp only [apply, onWaiting, if_pos left]
  | leave => simp only [apply, onWaiting, if_pos left]
  | _ => exact absurd side (by simp only [Operation.side, reduceCtorEq, not_false_eq_true])

theorem turn_waiting (there : s.exchange.slot.waiter ≠ .gone) (side : op.side = .waiting) :
    Turn s op (s.apply op).1 (s.apply op).2.1 (s.apply op).2.2 := by
  cases op with
  | look =>
      simp only [apply, onWaiting_of_there there]
      exact .look there
  | wait =>
      simp only [apply, onWaiting_of_there there]
      exact .depart .wait _ rfl rfl
  | leave =>
      simp only [apply, onWaiting_of_there there]
      exact .depart .leave .done rfl rfl
  | _ => exact absurd side (by simp only [Operation.side, reduceCtorEq, not_false_eq_true])

/-- The serving side of a request that it holds. Whether the request is pending
    matters for two operations only. -/
theorem turn_serving (held : s.exchange.held = true) (side : op.side = .serving) :
    Turn s op (s.apply op).1 (s.apply op).2.1 (s.apply op).2.2 := by
  cases op with
  | close => exact absurd side (by decide)
  | look => exact absurd side (by decide)
  | wait => exact absurd side (by decide)
  | leave => exact absurd side (by decide)
  | readBody drain =>
      simp only [apply, onHeld_of_held held]
      exact .readBody drain
  | writeHeader name value =>
      simp only [apply, onHeld_of_held held]
      exact .writeHeader name value
  | writeReply status body =>
      simp only [apply, onHeld_of_held held]
      unfold Exchange.writeReply
      by_cases hp : s.exchange.isPending = true
      · simp only [if_pos hp]
        exact .reply status body held ((Exchange.isPending_iff s.exchange).mp hp)
      · simp only [if_neg hp]
        exact .again status body fun ready => hp ((Exchange.isPending_iff s.exchange).mpr ready)
  | release =>
      simp only [apply, onHeld_of_held held]
      unfold Exchange.release
      by_cases hp : s.exchange.isPending = true
      · simp only [if_pos hp]
        exact .release held ((Exchange.isPending_iff s.exchange).mp hp)
      · simp only [if_neg hp]
        exact .forget fun ready => hp ((Exchange.isPending_iff s.exchange).mpr ready)
  | header name =>
      simp only [apply, onHeld_of_held held]
      exact .ask (.header name) _ rfl rfl
  | inputHeaders =>
      simp only [apply, onHeld_of_held held]
      exact .ask .inputHeaders _ rfl rfl
  | outputHeaders =>
      simp only [apply, onHeld_of_held held]
      exact .ask .outputHeaders _ rfl rfl
  | isPending =>
      simp only [apply, onHeld_of_held held]
      exact .ask .isPending _ rfl rfl
  | describe =>
      simp only [apply, onHeld_of_held held]
      exact .ask .describe _ rfl rfl

/-- Every operation takes one of the turns. -/
theorem turn_apply (s : Session) (op : Operation) :
    Turn s op (s.apply op).1 (s.apply op).2.1 (s.apply op).2.2 := by
  cases hside : op.side with
  | server =>
      cases op with
      | close => exact .close
      | _ => exact absurd hside (by simp only [Operation.side, reduceCtorEq, not_false_eq_true])
  | waiting =>
      by_cases hleft : s.exchange.slot.waiter = .gone
      · rw [apply_deserted hside hleft]
        exact .deserted op hside hleft
      · exact turn_waiting hleft hside
  | serving =>
      cases hheld : s.exchange.held with
      | false =>
          rw [apply_unheld hside hheld]
          exact .unheld op hside hheld
      | true => exact turn_serving hheld hside

/-! ### What turns change -/

theorem head_of_turn (h : Turn s op s' answer told) : s'.exchange.head = s.exchange.head := by
  cases h with
  | readBody drain => cases drain <;> rfl
  | _ => rfl

theorem closing_of_turn (h : Turn s op s' answer told) :
    s'.conditions.closing = (s.conditions.closing || op.closes) := by
  cases h with
  | unheld op side free =>
      rw [Operation.closes_of_serving side]
      exact (Bool.or_false _).symm
  | deserted op side left =>
      rw [(Operation.plain_of_waiting side).closes]
      exact (Bool.or_false _).symm
  | depart op answer last empty =>
      rw [(Operation.plain_of_waiting (Operation.waiting_of_departs last)).closes]
      exact (Bool.or_false _).symm
  | ask op answer harmless empty =>
      rw [(Operation.plain_of_asks harmless).closes]
      exact (Bool.or_false _).symm
  | close => exact (Bool.or_true _).symm
  | _ => exact (Bool.or_false _).symm

theorem held_of_turn (h : Turn s op s' answer told) :
    s'.exchange.held = (s.exchange.held && !op.releases) := by
  cases h with
  | unheld op side free =>
      rw [free]
      rfl
  | deserted op side left =>
      rw [(Operation.plain_of_waiting side).releases]
      exact (Bool.and_true _).symm
  | depart op answer last empty =>
      rw [(Operation.plain_of_waiting (Operation.waiting_of_departs last)).releases]
      exact (Bool.and_true _).symm
  | ask op answer harmless empty =>
      rw [(Operation.plain_of_asks harmless).releases]
      exact (Bool.and_true _).symm
  | readBody drain =>
      cases drain
      · exact (Bool.and_true _).symm
      · exact (Bool.and_true _).symm
  | release held ready => exact (Bool.and_false _).symm
  | forget used => exact (Bool.and_false _).symm
  | _ => exact (Bool.and_true _).symm

/-- A turn that replies nothing leaves the request pending and adds its fields. -/
theorem pending_of_turn (h : Turn s op s' answer told) (held : s.exchange.held = true)
    (ready : s.exchange.slot.trigger = .ready) (silent : op.reply? = none) :
    s'.exchange.slot.trigger = .ready ∧ s'.exchange.outgoing = s.exchange.outgoing ++ op.fields ∧
      counters told = [] := by
  cases h with
  | unheld op side free =>
      rw [free] at held
      exact absurd held Bool.false_ne_true
  | deserted op side left =>
      -- The waiting side writes no fields, whether it is still there or not.
      rw [(Operation.plain_of_waiting side).fields, List.append_nil]
      exact ⟨ready, rfl, rfl⟩
  | close =>
      refine ⟨ready, (List.append_nil _).symm, ?_⟩
      cases s.conditions.closing <;> rfl
  | look there =>
      refine ⟨?_, (List.append_nil _).symm, rfl⟩
      exact (ReplySlot.trigger_look s.exchange.slot).trans ready
  | depart op answer last empty =>
      rw [(Operation.plain_of_waiting (Operation.waiting_of_departs last)).fields, List.append_nil]
      exact ⟨ready, rfl, rfl⟩
  | ask op answer harmless empty =>
      rw [(Operation.plain_of_asks harmless).fields, List.append_nil]
      exact ⟨ready, rfl, rfl⟩
  | readBody drain =>
      cases drain
      · exact ⟨ready, (List.append_nil _).symm, rfl⟩
      · exact ⟨ready, (List.append_nil _).symm, rfl⟩
  | writeHeader name value => exact ⟨ready, rfl, rfl⟩
  | reply status body held ready => exact absurd silent nofun
  | again status body used => exact absurd ready used
  | release held ready => exact absurd silent nofun
  | forget used => exact absurd ready used

/-- A turn that replies builds the reply from what was written so far and counts it.
    A request that is given up for that is counted as unhandled too. -/
theorem built_of_turn (h : Turn s op s' answer told) (held : s.exchange.held = true)
    (ready : s.exchange.slot.trigger = .ready) {status : Http.Status} {body : ByteArray}
    (replies : op.reply? = some (status, body)) :
    s'.exchange.slot.trigger = .fired (s.exchange.replyWith s.conditions status body) ∧
      counters told = (if op.releases then [.unhandled] else []) ++
        [.requests s.exchange.head.method status] := by
  cases h with
  | unheld op side free =>
      rw [free] at held
      exact absurd held Bool.false_ne_true
  | deserted op side left =>
      rw [(Operation.plain_of_waiting side).reply?] at replies
      exact absurd replies nofun
  | depart op answer last empty =>
      rw [(Operation.plain_of_waiting (Operation.waiting_of_departs last)).reply?] at replies
      exact absurd replies nofun
  | ask op answer harmless empty =>
      rw [(Operation.plain_of_asks harmless).reply?] at replies
      exact absurd replies nofun
  | close => exact absurd replies nofun
  | look there => exact absurd replies nofun
  | readBody drain => exact absurd replies nofun
  | writeHeader name value => exact absurd replies nofun
  | reply status' body' held ready =>
      cases replies
      exact ⟨rfl, Exchange.counters_send _ _ _ _⟩
  | again status' body' used => exact absurd ready used
  | release held ready =>
      cases replies
      refine ⟨rfl, ?_⟩
      -- The note about the request is no counter, and its count comes before the reply's.
      have htold := Telemetry.counters_append
        [Telemetry.log .warn .request "Unhandled request" s.exchange.identity, .count .unhandled]
        (s.exchange.send s.conditions .internalError Exchange.fallbackBody).2
      rw [Exchange.counters_send] at htold
      exact htold
  | forget used => exact absurd ready used

/-- A reply that was sent stays, and no turn counts anything afterwards. -/
theorem kept_of_turn (h : Turn s op s' answer told) {reply : Reply}
    (fired : s.exchange.slot.trigger = .fired reply) :
    s'.exchange.slot.trigger = .fired reply ∧ counters told = [] := by
  have hused : s.exchange.slot.trigger ≠ .ready := by
    rw [fired]
    exact nofun
  cases h with
  | close =>
      refine ⟨fired, ?_⟩
      cases s.conditions.closing <;> rfl
  | look there => exact ⟨(ReplySlot.trigger_look s.exchange.slot).trans fired, rfl⟩
  | readBody drain =>
      cases drain
      · exact ⟨fired, rfl⟩
      · exact ⟨fired, rfl⟩
  | reply status body held ready => exact absurd ready hused
  | release held ready => exact absurd ready hused
  | _ => exact ⟨fired, rfl⟩

/-- A look finds the reply only while the waiting side has not learned anything yet. -/
theorem found_of_turn (h : Turn s op s' answer told) {reply : Reply}
    (found : answer.reply? = some reply) :
    s.exchange.slot.waiter = .listening ∧ s.exchange.slot.trigger = .fired reply := by
  cases h with
  | look there => exact ReplySlot.found_of_look found
  | depart op answer last empty =>
      rw [empty] at found
      exact absurd found nofun
  | ask op answer harmless empty =>
      rw [empty] at found
      exact absurd found nofun
  | _ => exact absurd found nofun

/-- Nobody throws the right to reply away. -/
theorem alive_of_turn (h : Turn s op s' answer told) (alive : s.exchange.slot.trigger ≠ .dropped) :
    s'.exchange.slot.trigger ≠ .dropped := by
  cases h with
  | look there =>
      intro hdropped
      exact alive ((ReplySlot.trigger_look s.exchange.slot).symm.trans hdropped)
  | readBody drain => cases drain <;> exact alive
  | reply status body held ready => exact nofun
  | release held ready => exact nofun
  | _ => exact alive

/-- The waiting side ends by leaving, and it has collected the reply once it was
    found. -/
theorem waiter_of_turn (h : Turn s op s' answer told) (alive : s.exchange.slot.trigger ≠ .dropped) :
    s'.exchange.slot.waiter =
      if op.departs then .gone
      else if answer.reply?.isSome then .collected else s.exchange.slot.waiter := by
  cases h with
  | unheld op side free =>
      rw [Operation.departs_of_serving side]
      rfl
  | deserted op side left =>
      rw [left]
      exact (ite_self Waiter.gone).symm
  | look there => exact ReplySlot.waiter_look alive
  | depart op answer last empty =>
      rw [if_pos last]
      rfl
  | ask op answer harmless empty =>
      rw [empty, Operation.departs_of_serving (Operation.serving_of_asks harmless)]
      rfl
  | readBody drain => cases drain <;> rfl
  | _ => rfl

/-- A waiting side that still listens has listened before, and has found nothing. -/
theorem listening_of_turn (h : Turn s op s' answer told)
    (alive : s.exchange.slot.trigger ≠ .dropped)
    (listening : s'.exchange.slot.waiter = .listening) :
    s.exchange.slot.waiter = .listening ∧ answer.reply? = none := by
  rw [waiter_of_turn h alive] at listening
  by_cases hdeparts : op.departs = true
  · rw [if_pos hdeparts] at listening
    exact absurd listening nofun
  · rw [if_neg hdeparts] at listening
    cases hanswer : answer.reply? with
    | none =>
        rw [hanswer] at listening
        exact ⟨listening, rfl⟩
    | some reply =>
        rw [hanswer] at listening
        exact absurd listening nofun

end Session

end ControlPlane
