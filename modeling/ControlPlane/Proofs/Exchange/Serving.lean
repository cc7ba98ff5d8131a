import ControlPlane.Proofs.Exchange.Spending
import ControlPlane.Proofs.Service.Gate

/-!
# What a Handler Comes To

Replying, replying again, failing and being given up can meet in any order in one
handler. What comes of it can nevertheless be read off the list of actions. The first
action that replies or fails settles the reply: either it is that reply, or it is the
fallback, in both cases with the header fields written before. What comes later can no
longer change it. How the handler ends is a separate question: with a second reply, if
it comes to one before it fails of itself, and with its own failure otherwise.

`replyTo` and `failure` say this without performing anything, and serving agrees with
them.

## Main definitions

* `Action.settles`: An action after which the reply is settled.
* `Handler.opening`, `Handler.reached`: The actions before the reply is settled, and
  those before the handler fails of itself.
* `Handler.opened`: A request when its reply is about to be settled.
* `Handler.replyTo`: The reply that a request gets.
* `Handler.repliesTwice`, `Handler.failure`: How a handler ends.

## Theorems

* `replyTo_append`: What comes after the reply was settled does not change it.
* `fault_serve`: How serving ends.
* `sent?_serve`: The reply that serving leaves.
-/

namespace ControlPlane

namespace Action

/-- The action replies. -/
def isReply : Action → Bool
  | .reply _ _ | .echo _ => true
  | _ => false

/-- The fault with which an action fails of itself. -/
def fault? : Action → Option Fault
  | .fail fault => some fault
  | _ => none

/-- The reply is settled by the action: it replies, or it fails. -/
def settles (action : Action) : Bool :=
  action.isReply || action.fault?.isSome

/-- The header field that an action writes for the reply. -/
def field? (head : RequestHead) : Action → Option Http.Field
  | .header name value => some (name, value)
  | .copyHeader name => some (name, (Http.firstValue? name head.headers).getD "(none)")
  | _ => none

end Action

namespace Handler

/-- The actions before the reply is settled. -/
def opening (handler : Handler) : Handler :=
  handler.takeWhile fun action => !action.settles

/-- The actions before the handler fails of itself. -/
def reached (handler : Handler) : Handler :=
  handler.takeWhile fun action => action.fault?.isNone

/-- A request when its reply is about to be settled. -/
def opened (handler : Handler) (x : Exchange) : Exchange :=
  { x with
    outgoing := x.outgoing ++ handler.opening.filterMap (Action.field? x.head)
    body := if .drain ∈ handler.opening then ByteArray.empty else x.body }

/-- The reply that a pending request gets from a handler: the first one, unless the handler
    fails before, and the fallback otherwise. -/
def replyTo (c : Conditions) (subpath : String) (handler : Handler) (x : Exchange) : Reply :=
  let x := handler.opened x
  match (handler.find? Action.settles).bind (Action.reply? subpath x) with
  | some (status, body) => x.replyWith c status body
  | none => x.replyWith c .internalError Exchange.fallbackBody

/-- The handler comes to a second reply before it fails of itself. -/
def repliesTwice (handler : Handler) : Bool :=
  2 ≤ handler.reached.countP Action.isReply

/-- The fault with which serving a pending request with this target ends, if it does not
    end well. -/
def failure (handler : Handler) (target : String) : Option Fault :=
  if handler.repliesTwice then some (.doubleReply target) else handler.findSome? Action.fault?

variable {c : Conditions} {subpath : String} {action : Action} {x : Exchange}

/-! ### The first action -/

theorem reached_cons (h : action.fault? = none) (rest : Handler) :
    reached (action :: rest) = action :: reached rest := by
  rw [reached, List.takeWhile_cons_of_pos]
  · rfl
  · rw [h]
    rfl

/-- Nothing is reached after a failure. -/
theorem reached_of_fault {fault : Fault} (h : action.fault? = some fault) (rest : Handler) :
    reached (action :: rest) = [] := by
  rw [reached, List.takeWhile_cons_of_neg]
  rw [h]
  exact Bool.false_ne_true

/-- An action that settles nothing is performed, and the others see what it leaves. -/
theorem opened_cons (c : Conditions) (subpath : String) (h : action.settles = false)
    (rest : Handler) (x : Exchange) :
    opened (action :: rest) x = opened rest (x.perform c subpath action).exchange := by
  have hopening : opening (action :: rest) = action :: opening rest := by
    rw [opening, List.takeWhile_cons_of_pos]
    · rfl
    · rw [h]
      rfl
  unfold opened
  rw [hopening]
  cases action with
  | header name value =>
      simp only [Exchange.perform, Exchange.writeHeader, Action.field?, List.filterMap_cons,
        List.mem_cons, reduceCtorEq, false_or, List.append_assoc, List.cons_append, List.nil_append]
  | copyHeader name =>
      simp only [Exchange.perform, Exchange.writeHeader, Exchange.header, Action.field?,
        List.filterMap_cons, List.mem_cons, reduceCtorEq, false_or, List.append_assoc,
        List.cons_append, List.nil_append]
  | drain =>
      simp only [Exchange.perform, Exchange.readBody, Action.field?, List.filterMap_cons,
        List.mem_cons, true_or, if_true, ite_self]
  | gate =>
      simp only [Exchange.perform, Action.field?, List.filterMap_cons, List.mem_cons,
        reduceCtorEq, false_or]
  | reply status body => exact absurd h nofun
  | echo status => exact absurd h nofun
  | fail fault => exact absurd h nofun

/-- An action that settles the reply finds the request as it is. -/
theorem opened_of_settles (h : action.settles = true) (rest : Handler) (x : Exchange) :
    opened (action :: rest) x = x := by
  have hopening : opening (action :: rest) = [] := by
    rw [opening, List.takeWhile_cons_of_neg]
    rw [h]
    exact Bool.false_ne_true
  unfold opened
  rw [hopening]
  simp only [List.filterMap_nil, List.append_nil, List.not_mem_nil, if_false]

theorem replyTo_cons (c : Conditions) (subpath : String) (h : action.settles = false)
    (rest : Handler) (x : Exchange) :
    replyTo c subpath (action :: rest) x =
      replyTo c subpath rest (x.perform c subpath action).exchange := by
  have hskip : ¬ action.settles = true := by
    rw [h]
    exact Bool.false_ne_true
  unfold replyTo
  rw [opened_cons c subpath h, List.find?_cons_of_neg hskip]

theorem replyTo_of_settles (c : Conditions) (h : action.settles = true) (rest : Handler)
    (x : Exchange) :
    replyTo c subpath (action :: rest) x =
      match action.reply? subpath x with
      | some (status, body) => x.replyWith c status body
      | none => x.replyWith c .internalError Exchange.fallbackBody := by
  unfold replyTo
  rw [opened_of_settles h, List.find?_cons_of_pos h]
  rfl

/-- What comes after the reply was settled does not change it. -/
theorem replyTo_append (c : Conditions) (subpath : String) (first others : Handler)
    (h : first.any Action.settles = true) :
    ∀ x : Exchange, replyTo c subpath (first ++ others) x = replyTo c subpath first x := by
  induction first with
  | nil => exact absurd h nofun
  | cons action rest ih =>
      intro x
      rw [List.cons_append]
      by_cases hsettles : action.settles = true
      · rw [replyTo_of_settles c hsettles, replyTo_of_settles c hsettles]
      · have hskip := Bool.eq_false_iff.mpr hsettles
        rw [List.any_cons, hskip, Bool.false_or] at h
        rw [replyTo_cons c subpath hskip, replyTo_cons c subpath hskip]
        exact ih h _

end Handler

namespace Exchange

variable {c : Conditions} {subpath : String} {action : Action} {x : Exchange}

/-! ### How serving ends -/

theorem head_writeReply (c : Conditions) (status : Http.Status) (body : ByteArray) (x : Exchange) :
    (x.writeReply c status body).exchange.head = x.head := by
  unfold writeReply
  by_cases hp : x.isPending = true
  · rw [if_pos hp]
    rfl
  · rw [if_neg hp]

/-- A reply is a fault exactly if there was one before, and afterwards there is one. -/
theorem fault_writeReply (c : Conditions) (status : Http.Status) (body : ByteArray) (x : Exchange) :
    (x.writeReply c status body).fault =
      if x.isPending then none else some (.doubleReply x.head.target) := by
  unfold writeReply
  by_cases hp : x.isPending = true
  · rw [if_pos hp, if_pos hp]
  · rw [if_neg hp, if_neg hp]

/-- Performing actions goes on after one that does not fail. -/
theorem performAll_cons (h : (x.perform c subpath action).fault = none) (rest : Handler) :
    (x.performAll c subpath (action :: rest)).exchange =
        ((x.perform c subpath action).exchange.performAll c subpath rest).exchange ∧
      (x.performAll c subpath (action :: rest)).fault =
        ((x.perform c subpath action).exchange.performAll c subpath rest).fault := by
  constructor
  · simp only [performAll, h]
  · simp only [performAll, h]

theorem performAll_of_fault {fault : Fault} (h : (x.perform c subpath action).fault = some fault)
    (rest : Handler) :
    x.performAll c subpath (action :: rest) = x.perform c subpath action := by
  simp only [performAll, h]

/-- What a replying action does is what writing a reply does, to an exchange that differs in
    its body at most. -/
theorem perform_of_isReply (c : Conditions) (subpath : String) (h : action.isReply = true)
    (x : Exchange) :
    ∃ body status text, action.reply? subpath x = some (status, text) ∧
      x.perform c subpath action = ({ x with body := body } : Exchange).writeReply c status text := by
  cases action with
  | reply status text => exact ⟨x.body, status, text, rfl, rfl⟩
  | echo status => exact ⟨ByteArray.empty, status, _, rfl, rfl⟩
  | _ => exact absurd h nofun

/-- What any other action does: it leaves the slot and the head, and fails or not of
    itself. -/
theorem perform_of_not_isReply (c : Conditions) (subpath : String) (h : action.isReply = false)
    (x : Exchange) :
    (x.perform c subpath action).exchange.slot = x.slot ∧
      (x.perform c subpath action).exchange.head = x.head ∧
      (x.perform c subpath action).fault = action.fault? := by
  cases action with
  | reply status body => exact absurd h nofun
  | echo status => exact absurd h nofun
  | _ => exact ⟨rfl, rfl, rfl⟩

theorem isPending_congr {x x' : Exchange} (h : x'.slot = x.slot) : x'.isPending = x.isPending := by
  rw [isPending, h, isPending]

/-- Actions end with a second reply, if they come to one, and otherwise with the first of
    their own failures. A request that was replied to before has one reply already. -/
theorem fault_performAll (c : Conditions) (subpath : String) (handler : Handler) :
    ∀ x : Exchange, (x.performAll c subpath handler).fault =
      if 2 ≤ handler.reached.countP Action.isReply + (!x.isPending).toNat then
        some (.doubleReply x.head.target)
      else handler.findSome? Action.fault? := by
  induction handler with
  | nil =>
      intro x
      have hle := Bool.toNat_le (!x.isPending)
      rw [if_neg]
      · rfl
      · simp only [Handler.reached, List.takeWhile_nil, List.countP_nil]
        omega
  | cons action rest ih =>
      intro x
      by_cases hreply : action.isReply = true
      · -- The first reply uses the right up, and the second one fails.
        rcases perform_of_isReply c subpath hreply x with ⟨body, status, text, _, hperform⟩
        have hgoesOn : action.fault? = none := by
          cases action with
          | reply status body => rfl
          | echo status => rfl
          | _ => exact absurd hreply nofun
        have hfault : (x.perform c subpath action).fault =
            if x.isPending then none else some (.doubleReply x.head.target) := by
          rw [hperform]
          exact fault_writeReply c status text _
        rw [Handler.reached_cons hgoesOn, List.countP_cons_of_pos hreply]
        by_cases hp : x.isPending = true
        · rw [if_pos hp] at hfault
          have hused : (x.perform c subpath action).exchange.isPending = false := by
            rw [hperform]
            exact Bool.eq_false_iff.mpr (not_isPending_writeReply c status text _)
          have hhead : (x.perform c subpath action).exchange.head = x.head := by
            rw [hperform]
            exact head_writeReply c status text _
          rw [(performAll_cons hfault rest).2, ih, hused, hhead, hp, List.findSome?_cons, hgoesOn]
          rfl
        · rw [if_neg hp] at hfault
          rw [performAll_of_fault hfault, hfault, Bool.eq_false_iff.mpr hp, if_pos]
          simp only [Bool.not_false, Bool.toNat_true]
          omega
      · rcases perform_of_not_isReply c subpath (Bool.eq_false_iff.mpr hreply) x with
          ⟨hslot, hhead, hfault⟩
        cases hown : action.fault? with
        | none =>
            rw [hown] at hfault
            rw [(performAll_cons hfault rest).2, ih, hhead, isPending_congr hslot,
              Handler.reached_cons hown, List.countP_cons_of_neg hreply, List.findSome?_cons, hown]
        | some fault =>
            rw [hown] at hfault
            have hle := Bool.toNat_le (!x.isPending)
            rw [performAll_of_fault hfault, hfault, Handler.reached_of_fault hown,
              List.findSome?_cons, hown, if_neg]
            rw [List.countP_nil]
            omega

/-- Serving a pending request ends as the handler says. -/
theorem fault_serve (c : Conditions) (subpath : String) (handler : Handler)
    (pending : x.isPending = true) :
    (x.serve c subpath handler).fault = handler.failure x.head.target := by
  have hserve : (x.serve c subpath handler).fault = (x.performAll c subpath handler).fault := rfl
  rw [hserve, fault_performAll, pending, Handler.failure, Handler.repliesTwice]
  simp only [Bool.not_true, Bool.toNat_false, Nat.add_zero, decide_eq_true_eq]

/-! ### The reply that serving leaves -/

/-- Serving a request that was replied to keeps its reply. -/
theorem sent?_serve_of_sent (c : Conditions) (subpath : String) (handler : Handler) {reply : Reply}
    (h : x.slot.sent? = some reply) :
    (x.serve c subpath handler).exchange.slot.sent? = some reply :=
  sent?_of_spends (spends_serve c subpath handler x) h

theorem sent?_release (c : Conditions) (pending : x.isPending = true) :
    (x.release c).1.slot.sent? = some (x.replyWith c .internalError fallbackBody) := by
  simp only [release, if_pos pending]
  rfl

/-- Serving a pending request leaves the reply that the handler gives it, by induction
    along the actions that settle nothing. -/
theorem sent?_serve (c : Conditions) (subpath : String) (handler : Handler) :
    ∀ x : Exchange, x.isPending = true →
      (x.serve c subpath handler).exchange.slot.sent? = some (handler.replyTo c subpath x) := by
  have hserve : ∀ (handler : Handler) (x : Exchange), (x.serve c subpath handler).exchange =
      ((x.performAll c subpath handler).exchange.release c).1 := fun _ _ => rfl
  induction handler with
  | nil =>
      intro x pending
      have hopened : Handler.opened [] x = x := by
        simp only [Handler.opened, Handler.opening, List.takeWhile_nil, List.filterMap_nil,
          List.append_nil, List.not_mem_nil, if_false]
      rw [hserve, Handler.replyTo, hopened]
      exact sent?_release c pending
  | cons action rest ih =>
      intro x pending
      by_cases hreply : action.isReply = true
      · -- The reply is sent here, and everything after it keeps it.
        have hsettles : action.settles = true := by
          rw [Action.settles, hreply, Bool.true_or]
        rcases perform_of_isReply c subpath hreply x with ⟨body, status, text, hwhat, hperform⟩
        have hpending : ({ x with body := body } : Exchange).isPending = true := pending
        have hfault : (x.perform c subpath action).fault = none := by
          rw [hperform, fault_writeReply, if_pos hpending]
        have hsent : (x.perform c subpath action).exchange.slot.sent? =
            some (x.replyWith c status text) := by
          rw [hperform]
          simp only [writeReply, if_pos hpending]
          rfl
        rw [hserve, (performAll_cons hfault rest).1, Handler.replyTo_of_settles c hsettles, hwhat]
        exact sent?_serve_of_sent c subpath rest hsent
      · rcases perform_of_not_isReply c subpath (Bool.eq_false_iff.mpr hreply) x with
          ⟨hslot, _, hfault⟩
        cases hown : action.fault? with
        | none =>
            have hskip : action.settles = false := by
              rw [Action.settles, Bool.eq_false_iff.mpr hreply, hown]
              rfl
            rw [hown] at hfault
            rw [hserve, (performAll_cons hfault rest).1, Handler.replyTo_cons c subpath hskip]
            exact ih _ ((isPending_congr hslot).trans pending)
        | some fault =>
            -- The handler fails before it has replied, so giving the request up replies.
            cases action with
            | fail fault =>
                have hperformed : x.performAll c subpath (.fail fault :: rest) =
                    { exchange := x, fault := some fault } := rfl
                rw [hserve, hperformed, Handler.replyTo_of_settles c rfl]
                exact sent?_release c pending
            | _ => cases hown

end Exchange

end ControlPlane
