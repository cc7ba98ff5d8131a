import ControlPlane.Proofs.Exchange.OneReply
import ControlPlane.Proofs.Http.Fields
import ControlPlane.Reactor

/-!
# What Goes Out

A reply is any list of fields, and not every field can stand in a message. The response keeps
each valid field of the reply under its name in lower case, with the values of one name in
the order in which they were written, however their names were spelt and whatever stood
between them. Every other field is left out with a warning of its own. So a bad field costs
nobody but itself.

The field that asks to close the connection is valid and is written after all the others.
Whatever the handler has written under that name, the client therefore finds the request to
close the connection at the end of it.

## Main definitions

* `Response.isValid`: A field that goes out.
* `Response.Closes`: The last word about the connection is to close it.
* `Response.Carries`: What the response of a reply keeps of it.
* `Response.LastWord`: What goes out once the server is closing.

## Theorems

* `keep?_eq`: Valid fields go out, and no others.
* `values_ofReply`: The values that go out under a name.
* `told_ofReply`: The warnings.
* `closes_ofReply`: A reply that ends with the request to close goes out with it.
* `finish_of_sent`: A reply that was sent goes out when it is waited for.
* `carries_of_reply`: What goes out, for all replies and for all sessions.
-/

namespace ControlPlane

namespace Http

namespace Response

open Session (Silent)

variable {reply : Reply} {name : String}

/-- The field goes out: its name may be kept, and the octets of its value too. -/
def isValid (field : Field) : Bool :=
  decide (IsFieldName field.1) && isFieldValue field.2.toUTF8.toList

/-- The last thing that the response says about the connection is to close it. -/
def Closes (response : Response) : Prop :=
  (values "connection" response.headers).getLast? = some "close"

/-! ### Fields -/

/-- Valid fields go out with their names in lower case, and no others do. -/
theorem keep?_eq (field : Field) :
    keep? field = if isValid field then some (Text.lowerCase field.1, field.2) else none := by
  unfold keep? isValid
  by_cases hname : IsFieldName field.1
  · simp only [(fieldName?_eq_some_iff field.1 _).mpr ⟨hname, rfl⟩, decide_eq_true hname,
      Bool.true_and]
  · have hnone : fieldName? field.1 = none := by
      rw [Option.eq_none_iff_forall_ne_some]
      exact fun kept h => hname ((fieldName?_eq_some_iff field.1 kept).mp h).1
    simp only [hnone, decide_eq_false hname, Bool.false_and, Bool.false_eq_true, if_false]

/-- The values of a name among the fields that go out. -/
theorem values_kept (name : String) (fields : List Field) :
    values name (fields.filterMap keep?) =
      (fields.filter fun field => isValid field && Text.lowerCase field.1 == name).map
        Prod.snd := by
  unfold values
  induction fields with
  | nil => rfl
  | cons field rest ih =>
      by_cases hvalid : isValid field = true
      · have hkept : keep? field = some (Text.lowerCase field.1, field.2) := by
          rw [keep?_eq, if_pos hvalid]
        rw [List.filterMap_cons_some hkept]
        -- The name asked for is compared with the one that goes out, not with the one written.
        by_cases hname : Text.lowerCase field.1 = name
        · rw [named_cons_of_eq hname, List.map_cons, ih, List.filter_cons_of_pos, List.map_cons]
          rw [hvalid, Bool.true_and, beq_iff_eq]
          exact hname
        · rw [named_cons_of_ne hname, ih, List.filter_cons_of_neg]
          rw [hvalid, Bool.true_and, beq_iff_eq]
          exact hname
      · -- A field that is left out has no part in either list.
        have hleft : keep? field = none := by rw [keep?_eq, if_neg hvalid]
        rw [List.filterMap_cons_none hleft, ih, List.filter_cons_of_neg]
        rw [Bool.and_eq_true]
        exact fun h => hvalid h.1

/-- The values that go out under a name. Keeping the fields of each name together does not
    show in them. -/
theorem values_ofReply (reply : Reply) (name : String) :
    values name (ofReply reply).1.headers =
      (reply.headers.filter fun field => isValid field && Text.lowerCase field.1 == name).map
        Prod.snd := by
  rw [ofReply, values_gather, values_kept]

/-- A warning for each field that is not valid, in order. -/
theorem told_ofReply (reply : Reply) :
    (ofReply reply).2 = (reply.headers.filter fun field => !isValid field).map droppedEvent := by
  have hleft : (fun field => (keep? field).isNone) = fun field : Field => !isValid field := by
    funext field
    rw [keep?_eq]
    cases isValid field <;> rfl
  rw [ofReply, hleft]

/-! ### Asking to close -/

/-- The field that asks to close goes out, under its name in lower case. -/
theorem isValid_closeField :
    isValid closeField = true ∧ Text.lowerCase closeField.1 = "connection" := by
  decide +kernel

/-- A reply that ends with the request to close goes out with it at the end of its name. -/
theorem closes_ofReply {front : List Field} (h : reply.headers = front ++ [closeField]) :
    (ofReply reply).1.Closes := by
  -- It is valid, so it is also the last of those that are not left out.
  have hlast : (isValid closeField && Text.lowerCase closeField.1 == "connection") = true := by
    rw [isValid_closeField.1, isValid_closeField.2, Bool.true_and, beq_self_eq_true]
  unfold Closes
  rw [values_ofReply, h, List.filter_append, List.filter_singleton, hlast, cond_true,
    List.map_append]
  exact List.getLast?_concat

/-- A reply that was sent goes out when it is waited for. -/
theorem finish_of_sent {s : Service} {number : Nat} {x : Exchange}
    (there : s.exchanges[number]? = some x) (listening : x.slot.waiter = .listening)
    (sent : x.slot.sent? = some reply) :
    (Reactor.finish s number).2 = (some (ofReply reply).1, (ofReply reply).2) := by
  have hwait : x.slot.wait = .reply reply := by
    rw [ReplySlot.wait, listening, Exchange.fired_of_sent? sent]
  simp only [Reactor.finish, there, hwait]

/-! ### Replies and sessions -/

/-- What the response of a reply keeps of it. -/
structure Carries (reply : Reply) : Prop where
  status : (ofReply reply).1.status = reply.status
  body : (ofReply reply).1.body = reply.body
  /-- Under each name there are the values of the valid fields of the reply whose name it is
      in lower case, in order. -/
  values : ∀ name, values name (ofReply reply).1.headers =
    (reply.headers.filter fun field => isValid field && Text.lowerCase field.1 == name).map Prod.snd
  /-- The other fields are told, each by a warning and in order, and nothing else is. -/
  told : (ofReply reply).2 = (reply.headers.filter fun field => !isValid field).map droppedEvent

/-- What goes out of an exchange whose server was closing when the reply was built. -/
def LastWord (c : Conditions) (head : RequestHead) (body : ByteArray)
    (ops : List Exchange.Operation) : Prop :=
  ∀ before op after status text, ops = before ++ op :: after → Silent before →
    op.reply? = some (status, text) → (c.closing || before.any (·.closes)) = true →
    ∃ reply, (Session.run ⟨c, { head, body }⟩ ops).1.exchange.slot.sent? = some reply ∧
      reply.status = status ∧ reply.body = text ∧ (ofReply reply).1.Closes ∧
      ∀ (s : Service) (number : Nat) (x : Exchange), s.exchanges[number]? = some x →
        x.slot = (Session.run ⟨c, { head, body }⟩ ops).1.exchange.slot →
        x.slot.waiter = .listening →
        (Reactor.finish s number).2 = (some (ofReply reply).1, (ofReply reply).2)

/-- A response keeps status, body and all valid fields of its reply, and one that was built
    while the server was closing asks last to close the connection, whatever was written
    before. -/
theorem carries_of_reply (reply : Reply) (c : Conditions) (head : RequestHead) (body : ByteArray)
    (ops : List Exchange.Operation) : Carries reply ∧ LastWord c head body ops := by
  constructor
  · exact ⟨rfl, rfl, values_ofReply reply, told_ofReply reply⟩
  · intro before op after status text heq silent hreply closing
    -- The reply was written when the operation was done, and later ones leave it alone.
    have hbuilt := (Session.built_of_run (s := ⟨c, { head, body }⟩) rfl rfl silent hreply after).1
    rw [if_pos closing, ← heq] at hbuilt
    have hsent := Exchange.sent?_of_fired hbuilt
    refine ⟨_, hsent, rfl, rfl, closes_ofReply rfl, fun s number x there hslot listening => ?_⟩
    exact finish_of_sent there listening (hslot ▸ hsent)

end Response

end Http

end ControlPlane
