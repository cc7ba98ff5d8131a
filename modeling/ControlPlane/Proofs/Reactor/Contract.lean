import ControlPlane.Config.Basic
import ControlPlane.Proofs.Http.Outgoing
import ControlPlane.Proofs.Reactor.Settle

/-!
# What Is Owed to a Request

A request leaves the reactor in one of two ways. If its body could be collected, it gets an
exchange, and its response is made from the reply of that exchange. Then the response is on the
books: all that is ever counted from there on comes down to one entry for this response, under the
method of the request and the status that goes out, and the entries of the other exchanges.
If shutdown was requested before, it asks to close the connection. Neither depends on who
replies, a gate, a handler or whoever gives the request up, nor on what everybody else does
meanwhile, nor on the callback that is loaded for the request, as long as the client waits.

If the body is too large or breaks off, there is no exchange. The request is refused with a
status and nothing else, and no counter is told of it, so it does not appear among the requests
that were replied to, and it does not ask to close the connection even if the server is closing.

The new exchange is followed by its number. That there is one entry for it and no more needs the
ledger of all exchanges, since replies to others are counted in between.

## Main definitions

* `Incoming.octets`: A body as a whole, as far as it arrived.
* `Reactor.Accounts`: What is owed to a request with an exchange, and to the books.
* `Reactor.Admission`: What becomes of a request whose body was collected.
* `Reactor.Contract`: What becomes of any request.

## Theorems

* `collect_eq`: What collecting a body comes to depends on its size first.
* `response_finish`: The response is that of the reply.
* `accounts_of_honours`: What is owed to a request with a new exchange is given to it.
* `contract_of_receive`: What becomes of a request, whatever else happens.
* `receive_tooLarge_closing`: A refused request is not counted, and its connection is not closed.
-/

namespace ControlPlane

open Telemetry (Observation Counter requests counters)

/-! ### Bodies -/

namespace Incoming

/-- The pieces one after the other. -/
def octets (b : Incoming) : ByteArray :=
  b.pieces.foldl (· ++ ·) ByteArray.empty

/-- Pieces are only ever added. -/
theorem size_le_size_foldl (pieces : List ByteArray) :
    ∀ soFar : ByteArray, soFar.size ≤ (pieces.foldl (· ++ ·) soFar).size := by
  induction pieces with
  | nil => exact fun soFar => Nat.le_refl _
  | cons piece rest ih =>
      intro soFar
      have hrest := ih (soFar ++ piece)
      rw [ByteArray.size_append] at hrest
      exact Nat.le_trans (Nat.le_add_right _ _) hrest

/-- Some piece does not fit if all of them together do not. -/
theorem collectPieces_eq (broken : Option String) (pieces : List ByteArray) :
    ∀ (soFar : ByteArray) (left : Nat),
      collectPieces broken soFar left pieces =
        if soFar.size + left < (pieces.foldl (· ++ ·) soFar).size then .tooLarge
        else
          match broken with
          | none => .body (pieces.foldl (· ++ ·) soFar)
          | some reason => .unreadable reason := by
  induction pieces with
  | nil =>
      intro soFar left
      rw [List.foldl_nil, if_neg (by omega)]
      rfl
  | cons piece rest ih =>
      intro soFar left
      rw [collectPieces, List.foldl_cons]
      by_cases hfull : left < piece.size
      · -- What comes later does not make room.
        have hrest := size_le_size_foldl rest (soFar ++ piece)
        rw [ByteArray.size_append] at hrest
        rw [if_pos hfull, if_pos (by omega)]
      · have hleft : (soFar ++ piece).size + (left - piece.size) = soFar.size + left := by
          rw [ByteArray.size_append]
          omega
        rw [if_neg hfull, ih, hleft]

/-- The size decides first, and only then whether the body breaks off. -/
theorem collect_eq (limit : Nat) (b : Incoming) :
    b.collect limit =
      if limit < b.octets.size then .tooLarge
      else
        match b.broken with
        | none => .body b.octets
        | some reason => .unreadable reason := by
  have hpieces := collectPieces_eq b.broken b.pieces ByteArray.empty limit
  rw [ByteArray.size_empty, Nat.zero_add] at hpieces
  exact hpieces

/-- A body of so many zeros, in one piece. -/
def zeros (count : Nat) : Incoming where
  pieces := [⟨Array.replicate count 0⟩]

theorem size_octets_zeros (count : Nat) : (zeros count).octets.size = count := by
  rw [octets, zeros, List.foldl_cons, List.foldl_nil, ByteArray.size_append, ByteArray.size_empty,
    Nat.zero_add]
  exact Array.size_replicate

end Incoming

/-! ### Responses -/

namespace Http.Response

/-- Warnings about fields count nothing. -/
theorem requests_told (reply : Reply) : requests (ofReply reply).2 = [] := by
  rw [told_ofReply]
  refine Telemetry.requests_of_silent ?_
  induction reply.headers.filter fun field => !isValid field with
  | nil => rfl
  | cons field rest ih =>
      rw [List.map_cons, Telemetry.replies_cons, ih]
      rfl

end Http.Response

namespace Reactor

open Http (Response)

variable {s last : Service} {number : Nat} {x : Exchange} {head : RequestHead} {body : ByteArray}
  {told : List Observation}

/-- While the client waits, the response is that of the reply, once there is one. -/
theorem response_finish (there : s.exchanges[number]? = some x)
    (listening : x.slot.waiter = .listening) (alive : x.slot.trigger ≠ .dropped) :
    (finish s number).2.1 = (s.reply? number).map (fun reply => (Response.ofReply reply).1) ∧
      requests (finish s number).2.2 = [] := by
  have hreply : s.reply? number = x.slot.sent? := by
    simp only [Service.reply?, there, Option.bind_some]
  rw [hreply]
  cases htrigger : x.slot.trigger with
  | dropped => exact absurd htrigger alive
  | fired reply =>
      have hsent := Exchange.sent?_of_fired htrigger
      rw [Response.finish_of_sent there listening hsent, hsent]
      exact ⟨rfl, Response.requests_told reply⟩
  | ready =>
      have hwait : x.slot.wait = .blocked := by rw [ReplySlot.wait, listening, htrigger]
      have hsent : x.slot.sent? = none := by rw [ReplySlot.sent?, htrigger]
      simp only [finish, there, hwait, hsent, Option.map_none]
      exact ⟨trivial, rfl⟩

/-! ### The contract -/

/-- What is owed to a request that arrived at a service and has an exchange, and to the books, when
    this much was told since and the service has become the last one. -/
structure Accounts (s : Service) (head : RequestHead) (last : Service) (told : List Observation) :
    Prop where
  /-- The response is that of the reply, once there is one. -/
  response : (finish last s.exchanges.length).2.1 =
    (last.reply? s.exchanges.length).map fun reply => (Response.ofReply reply).1
  /-- What was counted before and since is one entry for the response, if there is one, and the
      entries of the other exchanges. -/
  counted : (s.ledger ++ requests told).Perm
    (((finish last s.exchanges.length).2.1.map fun response =>
      Counter.requests head.method response.status).toList ++ last.others s.exchanges.length)
  /-- Sending the response counts nothing more. -/
  sent : requests (finish last s.exchanges.length).2.2 = []
  /-- If shutdown was requested before, the response asks to close the connection. -/
  closes : s.closing = true →
    ∀ response, (finish last s.exchanges.length).2.1 = some response → response.Closes

/-- The ledger has one entry for the new exchange at most, and what is entered there is what goes
    out. -/
theorem accounts_of_honours
    (h : Service.Honours s.exchanges.length (s.openExchange head body).1 last told) :
    Accounts s head last told := by
  have hnew := Service.getElem?_openExchange s head body
  rcases h.books.keeps _ hnew with ⟨x, hx, hkeeps⟩
  have hreply : last.reply? s.exchanges.length = x.slot.sent? := by
    simp only [Service.reply?, hx, Option.bind_some]
  have halive : x.slot.trigger ≠ .dropped := by
    intro hdropped
    have hnever := hkeeps.alive hdropped
    exact absurd hnever Trigger.noConfusion
  rcases response_finish hx hkeeps.waiter halive with ⟨hresponse, hsilent⟩
  constructor
  case response => exact hresponse
  case counted =>
      have hentry : (finish last s.exchanges.length).2.1.map (fun response =>
          Counter.requests head.method response.status) = x.counter? := by
        have hhead : x.head = head := hkeeps.head
        rw [hresponse, hreply, Exchange.counter?, hhead, Option.map_map]
        rfl
      have hledger := h.books.ledger
      rw [Service.ledger_openExchange] at hledger
      rw [hentry]
      exact hledger.symm.trans (Service.ledger_perm_others hx)
  case sent => exact hsilent
  case closes =>
      intro closing response hout
      rw [hresponse, Option.map_eq_some_iff] at hout
      rcases hout with ⟨reply, hsent, hmade⟩
      -- The exchange had no reply when it was opened, so this one is new.
      have hfresh : (s.openExchange head body).1.reply? s.exchanges.length = none := by
        rw [Service.reply?, hnew]
        rfl
      have hasks := (h.closes closing).fresh _ _ hfresh hsent
      rcases List.getLast?_eq_some_iff.mp hasks with ⟨front, hheaders⟩
      exact hmade ▸ Response.closes_ofReply hheaders

/-- A request with an exchange, as soon as it went through the callback. -/
def admitted (s : Service) (head : RequestHead) (body : ByteArray) :
    Service × List Observation :=
  (s.openExchange head body).1.handle s.exchanges.length

/-- What becomes of a request whose body was collected. -/
structure Admission (s : Service) (head : RequestHead) (body : ByteArray) : Prop where
  /-- From when it is opened, whatever callback is loaded for it and whoever moves meanwhile. -/
  opened : ∀ (y : System) (steps : List System.Step),
    y.service = (s.openExchange head body).1 → .leave s.exchanges.length ∉ steps →
      Accounts s head (y.run steps).1.service (y.run steps).2
  /-- From when it went through the callback of the moment. -/
  handled : ∀ (y : System) (steps : List System.Step),
    y.service = (admitted s head body).1 → .leave s.exchanges.length ∉ steps →
      Accounts s head (y.run steps).1.service ((admitted s head body).2 ++ (y.run steps).2)
  /-- Where everything that is queued then is settled by a worker. -/
  settled : Accounts s head (settle (admitted s head body).1).1
    ((admitted s head body).2 ++ (settle (admitted s head body).1).2)
  /-- There is a response at once if a gate refuses the request. -/
  refused : ∀ status text, s.gate? head = some (status, text) →
    ∃ response, (finish (admitted s head body).1 s.exchanges.length).2.1 = some response ∧
      response.status = status ∧ response.body = text
  /-- There is one when everything is settled, unless a handler ends the process. -/
  served : (Worker.work 0 (admitted s head body).1).2.1.isAborted = false →
    ∃ response, (finish (settle (admitted s head body).1).1 s.exchanges.length).2.1 = some response
  /-- There is one when the server has stopped, however it got to where the request was opened. -/
  stopped : ∀ routes allow depth dumps workers past (y : System) (steps : List System.Step),
    y = ((System.started routes allow depth dumps workers).run past).1 →
      y.service = (s.openExchange head body).1 → .leave s.exchanges.length ∉ steps →
      (y.run steps).1.owner = .stopped →
      ∃ response, (finish (y.run steps).1.service s.exchanges.length).2.1 = some response

/-- What becomes of a request, by its body and the largest size that is allowed. -/
structure Contract (s : Service) (limit : Nat) (head : RequestHead) (incoming : Incoming) :
    Prop where
  large : limit < incoming.octets.size →
    receive s limit head incoming =
      (s, .answered (.ofStatus .payloadTooLarge), [tooLargeEvent limit head])
  broken : ∀ reason, incoming.octets.size ≤ limit → incoming.broken = some reason →
    receive s limit head incoming =
      (s, .answered (.ofStatus .badRequest), [unreadableEvent reason head])
  /-- A response without an exchange goes out as it is. It counts nothing, says nothing about the
      connection, and leaves the service as it was. -/
  bare : ∀ response, (receive s limit head incoming).2.1 = .answered response →
    respond s limit head incoming = (s, some response, (receive s limit head incoming).2.2) ∧
      counters (receive s limit head incoming).2.2 = [] ∧ response.headers = [] ∧
      response.body = ByteArray.empty
  /-- Any other response is that of an exchange. -/
  whole : incoming.octets.size ≤ limit → incoming.broken = none →
    let now := admitted s head incoming.octets
    let last := settle now.1
    let sent := finish last.1 s.exchanges.length
    receive s limit head incoming = (now.1, .awaiting s.exchanges.length, now.2) ∧
      respond s limit head incoming = (sent.1, sent.2.1, now.2 ++ last.2 ++ sent.2.2) ∧
      Admission s head incoming.octets

theorem admission_of_openExchange (s : Service) (head : RequestHead) (body : ByteArray) :
    Admission s head body := by
  have hnew := Service.getElem?_openExchange s head body
  have hopened : ∀ (y : System) (steps : List System.Step),
      y.service = (s.openExchange head body).1 → .leave s.exchanges.length ∉ steps →
        Accounts s head (y.run steps).1.service (y.run steps).2 := by
    intro y steps hy hstays
    have hrun := Service.honours_run y steps hstays
    rw [hy] at hrun
    exact accounts_of_honours hrun
  have hgate : Service.Honours s.exchanges.length (s.openExchange head body).1
      (admitted s head body).1 (admitted s head body).2 :=
    Service.honours_handle (s.openExchange head body).1 s.exchanges.length
  have hsettled : Accounts s head (settle (admitted s head body).1).1
      ((admitted s head body).2 ++ (settle (admitted s head body).1).2) :=
    accounts_of_honours (Service.honours_trans hgate (Service.honours_settle _))
  constructor
  case opened => exact hopened
  case handled =>
      intro y steps hy hstays
      have hrun := Service.honours_run y steps hstays
      rw [hy] at hrun
      exact accounts_of_honours (Service.honours_trans hgate hrun)
  case settled => exact hsettled
  case refused =>
      intro status text hrefused
      rw [(accounts_of_honours hgate).response, admitted, Service.handle_refused hrefused body,
        Service.reply?_answer hnew (Exchange.isPending_untouched head body .listening) status text]
      exact ⟨_, rfl, rfl, rfl⟩
  case served =>
      intro goes
      rcases Service.reply?_settle (Service.expects_handle s head body) goes with ⟨reply, hreply⟩
      rw [hsettled.response, admitted, hreply]
      exact ⟨_, rfl⟩
  case stopped =>
      intro routes allow depth dumps workers past y steps hreached hy hstays hstopped
      have hsound : System.Sound y := hreached ▸ (System.sound_run past _
        (System.sound_started routes allow depth dumps workers)).1
      have hrun := Service.honours_run y steps hstays
      rw [hy] at hrun
      rcases hrun.books.keeps _ hnew with ⟨x, hx, _⟩
      rcases System.answered_of_stopped (System.sound_run steps y hsound).1 hstopped _
        (List.getElem?_eq_some_iff.mp hx).1 with ⟨reply, hreply⟩
      rw [(accounts_of_honours hrun).response, hreply]
      exact ⟨_, rfl⟩

/-- What becomes of a request, for every service, every limit, every request and every body,
    whatever callback is loaded for it and whoever else moves before its response goes out. -/
theorem contract_of_receive (s : Service) (limit : Nat) (head : RequestHead)
    (incoming : Incoming) : Contract s limit head incoming := by
  have hcollect := Incoming.collect_eq limit incoming
  have hlarge : limit < incoming.octets.size → receive s limit head incoming =
      (s, .answered (.ofStatus .payloadTooLarge), [tooLargeEvent limit head]) := by
    intro hsize
    rw [if_pos hsize] at hcollect
    simp only [receive, hcollect]
  have hbroken : ∀ reason, incoming.octets.size ≤ limit → incoming.broken = some reason →
      receive s limit head incoming =
        (s, .answered (.ofStatus .badRequest), [unreadableEvent reason head]) := by
    intro reason hsize hreason
    rw [if_neg (Nat.not_lt_of_le hsize), hreason] at hcollect
    simp only [receive, hcollect]
  have hwhole : incoming.octets.size ≤ limit → incoming.broken = none →
      receive s limit head incoming = ((admitted s head incoming.octets).1,
        .awaiting s.exchanges.length, (admitted s head incoming.octets).2) := by
    intro hsize hnone
    rw [if_neg (Nat.not_lt_of_le hsize), hnone] at hcollect
    simp only [receive, hcollect]
    rfl
  constructor
  case large => exact hlarge
  case broken => exact hbroken
  case bare =>
      intro response hanswered
      by_cases hsize : limit < incoming.octets.size
      · rw [hlarge hsize] at hanswered
        rw [respond, hlarge hsize, ← Received.answered.inj hanswered]
        exact ⟨rfl, rfl, rfl, rfl⟩
      · have hfits := Nat.le_of_not_lt hsize
        cases hreason : incoming.broken with
        | some reason =>
            rw [hbroken reason hfits hreason] at hanswered
            rw [respond, hbroken reason hfits hreason, ← Received.answered.inj hanswered]
            exact ⟨rfl, rfl, rfl, rfl⟩
        | none =>
            -- A request with an exchange is not answered without one.
            rw [hwhole hfits hreason] at hanswered
            exact absurd hanswered nofun
  case whole =>
      intro hsize hnone
      have hreceive := hwhole hsize hnone
      refine ⟨hreceive, ?_, admission_of_openExchange s head incoming.octets⟩
      rw [respond, hreceive]

/-- A server that is closing refuses a body with one octet more than the default configuration
    allows. It counts nothing, and the response does not ask to close the connection. -/
theorem receive_tooLarge_closing :
    ∃ response told,
      receive { queue := .ofDepth 1, closing := true } ({} : Limits).maxBodyBytes
          ⟨⟨.v4 Address.loopback4, 4000, 0⟩, .post, "/", []⟩
          (.zeros (({} : Limits).maxBodyBytes + 1)) =
        ({ queue := .ofDepth 1, closing := true }, .answered response, told) ∧
      response.status = .payloadTooLarge ∧ counters told = [] ∧ ¬ response.Closes := by
  -- The body is too long to be looked at, so its size is told by a lemma.
  have hcollect : (Incoming.zeros (({} : Limits).maxBodyBytes + 1)).collect
      ({} : Limits).maxBodyBytes = .tooLarge := by
    rw [Incoming.collect_eq, Incoming.size_octets_zeros, if_pos (Nat.lt_succ_self _)]
  refine ⟨.ofStatus .payloadTooLarge, [tooLargeEvent ({} : Limits).maxBodyBytes
    ⟨⟨.v4 Address.loopback4, 4000, 0⟩, .post, "/", []⟩], ?_, rfl, rfl, nofun⟩
  rw [receive, hcollect]

end Reactor

end ControlPlane
