import ControlPlane.Proofs.Service.Screening

/-!
# The Way In

A request that arrives is either answered on the spot or joins the queue, and which of
the two is decided by the service as it is at that moment. `gate?` says so without
following the request through its steps: the first of the reasons to refuse it, in
order, with the status and the body of the answer. A request that no gate refuses is
one that `Admits` describes, and the two are the only outcomes there are.

The outcomes concern one exchange, the new one. Nothing was done to it before, so its
reply has no header fields but the one that a shutdown adds, and the other exchanges
stay as they are.

## Main definitions

* `Exchange.untouched`: A request to which nothing was done yet.
* `Service.withJobs`: The service with other jobs in its queue.
* `Service.gate?`: The answer to a request that is refused.
* `Service.Admits`: A request passes all gates with a handler.

## Theorems

* `reply?_answer`, `reply?_giveUp`, `reply?_giveUpAll`: The reply to a pending request
  that is answered or given up.
* `getElem?_answer_ne`, `getElem?_giveUp_ne`, `getElem?_openExchange_lt`: The other
  exchanges.
* `gate?_dispatch`: Refusals are what screening finds, and a full queue.
* `admits_of_gate?`: A request that no gate refuses passes all of them.
* `handle_refused`: A request that a gate refuses is answered by it.
* `handle_joined`: A request that passes joins the queue.
-/

namespace ControlPlane

open Telemetry (Observation)

/-- A request to which nothing was done yet, except that its waiting side may have
    moved. -/
def Exchange.untouched (head : RequestHead) (body : ByteArray) (waiter : Waiter) : Exchange :=
  { head := head, body := body, slot := { waiter := waiter } }

theorem Exchange.isPending_untouched (head : RequestHead) (body : ByteArray) (waiter : Waiter) :
    (Exchange.untouched head body waiter).isPending = true := rfl

/-- The header fields of a reply to a request to which nothing was done before. -/
def Conditions.fields (c : Conditions) : List Http.Field :=
  if c.closing then [Http.closeField] else []

theorem Exchange.replyWith_untouched (c : Conditions) (status : Http.Status) (text : ByteArray)
    (head : RequestHead) (body : ByteArray) (waiter : Waiter) :
    (Exchange.untouched head body waiter).replyWith c status text = ⟨status, c.fields, text⟩ := rfl

namespace Service

variable {s s' : Service} {number other : Nat}

/-- The service with these jobs in its queue. -/
def withJobs (s : Service) (jobs : List Job) : Service :=
  { s with queue := { s.queue with items := jobs } }

/-! ### Replies on the spot -/

theorem lt_of_reply? {reply : Reply} (h : s.reply? number = some reply) :
    number < s.exchanges.length := by
  rcases Option.bind_eq_some_iff.mp h with ⟨x, hx, _⟩
  exact (List.getElem?_eq_some_iff.mp hx).1

/-- Giving up a pending request answers it with the fallback reply. -/
theorem reply?_giveUp {x : Exchange} (hx : s.exchanges[number]? = some x)
    (pending : x.isPending = true) :
    (s.giveUp number).1.reply? number =
      some (x.replyWith s.conditions .internalError Exchange.fallbackBody) := by
  have hreply := reply?_onExchange s number (fun x =>
    { exchange := (x.release s.conditions).1, told := (x.release s.conditions).2 }) number
  rw [if_pos rfl, hx, Option.bind_some] at hreply
  simp only [Exchange.release, if_pos pending] at hreply
  exact hreply

/-- Answering a pending request on the spot gives it just that reply. -/
theorem reply?_answer {x : Exchange} (hx : s.exchanges[number]? = some x)
    (pending : x.isPending = true) (status : Http.Status) (body : ByteArray) :
    (s.answer number status body).1.reply? number =
      some (x.replyWith s.conditions status body) := by
  have hwritten := reply?_onExchange s number
    (fun x => x.writeReply s.conditions status body) number
  rw [if_pos rfl, hx, Option.bind_some] at hwritten
  simp only [Exchange.writeReply, if_pos pending] at hwritten
  -- Giving the request up afterwards keeps the reply.
  have hkept := (delivers_giveUp (P := fun _ _ => True)
    (s.onExchange number fun x => x.writeReply s.conditions status body).1 number
    fun _ _ => trivial).kept
  exact hkept number _ hwritten

theorem getElem?_giveUp_ne (s : Service) (hne : other ≠ number) :
    (s.giveUp number).1.exchanges[other]? = s.exchanges[other]? := by
  have hother := getElem?_onExchange s number (fun x =>
    { exchange := (x.release s.conditions).1, told := (x.release s.conditions).2 }) other
  rw [if_neg hne] at hother
  exact hother

/-- Giving up the requests of several jobs answers a pending one among them with the
    fallback reply. -/
theorem reply?_giveUpAll {x : Exchange} (pending : x.isPending = true) (jobs : List Job) :
    ∀ s : Service, s.exchanges[number]? = some x → number ∈ jobs.map (·.exchange) →
      (s.giveUpAll jobs).1.reply? number =
        some (x.replyWith s.conditions .internalError Exchange.fallbackBody) := by
  induction jobs with
  | nil => exact fun s _ hmem => absurd hmem List.not_mem_nil
  | cons job rest ih =>
      intro s hx hmem
      have hsame := conditions_of_frame (giveUp_frame s job.exchange)
      by_cases heq : number = job.exchange
      · -- Its turn has come, and the jobs after it leave its reply alone.
        rw [heq] at hx ⊢
        have hkept := (delivers_giveUpAll (P := fun _ _ => True) rest (s.giveUp job.exchange).1
          fun _ _ => trivial).kept
        exact hkept job.exchange _ (reply?_giveUp hx pending)
      · rcases List.mem_cons.mp hmem with hhere | hlater
        · exact absurd hhere heq
        · have hrest := ih (s.giveUp job.exchange).1
            ((getElem?_giveUp_ne s heq).trans hx) hlater
          rw [hsame] at hrest
          exact hrest

theorem getElem?_answer_ne (s : Service) (status : Http.Status) (body : ByteArray)
    (hne : other ≠ number) :
    (s.answer number status body).1.exchanges[other]? = s.exchanges[other]? := by
  have hother := getElem?_onExchange s number
    (fun x => x.writeReply s.conditions status body) other
  rw [if_neg hne] at hother
  exact (getElem?_giveUp_ne _ hne).trans hother

theorem getElem?_openExchange_lt (s : Service) (head : RequestHead) (body : ByteArray)
    (hlt : other < s.exchanges.length) :
    (s.openExchange head body).1.exchanges[other]? = s.exchanges[other]? :=
  List.getElem?_append_left hlt

theorem getElem?_openExchange (s : Service) (head : RequestHead) (body : ByteArray) :
    (s.openExchange head body).1.exchanges[s.exchanges.length]? =
      some (.untouched head body .listening) :=
  List.getElem?_concat_length

/-! ### Requests -/

/-- The answer to a request that is refused: the first reason counts. -/
def gate? (s : Service) (head : RequestHead) : Option (Http.Status × ByteArray) :=
  match s.callback with
  | .reject => some (.unavailable, ByteArray.empty)
  | .dispatch allow =>
    if allow.isAllowed head.peer.address = false then some (.forbidden, ByteArray.empty)
    else if head.method = .unknown then some (.badRequest, ByteArray.empty)
    else if s.routes.resolve head.target = none then some (.notFound, ByteArray.empty)
    else if s.queue.depth ≤ s.queue.size then some (.internalError, overloadBody)
    else none

/-- A request passes all gates of a callback with this allow list, and the table of the
    moment leads it to this handler with this rest of its target. -/
structure Admits (s : Service) (allow : AllowList) (head : RequestHead) (handler : Handler)
    (subpath : String) : Prop where
  callback : s.callback = .dispatch allow
  peer : allow.isAllowed head.peer.address = true
  method : head.method ≠ .unknown
  routed : s.routes.resolve head.target = some (handler, subpath)
  room : s.queue.size < s.queue.depth

theorem gate?_reject (hc : s.callback = .reject) (head : RequestHead) :
    s.gate? head = some (.unavailable, ByteArray.empty) := by
  simp only [gate?, hc]

/-- A callback that dispatches refuses what screening refuses, and then what finds the
    queue full. -/
theorem gate?_dispatch {allow : AllowList} (hc : s.callback = .dispatch allow)
    (head : RequestHead) :
    s.gate? head =
      match (Verdict.ofHead allow s.routes head).refusal? with
      | some status => some (status, ByteArray.empty)
      | none => if s.queue.depth ≤ s.queue.size then some (.internalError, overloadBody) else none := by
  simp only [gate?, hc, Verdict.ofHead]
  cases hpeer : allow.isAllowed head.peer.address with
  | false => rfl
  | true =>
      by_cases hmethod : head.method = .unknown
      · simp only [Bool.not_true, Bool.false_eq_true, reduceCtorEq, if_false, if_pos hmethod,
          Verdict.refusal?]
      · cases hroute : s.routes.resolve head.target with
        | none =>
            simp only [Bool.not_true, Bool.false_eq_true, reduceCtorEq, if_false, if_neg hmethod,
              if_true, Verdict.refusal?]
        | some route =>
            simp only [Bool.not_true, Bool.false_eq_true, reduceCtorEq, if_false, if_neg hmethod,
              Verdict.refusal?]

theorem ofHead_eq_admitted_iff (allow : AllowList) (routes : RouteTable Handler)
    (head : RequestHead) (handler : Handler) (subpath : String) :
    Verdict.ofHead allow routes head = .admitted handler subpath ↔
      allow.isAllowed head.peer.address = true ∧ head.method ≠ .unknown ∧
        routes.resolve head.target = some (handler, subpath) := by
  unfold Verdict.ofHead
  cases hpeer : allow.isAllowed head.peer.address with
  | false => simp only [Bool.not_false, if_true, reduceCtorEq, Bool.false_eq_true, false_and]
  | true =>
      by_cases hmethod : head.method = .unknown
      · simp only [Bool.not_true, Bool.false_eq_true, if_false, if_true, reduceCtorEq, hmethod,
          ne_eq, not_true_eq_false, false_and, and_false]
      · cases hroute : routes.resolve head.target with
        | none =>
            simp only [Bool.not_true, Bool.false_eq_true, if_false, if_neg hmethod, reduceCtorEq,
              and_false]
        | some route =>
            simp only [Bool.not_true, Bool.false_eq_true, if_false, Verdict.admitted.injEq, hmethod, ne_eq, not_false_eq_true, true_and,
              Option.some.injEq, Prod.ext_iff]

/-- A request that no gate refuses passes all of them. -/
theorem admits_of_gate? {head : RequestHead} (h : s.gate? head = none) :
    ∃ allow handler subpath, s.Admits allow head handler subpath := by
  cases hc : s.callback with
  | reject =>
      rw [gate?_reject hc] at h
      exact absurd h (Option.some_ne_none _)
  | dispatch allow =>
      rw [gate?_dispatch hc] at h
      cases hv : Verdict.ofHead allow s.routes head with
      | admitted handler subpath =>
          rw [hv] at h
          rcases (ofHead_eq_admitted_iff allow s.routes head handler subpath).mp hv with
            ⟨hpeer, hmethod, hroute⟩
          by_cases hfull : s.queue.depth ≤ s.queue.size
          · simp only [Verdict.refusal?, if_pos hfull, reduceCtorEq] at h
          · exact ⟨allow, handler, subpath, hc, hpeer, hmethod, hroute, Nat.lt_of_not_le hfull⟩
      | forbidden => simp only [hv, Verdict.refusal?, reduceCtorEq] at h
      | unknownMethod => simp only [hv, Verdict.refusal?, reduceCtorEq] at h
      | unrouted => simp only [hv, Verdict.refusal?, reduceCtorEq] at h

theorem gate?_of_turnsAway {x : Exchange} {status : Http.Status}
    (h : s.TurnsAway x status s.callback) :
    s.gate? x.head = some (status, ByteArray.empty) := by
  cases hc : s.callback with
  | reject =>
      rw [hc] at h
      have hstatus : status = .unavailable := h
      rw [gate?_reject hc, hstatus]
  | dispatch allow =>
      rw [hc] at h
      have hrefusal : (Verdict.ofHead allow s.routes x.head).refusal? = some status := h
      rw [gate?_dispatch hc, hrefusal]

/-- A request that passes joins the queue, and nothing else happens. -/
theorem handle_joined {allow : AllowList} {head : RequestHead} {handler : Handler}
    {subpath : String} (h : s.Admits allow head handler subpath) (body : ByteArray) :
    ((s.openExchange head body).1.handle s.exchanges.length).1 =
      (s.openExchange head body).1.withJobs
        (s.queue.items ++ [⟨s.exchanges.length, handler, subpath⟩]) := by
  have hverdict : Verdict.ofHead allow (s.openExchange head body).1.routes head =
      .admitted handler subpath :=
    (ofHead_eq_admitted_iff allow s.routes head handler subpath).mpr ⟨h.peer, h.method, h.routed⟩
  rcases screen_admitted (s.openExchange head body).1 allow s.exchanges.length
    (.untouched head body .listening) handler subpath (getElem?_openExchange s head body)
    hverdict with ⟨hsame, hjob⟩
  have hcallback : (s.openExchange head body).1.callback = .dispatch allow := h.callback
  rcases enqueue_cases (s.openExchange head body).1 ⟨s.exchanges.length, handler, subpath⟩ with
    ⟨_, hqueued⟩ | ⟨hfull, _⟩
  · unfold handle
    rw [hcallback]
    simp only [hsame, hjob, hqueued]
    rfl
  · exact absurd h.room (Nat.not_lt_of_le hfull)

/-- A request that a gate refuses is answered by it, and nothing else happens. -/
theorem handle_refused {head : RequestHead} {status : Http.Status} {text : ByteArray}
    (h : s.gate? head = some (status, text)) (body : ByteArray) :
    ((s.openExchange head body).1.handle s.exchanges.length).1 =
      ((s.openExchange head body).1.answer s.exchanges.length status text).1 := by
  -- The gates do not look at the exchanges, so opening one changes none of them.
  have hgate : (s.openExchange head body).1.gate? head = some (status, text) := h
  have hx := getElem?_openExchange s head body
  rcases screen_cases (s.openExchange head body).1 s.callback s.exchanges.length with
    ⟨hnone, _⟩ | ⟨x, first, hopened, _, ⟨refusal, haway, hscreen⟩ |
      ⟨allow, handler, subpath, hcallback, hverdict, hscreen⟩⟩
  · rw [hx] at hnone
    exact absurd hnone nofun
  · rw [hx, Option.some.injEq] at hopened
    have hturned := gate?_of_turnsAway (s := (s.openExchange head body).1) haway
    rw [← hopened] at hturned
    have hsame := hturned.symm.trans hgate
    rw [Option.some.injEq, Prod.mk.injEq] at hsame
    have hcallback : (s.openExchange head body).1.callback = s.callback := rfl
    simp only [handle, hcallback, hscreen, hsame.1, hsame.2]
  · -- Screening lets it pass, so it is the queue that refuses it.
    rw [hx, Option.some.injEq] at hopened
    rw [← hopened] at hverdict
    have hadmitted : Verdict.ofHead allow (s.openExchange head body).1.routes head =
      .admitted handler subpath := hverdict
    rw [gate?_dispatch (s := (s.openExchange head body).1) hcallback, hadmitted] at hgate
    rcases enqueue_cases (s.openExchange head body).1 ⟨s.exchanges.length, handler, subpath⟩ with
      ⟨hroom, _⟩ | ⟨hfull, hqueued⟩
    · simp only [Verdict.refusal?, if_neg (Nat.not_le_of_lt hroom), reduceCtorEq] at hgate
    · simp only [Verdict.refusal?, if_pos hfull, Option.some.injEq, Prod.mk.injEq] at hgate
      have hsame : (s.openExchange head body).1.callback = s.callback := rfl
      simp only [handle, hsame, hscreen, hqueued, hgate.1, hgate.2]

end Service

end ControlPlane
