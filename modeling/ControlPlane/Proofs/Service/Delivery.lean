import ControlPlane.Proofs.Exchange.Spending
import ControlPlane.Proofs.Service.Frame

/-!
# Delivering Replies

What the operations on a service do to the replies of all its exchanges at once.
`Delivers` collects it: a reply that was sent stays the reply of its exchange for
good, a new one is of a given kind, and as many exchanges gain a reply as replies
are told of. The first and the last together say that no exchange is ever
replied to twice.

The relation composes, so an operation that touches one exchange needs a proof
and everything else is put together: giving up a list of jobs, answering on the
spot, and in the end whole runs of a server.

Which exchanges somebody still holds changes in fewer places. Only opening an
exchange makes one held, and only giving one up or answering it on the spot ends
that.

## Main definitions

* `Service.reply?`: The reply that an exchange was given.
* `Service.answered`: How many exchanges were given one.
* `Service.isHeld`: Somebody on the serving side holds an exchange.
* `Service.Delivers`: What an operation does to the replies.

## Theorems

* `delivers_trans`: What two operations deliver one after the other.
* `delivers_onExchange`: An operation on one exchange delivers what it spends.
* `delivers_giveUp`, `delivers_answer`, `delivers_giveUpAll`, `delivers_release`,
  `delivers_act`, `delivers_runJob`, `delivers_disconnect`, `delivers_openExchange`: Each operation
  delivers.
* `isHeld_giveUp`, `isHeld_answer`, `isHeld_giveUpAll`, `isHeld_act`,
  `isHeld_disconnect`, `isHeld_openExchange`: Each operation on who is held.
-/

namespace ControlPlane

open Telemetry (Observation replies)

namespace Service

variable {P Q : Nat → Reply → Prop} {s s' s'' : Service} {told told' : List Observation}

/-- The reply that an exchange was given, if it was given one. -/
def reply? (s : Service) (number : Nat) : Option Reply :=
  s.exchanges[number]?.bind fun x => x.slot.sent?

/-- How many exchanges were given a reply. -/
def answered (s : Service) : Nat :=
  s.exchanges.countP fun x => x.slot.sent?.isSome

/-- Somebody on the serving side holds the exchange. -/
def isHeld (s : Service) (number : Nat) : Bool :=
  s.exchanges[number]?.any fun x => x.held

/-- What an operation does to the replies of all exchanges. -/
structure Delivers (P : Nat → Reply → Prop) (s s' : Service) (told : List Observation) : Prop where
  /-- A reply that was sent stays. -/
  kept : ∀ number reply, s.reply? number = some reply → s'.reply? number = some reply
  /-- A new reply is of the given kind. -/
  fresh : ∀ number reply, s.reply? number = none → s'.reply? number = some reply → P number reply
  /-- As many exchanges gain a reply as replies are told of. -/
  counted : s'.answered = s.answered + replies told
  /-- An exchange without a reply stays accounted for. -/
  accounted : (∀ x ∈ s.exchanges, x.Accounted) → ∀ x ∈ s'.exchanges, x.Accounted
  /-- No exchange is forgotten. -/
  opened : s.exchanges.length ≤ s'.exchanges.length

theorem delivers_of_same (h : s'.exchanges = s.exchanges) (silent : replies told = 0) :
    Delivers P s s' told := by
  have hreply : ∀ number, s'.reply? number = s.reply? number := fun number => by
    simp only [reply?, h]
  refine ⟨fun number reply hr => ?_, fun number reply hnone hr => ?_, ?_, ?_, ?_⟩
  · rw [hreply]
    exact hr
  · rw [hreply, hnone] at hr
    exact absurd hr.symm (Option.some_ne_none reply)
  · simp only [answered, h, silent, Nat.add_zero]
  · rw [h]
    exact fun hacc => hacc
  · exact Nat.le_of_eq (by rw [h])

theorem delivers_mono (h : Delivers P s s' told) (hPQ : ∀ number reply, P number reply → Q number reply) :
    Delivers Q s s' told :=
  ⟨h.kept, fun number reply hnone hr => hPQ number reply (h.fresh number reply hnone hr),
    h.counted, h.accounted, h.opened⟩

/-- Two operations one after the other deliver what each of them delivers. -/
theorem delivers_trans (h : Delivers P s s' told) (h' : Delivers P s' s'' told') :
    Delivers P s s'' (told ++ told') := by
  refine ⟨fun number reply hr => h'.kept number reply (h.kept number reply hr),
    fun number reply hnone hr => ?_, ?_, fun hacc => h'.accounted (h.accounted hacc),
    Nat.le_trans h.opened h'.opened⟩
  · rcases hmid : s'.reply? number with _ | mid
    · exact h'.fresh number reply hmid hr
    · -- The first operation has given the reply, and the second has kept it.
      have hkeep := h'.kept number mid hmid
      rw [hr, Option.some.injEq] at hkeep
      rw [hkeep]
      exact h.fresh number mid hnone hmid
  · rw [h'.counted, h.counted, Telemetry.replies_append]
    omega

/-- A message that tells of no reply may be told before. -/
theorem delivers_append_left (h : Delivers P s s' told') (silent : replies told = 0) :
    Delivers P s s' (told ++ told') :=
  delivers_trans (delivers_of_same rfl silent) h

/-! ### One exchange -/

theorem getElem?_onExchange (s : Service) (number : Nat) (act : Exchange → Outcome) (other : Nat) :
    (s.onExchange number act).1.exchanges[other]? =
      if other = number then s.exchanges[number]?.map fun x => (act x).exchange
      else s.exchanges[other]? := by
  unfold onExchange
  rcases hx : s.exchanges[number]? with _ | x
  · by_cases heq : other = number
    · rw [if_pos heq, heq]
      exact hx
    · rw [if_neg heq]
  · by_cases heq : other = number
    · rw [if_pos heq, heq]
      simp only [List.getElem?_set_self' , hx, Option.map_some]
      rfl
    · rw [if_neg heq]
      exact List.getElem?_set_ne (fun h => heq h.symm)

theorem length_onExchange (s : Service) (number : Nat) (act : Exchange → Outcome) :
    (s.onExchange number act).1.exchanges.length = s.exchanges.length := by
  unfold onExchange
  rcases hx : s.exchanges[number]? with _ | x
  · rfl
  · exact List.length_set

/-- Where one exchange spends its right to reply, one more exchange is answered. -/
theorem countP_set_of_spends {kind : Reply → Prop} (xs : List Exchange) (number : Nat)
    (x x' : Exchange) (hx : xs[number]? = some x) (h : Exchange.Spends kind x x' told) :
    (xs.set number x').countP (fun x => x.slot.sent?.isSome) =
      xs.countP (fun x => x.slot.sent?.isSome) + replies told := by
  rcases List.getElem?_eq_some_iff.mp hx with ⟨hlt, hget⟩
  rw [List.countP_set hlt, hget]
  -- The old element is counted out and the new one in.
  cases h with
  | kept same silent =>
      rw [Exchange.sent?_congr same, silent]
      by_cases hsent : x.slot.sent?.isSome = true
      · have hpos : 0 < xs.countP (fun x => x.slot.sent?.isSome) :=
          List.countP_pos_iff.mpr ⟨x, List.mem_of_getElem? hx, hsent⟩
        rw [if_pos hsent]
        omega
      · rw [if_neg hsent]
        omega
  | spent reply ready fired may once =>
      have hnone : ¬ x.slot.sent?.isSome = true := by
        simp only [ReplySlot.sent?, ready, Option.isSome_none, Bool.false_eq_true, not_false_eq_true]
      have hsome : x'.slot.sent?.isSome = true := by
        rw [Exchange.sent?_of_fired fired]
        rfl
      rw [if_neg hnone, if_pos hsome, once]
      omega

theorem reply?_onExchange (s : Service) (number : Nat) (act : Exchange → Outcome) (other : Nat) :
    (s.onExchange number act).1.reply? other =
      if other = number then s.exchanges[number]?.bind fun x => (act x).exchange.slot.sent?
      else s.reply? other := by
  unfold reply?
  rw [getElem?_onExchange]
  by_cases heq : other = number
  · rw [if_pos heq, if_pos heq, Option.bind_map]
    rfl
  · rw [if_neg heq, if_neg heq]

/-- An operation on one exchange delivers what that exchange spends. -/
theorem delivers_onExchange (s : Service) (number : Nat) (act : Exchange → Outcome)
    (hspends : ∀ x, s.exchanges[number]? = some x →
      Exchange.Spends (P number) x (act x).exchange (act x).told)
    (hacc : ∀ x : Exchange, x.Accounted → (act x).exchange.Accounted) :
    Delivers P s (s.onExchange number act).1 (s.onExchange number act).2.2 := by
  rcases hx : s.exchanges[number]? with _ | x
  · have hsame : s.onExchange number act = (s, none, []) := by
      simp only [onExchange, hx]
    rw [hsame]
    exact delivers_of_same rfl rfl
  · -- The exchange that is touched, and all the others.
    have hact : s.onExchange number act =
        ({ s with exchanges := s.exchanges.set number (act x).exchange }, (act x).fault,
          (act x).told) := by
      simp only [onExchange, hx]
    have hspend := hspends x hx
    have hbefore : s.reply? number = x.slot.sent? := by
      simp only [reply?, hx, Option.bind_some]
    have hafter : (s.onExchange number act).1.reply? number = (act x).exchange.slot.sent? := by
      rw [reply?_onExchange, if_pos rfl, hx, Option.bind_some]
    have hother : ∀ other, other ≠ number →
        (s.onExchange number act).1.reply? other = s.reply? other := fun other hne => by
      rw [reply?_onExchange, if_neg hne]
    refine ⟨fun other reply hr => ?_, fun other reply hnone hr => ?_, ?_, fun hall => ?_, ?_⟩
    · by_cases heq : other = number
      · rw [heq, hbefore] at hr
        rw [heq, hafter]
        exact Exchange.sent?_of_spends hspend hr
      · rw [hother other heq]
        exact hr
    · by_cases heq : other = number
      · rw [heq, hbefore] at hnone
        rw [heq, hafter] at hr
        rw [heq]
        exact Exchange.may_of_spends hspend hnone hr
      · rw [hother other heq, hnone] at hr
        exact absurd hr.symm (Option.some_ne_none reply)
    · rw [hact]
      exact countP_set_of_spends s.exchanges number x (act x).exchange hx hspend
    · rw [hact]
      intro y hy
      rcases List.mem_or_eq_of_mem_set hy with hmem | heq
      · exact hall y hmem
      · rw [heq]
        exact hacc x (hall x (List.mem_of_getElem? hx))
    · exact Nat.le_of_eq (length_onExchange s number act).symm

theorem isHeld_onExchange (s : Service) (number : Nat) (act : Exchange → Outcome) (other : Nat)
    (hheld : ∀ x, (act x).exchange.held = x.held) :
    (s.onExchange number act).1.isHeld other = s.isHeld other := by
  unfold isHeld
  rw [getElem?_onExchange]
  by_cases heq : other = number
  · rw [if_pos heq, heq]
    rcases s.exchanges[number]? with _ | x
    · rfl
    · exact hheld x
  · rw [if_neg heq]

/-! ### The operations -/

theorem delivers_giveUp (s : Service) (number : Nat)
    (hP : ∀ x, s.exchanges[number]? = some x →
      P number (x.replyWith s.conditions .internalError Exchange.fallbackBody)) :
    Delivers P s (s.giveUp number).1 (s.giveUp number).2 := by
  refine delivers_onExchange s number _ (fun x hx => ?_) (fun x hacc => ?_)
  · refine Exchange.spends_mono (Exchange.spends_release s.conditions x) (fun reply hreply => ?_)
    rw [hreply]
    exact hP x hx
  · exact Exchange.accounted_release s.conditions hacc

theorem isHeld_giveUp (s : Service) (number other : Nat) :
    (s.giveUp number).1.isHeld other = (!decide (other = number) && s.isHeld other) := by
  have hget := getElem?_onExchange s number (fun x =>
    { exchange := (x.release s.conditions).1, told := (x.release s.conditions).2 }) other
  have hsame : (s.giveUp number).1 = (s.onExchange number fun x =>
      { exchange := (x.release s.conditions).1, told := (x.release s.conditions).2 }).1 := rfl
  unfold isHeld
  rw [hsame, hget]
  by_cases heq : other = number
  · rw [if_pos heq, decide_eq_true heq]
    rcases s.exchanges[number]? with _ | x
    · rfl
    · exact Exchange.held_release s.conditions x
  · rw [if_neg heq, decide_eq_false heq]
    rfl

/-- Answering on the spot delivers that answer. Giving the request up afterwards
    adds nothing to it. -/
theorem delivers_answer (s : Service) (number : Nat) (status : Http.Status) (body : ByteArray)
    (hP : ∀ x, s.exchanges[number]? = some x → P number (x.replyWith s.conditions status body)) :
    Delivers P s (s.answer number status body).1 (s.answer number status body).2 := by
  have hwrite : Delivers P s
      (s.onExchange number fun x => x.writeReply s.conditions status body).1
      (s.onExchange number fun x => x.writeReply s.conditions status body).2.2 := by
    refine delivers_onExchange s number _ (fun x hx => ?_) (fun x hacc => ?_)
    · refine Exchange.spends_mono (Exchange.spends_writeReply s.conditions status body x) ?_
      intro reply hreply
      rw [hreply]
      exact hP x hx
    · exact Exchange.accounted_of_spends (Exchange.spends_writeReply s.conditions status body x)
        (Exchange.held_writeReply s.conditions status body x) hacc
  refine delivers_trans hwrite ?_
  refine delivers_onExchange _ number _ (fun x hx => ?_) (fun x hacc => ?_)
  · -- What is given up here was replied to a moment ago.
    refine Exchange.spends_release_of_not_pending _ x ?_
    rw [getElem?_onExchange, if_pos rfl, Option.map_eq_some_iff] at hx
    rcases hx with ⟨y, _, hy⟩
    rw [← hy]
    exact Exchange.not_isPending_writeReply s.conditions status body y
  · exact Exchange.accounted_release _ hacc

theorem isHeld_answer (s : Service) (number : Nat) (status : Http.Status) (body : ByteArray)
    (other : Nat) :
    (s.answer number status body).1.isHeld other =
      (!decide (other = number) && s.isHeld other) := by
  have hgive := isHeld_giveUp
    (s.onExchange number fun x => x.writeReply s.conditions status body).1 number other
  rw [isHeld_onExchange s number _ other
    (fun x => Exchange.held_writeReply s.conditions status body x)] at hgive
  exact hgive

/-- Giving up the requests of several jobs delivers fallback replies only. -/
theorem delivers_giveUpAll (jobs : List Job) :
    ∀ s : Service,
      (∀ (job : Job) (x : Exchange), P job.exchange
        (x.replyWith s.conditions .internalError Exchange.fallbackBody)) →
      Delivers P s (s.giveUpAll jobs).1 (s.giveUpAll jobs).2 := by
  induction jobs with
  | nil => exact fun s _ => delivers_of_same rfl rfl
  | cons job rest ih =>
      intro s hP
      have hfirst := delivers_giveUp (P := P) s job.exchange fun x _ => hP job x
      have hsame := conditions_of_frame (giveUp_frame s job.exchange)
      exact delivers_trans hfirst (ih _ fun other x => by
        rw [hsame]
        exact hP other x)

/-- Giving up a queue delivers fallback replies only. -/
theorem delivers_release (s : Service)
    (hP : ∀ (job : Job) (x : Exchange), P job.exchange
      (x.replyWith s.conditions .internalError Exchange.fallbackBody)) :
    Delivers P s s.release.1 s.release.2.2 := by
  have hemptied : Delivers P s { s with queue := { s.queue with items := [] } } [] :=
    delivers_of_same rfl rfl
  exact delivers_trans hemptied
    (delivers_giveUpAll s.queue.items { s with queue := { s.queue with items := [] } } hP)

theorem isHeld_giveUpAll (jobs : List Job) (other : Nat) :
    ∀ s : Service, (s.giveUpAll jobs).1.isHeld other =
      (!decide (other ∈ jobs.map (·.exchange)) && s.isHeld other) := by
  induction jobs with
  | nil =>
      intro s
      simp only [giveUpAll, List.map_nil, List.not_mem_nil, decide_false, Bool.not_false,
        Bool.true_and]
  | cons job rest ih =>
      intro s
      simp only [giveUpAll, ih, isHeld_giveUp, List.map_cons, List.mem_cons, Bool.decide_or,
        Bool.not_or, Bool.and_assoc]
      rw [Bool.and_left_comm]

/-- One action of a job delivers what the action replies. -/
theorem delivers_act (s : Service) (job : Job) (action : Action)
    (hP : ∀ x status body, action.reply? job.subpath x = some (status, body) →
      P job.exchange (x.replyWith s.conditions status body)) :
    Delivers P s (s.act job action).1 (s.act job action).2.2 := by
  refine delivers_onExchange s job.exchange _ (fun x _ => ?_) (fun x hacc => ?_)
  · refine Exchange.spends_mono (Exchange.spends_perform s.conditions job.subpath action x) ?_
    rintro reply ⟨status, body, hreply, heq⟩
    rw [heq]
    exact hP x status body hreply
  · exact Exchange.accounted_of_spends
      (Exchange.spends_perform s.conditions job.subpath action x)
      (Exchange.held_perform s.conditions job.subpath action x) hacc

/-- Running a job delivers one reply at most, built under the conditions of the moment. -/
theorem delivers_runJob (s : Service) (job : Job)
    (hP : ∀ reply, Exchange.Built s.conditions reply → P job.exchange reply) :
    Delivers P s (s.runJob job).1 (s.runJob job).2.2 := by
  refine delivers_onExchange s job.exchange _ (fun x _ => ?_) (fun x hacc => ?_)
  · exact Exchange.spends_mono (Exchange.spends_serve s.conditions job.subpath job.handler x) hP
  · exact Exchange.accounted_serve s.conditions job.subpath job.handler hacc

theorem isHeld_act (s : Service) (job : Job) (action : Action) (other : Nat) :
    (s.act job action).1.isHeld other = s.isHeld other :=
  isHeld_onExchange s job.exchange _ other
    fun x => Exchange.held_perform s.conditions job.subpath action x

/-- A client that leaves changes the waiting end only. -/
theorem delivers_disconnect (s : Service) (number : Nat) :
    Delivers P s (s.disconnect number) [] := by
  have hdeliver : Delivers P s
      (s.onExchange number fun x => { exchange := { x with slot := x.slot.leave } }).1
      (s.onExchange number fun x => { exchange := { x with slot := x.slot.leave } }).2.2 :=
    delivers_onExchange s number _ (fun x _ => .kept rfl rfl) fun x hacc => hacc
  refine ⟨hdeliver.kept, hdeliver.fresh, ?_, hdeliver.accounted, hdeliver.opened⟩
  have hsilent : (s.onExchange number fun x =>
      { exchange := { x with slot := x.slot.leave } }).2.2 = [] := by
    unfold onExchange
    rcases s.exchanges[number]? with _ | x <;> rfl
  rw [hsilent] at hdeliver
  exact hdeliver.counted

theorem isHeld_disconnect (s : Service) (number other : Nat) :
    (s.disconnect number).isHeld other = s.isHeld other :=
  isHeld_onExchange s number _ other fun _ => rfl

/-- A new exchange has no reply. -/
theorem delivers_openExchange (s : Service) (head : RequestHead) (body : ByteArray) :
    Delivers P s (s.openExchange head body).1 [] := by
  have hreply : ∀ number, (s.openExchange head body).1.reply? number = s.reply? number :=
    fun number => by
      simp only [openExchange, reply?]
      -- A number below is an old exchange, and only the next one is the new one.
      by_cases hlt : number < s.exchanges.length
      · rw [List.getElem?_append_left hlt]
      · rw [List.getElem?_append_right (Nat.le_of_not_lt hlt),
          List.getElem?_eq_none (Nat.le_of_not_lt hlt), List.getElem?_singleton]
        by_cases hzero : number - s.exchanges.length = 0
        · rw [if_pos hzero]
          rfl
        · rw [if_neg hzero]
  refine ⟨fun number reply hr => ?_, fun number reply hnone hr => ?_, ?_, fun hall x hx => ?_, ?_⟩
  · rw [hreply]
    exact hr
  · rw [hreply, hnone] at hr
    exact absurd hr.symm (Option.some_ne_none reply)
  · simp only [answered, openExchange, List.countP_append, Telemetry.replies_nil]
    rfl
  · rcases List.mem_append.mp hx with hold | hnew
    · exact hall x hold
    · rw [List.mem_singleton.mp hnew]
      exact fun _ => ⟨rfl, rfl⟩
  · simp only [openExchange, List.length_append]
    omega

theorem isHeld_openExchange (s : Service) (head : RequestHead) (body : ByteArray) (other : Nat) :
    (s.openExchange head body).1.isHeld other =
      (decide (other = s.exchanges.length) || s.isHeld other) := by
  simp only [openExchange, isHeld]
  by_cases hlt : other < s.exchanges.length
  · rw [List.getElem?_append_left hlt, decide_eq_false (by omega), Bool.false_or]
  · rw [List.getElem?_append_right (Nat.le_of_not_lt hlt),
      List.getElem?_eq_none (Nat.le_of_not_lt hlt), List.getElem?_singleton]
    by_cases hzero : other = s.exchanges.length
    · rw [if_pos (by omega), decide_eq_true hzero]
      rfl
    · rw [if_neg (by omega), decide_eq_false hzero]
      rfl

end Service

end ControlPlane
