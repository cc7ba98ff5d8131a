import ControlPlane.Proofs.Service.Gate
import ControlPlane.Proofs.System.Answering

/-!
# Requests That Nobody Has Touched

Between its arrival and the moment when somebody begins to deal with it, a request
stays as it was. The reactor passes it on, it waits in the queue, and perhaps the
owner takes it out of there, but nothing is written for it and no reply is sent. Only
its client may leave meanwhile. `Intact` says so for all requests at once: one that is
still held and whose job no worker has begun is untouched.

A job that was begun is being served as long as its request is held. So a request that
is anywhere else than with a worker has not been begun, and together with custody this
gives `untouched_of_awaiting`: whatever waits is untouched.

## Main definitions

* `Service.Pristine`: Requests of some kind that are held are untouched.
* `System.Unbegun`: No worker has begun a job for a request.
* `System.Intact`: The invariant.
* `System.awaiting`: The requests that nobody deals with at the moment.

## Theorems

* `pristine_onExchange`, `pristine_giveUp`, `pristine_answer`, `pristine_giveUpAll`,
  `pristine_release`, `pristine_disconnect`, `pristine_openExchange`: Each operation.
* `isHeld_of_move`: No request is held again once it was given up.
* `held_of_awaiting`: A request that waits is held and is with no worker.
* `intact_of_move`: Every move keeps the invariant.
* `untouched_of_awaiting`: Whatever waits is untouched and was not begun.
-/

namespace ControlPlane

open Telemetry (Observation)

namespace Service

variable {free : Nat → Prop} {s : Service}

/-- Requests of the given kind that are held are untouched. -/
def Pristine (free : Nat → Prop) (s : Service) : Prop :=
  ∀ number x, s.exchanges[number]? = some x → x.held = true → free number →
    ∃ waiter, x = .untouched x.head x.body waiter

theorem pristine_mono {free' : Nat → Prop} (h : Pristine free s)
    (hfree : ∀ number, free' number → free number) : Pristine free' s :=
  fun number x hx hheld hnumber => h number x hx hheld (hfree number hnumber)

/-- Whatever is done to one exchange, the others stay pristine. -/
theorem pristine_onExchange (h : Pristine free s) (number : Nat) (act : Exchange → Outcome) :
    Pristine (fun other => free other ∧ other ≠ number) (s.onExchange number act).1 := by
  intro other x hx hheld hfree
  rw [getElem?_onExchange, if_neg hfree.2] at hx
  exact h other x hx hheld hfree.1

/-- A request that is given up is not held any more. -/
theorem pristine_giveUp {number : Nat}
    (h : Pristine (fun other => free other ∧ other ≠ number) s) :
    Pristine free (s.giveUp number).1 := by
  intro other x hx hheld hfree
  by_cases heq : other = number
  · have hgiven := isHeld_giveUp s number other
    rw [isHeld, hx, Option.any_some, hheld, decide_eq_true heq] at hgiven
    exact absurd hgiven (by simp only [Bool.not_true, Bool.false_and, Bool.true_eq_false,
      not_false_eq_true])
  · rw [getElem?_giveUp_ne s heq] at hx
    exact h other x hx hheld ⟨hfree, heq⟩

theorem pristine_answer (h : Pristine free s) (number : Nat) (status : Http.Status)
    (body : ByteArray) : Pristine free (s.answer number status body).1 :=
  pristine_giveUp (pristine_onExchange h number fun x => x.writeReply s.conditions status body)

theorem pristine_giveUpAll (jobs : List Job) :
    ∀ s : Service, Pristine free s → Pristine free (s.giveUpAll jobs).1 := by
  induction jobs with
  | nil => exact fun s h => h
  | cons job rest ih =>
      intro s h
      exact ih _ (pristine_giveUp (pristine_mono h fun _ hfree => hfree.1))

theorem pristine_release (h : Pristine free s) : Pristine free s.release.1 :=
  pristine_giveUpAll s.queue.items { s with queue := { s.queue with items := [] } } h

/-- A client that leaves takes nothing of the request with it. -/
theorem pristine_disconnect (h : Pristine free s) (number : Nat) :
    Pristine free (s.disconnect number) := by
  intro other x hx hheld hfree
  have hget := getElem?_onExchange s number
    (fun x => { exchange := { x with slot := x.slot.leave } }) other
  have hsame : (s.disconnect number).exchanges[other]? = _ := hget
  rw [hsame] at hx
  by_cases heq : other = number
  · rw [if_pos heq, Option.map_eq_some_iff] at hx
    rcases hx with ⟨z, hz, hzx⟩
    rw [← hzx] at hheld ⊢
    rw [← heq] at hz
    rcases h other z hz hheld hfree with ⟨waiter, hwas⟩
    refine ⟨.gone, ?_⟩
    rw [hwas]
    rfl
  · rw [if_neg heq] at hx
    exact h other x hx hheld hfree

/-- A request that has just arrived is untouched. -/
theorem pristine_openExchange (h : Pristine free s) (head : RequestHead) (body : ByteArray) :
    Pristine free (s.openExchange head body).1 := by
  intro other x hx hheld hfree
  by_cases hlt : other < s.exchanges.length
  · rw [getElem?_openExchange_lt s head body hlt] at hx
    exact h other x hx hheld hfree
  · have hlength : (s.openExchange head body).1.exchanges.length = s.exchanges.length + 1 :=
      List.length_append
    have hbound := (List.getElem?_eq_some_iff.mp hx).1
    have hlast : other = s.exchanges.length := by omega
    rw [hlast, getElem?_openExchange, Option.some.injEq] at hx
    rw [← hx]
    exact ⟨.listening, rfl⟩

theorem lt_of_isHeld {number : Nat} (h : s.isHeld number = true) : number < s.exchanges.length := by
  rcases hx : s.exchanges[number]? with _ | x
  · rw [isHeld, hx] at h
    exact absurd h Bool.false_ne_true
  · exact (List.getElem?_eq_some_iff.mp hx).1

end Service

namespace System

variable {y : System} {s : Step} {out : System × List Observation}

/-- No worker has begun a job for the request. -/
def Unbegun (y : System) (number : Nat) : Prop :=
  ∀ job ∈ y.begun, job.exchange ≠ number

/-- A job that was begun is being served as long as its request is held, and a request
    that is held and was not begun is untouched. -/
structure Intact (y : System) : Prop where
  opened : ∀ job ∈ y.begun, job.exchange < y.service.exchanges.length
  served : ∀ job ∈ y.begun, y.service.isHeld job.exchange = true → job.exchange ∈ y.served
  untouched : y.service.Pristine y.Unbegun

/-! ### Letting go -/

theorem letGo_begun (mid : System) (told : List Observation) :
    (letGo mid told).1.begun = mid.begun := by
  rcases dropUnheld_frame mid with ⟨service, hd, _⟩
  simp only [letGo, hd]

theorem letGo_served (mid : System) (told : List Observation) :
    (letGo mid told).1.served = mid.served := by
  rcases dropUnheld_frame mid with ⟨service, hd, _⟩
  simp only [letGo, hd, served]

theorem pristine_letGo {free : Nat → Prop} {mid : System} (h : mid.service.Pristine free)
    (told : List Observation) : (letGo mid told).1.service.Pristine free := by
  rcases dropUnheld_cases mid with ⟨_, hd⟩ | ⟨_, hd⟩
  · simp only [letGo, hd]
    exact h
  · simp only [letGo, hd]
    exact Service.pristine_release h

/-! ### Who is held -/

theorem isHeld_letGo {z : System} {told : List Observation} {number : Nat}
    (h : (letGo z told).1.service.isHeld number = true) : z.service.isHeld number = true := by
  rcases dropUnheld_cases z with ⟨_, hd⟩ | ⟨_, hd⟩
  · simp only [letGo, hd] at h
    exact h
  · have hgiven := Service.isHeld_giveUpAll z.service.queue.items number
      { z.service with queue := { z.service.queue with items := [] } }
    simp only [letGo, hd] at h
    exact (Bool.and_eq_true_iff.mp (hgiven.symm.trans h)).2

theorem isHeld_of_giveUp {t : Service} {given number : Nat}
    (h : (t.giveUp given).1.isHeld number = true) : t.isHeld number = true := by
  rw [Service.isHeld_giveUp] at h
  exact (Bool.and_eq_true_iff.mp h).2

theorem isHeld_of_answer {t : Service} {given number : Nat} {status : Http.Status}
    {body : ByteArray} (h : (t.answer given status body).1.isHeld number = true) :
    t.isHeld number = true := by
  rw [Service.isHeld_answer] at h
  exact (Bool.and_eq_true_iff.mp h).2

/-- A request that was there and is held after a move was held before. -/
theorem isHeld_of_move (h : Move y s out) (number : Nat)
    (hlt : number < y.service.exchanges.length)
    (hheld : out.1.service.isHeld number = true) : y.service.isHeld number = true := by
  cases h with
  | arrive head body stage =>
      rw [Service.isHeld_openExchange, decide_eq_false (Nat.ne_of_lt hlt), Bool.false_or] at hheld
      exact hheld
  | lose given callback stage unknown =>
      exact isHeld_letGo (z := { y with reactor := .idle }) hheld
  | refuse given callback x status first stage opened away silent =>
      exact isHeld_of_answer (isHeld_letGo hheld)
  | accept given allow x handler subpath first stage opened passes silent =>
      exact isHeld_letGo (z := { y with reactor := .routed ⟨given, handler, subpath⟩ }) hheld
  | enqueue job stage room =>
      -- The queue is no part of who holds what.
      have hmid := isHeld_letGo hheld
      exact hmid
  | overload job stage full => exact isHeld_of_answer (isHeld_letGo hheld)
  | exit worker stage idle =>
      have hmid := isHeld_letGo hheld
      exact hmid
  | perform worker job action rest stage sound =>
      exact (Service.isHeld_act y.service job action number).symm.trans hheld
  | fail worker job action rest fault stage failed =>
      have hacted := isHeld_of_giveUp (t := (y.service.act job action).1) hheld
      exact (Service.isHeld_act y.service job action number).symm.trans hacted
  | finish worker job stage => exact isHeld_of_giveUp hheld
  | refuseAll stage =>
      have hmid := isHeld_letGo hheld
      exact hmid
  | giveUp job rest stage => exact isHeld_of_giveUp hheld
  | drop stage => exact isHeld_letGo (z := { y with owner := .dropped }) hheld
  | leave given => exact (Service.isHeld_disconnect y.service given number).symm.trans hheld
  | _ => exact hheld

/-! ### Whatever waits -/

/-- The requests that nobody deals with at the moment. -/
def awaiting (y : System) : List Nat :=
  y.reactor.places ++ y.queued ++ y.owner.places

theorem count_awaiting (y : System) (number : Nat) :
    y.places.count number = y.awaiting.count number + y.served.count number := by
  rw [count_places, awaiting, List.count_append, List.count_append]
  omega

/-- A request that waits is held and is with no worker. -/
theorem held_of_awaiting (hcustody : Custodial y) {number : Nat} (hmem : number ∈ y.awaiting) :
    y.service.isHeld number = true ∧ number ∉ y.served := by
  have hcount := hcustody number
  have hpos := List.count_pos_iff.mpr hmem
  have hle := Bool.toNat_le (y.service.isHeld number)
  rw [count_awaiting] at hcount
  constructor
  · cases hheld : y.service.isHeld number with
    | true => rfl
    | false =>
        rw [hheld, Bool.toNat_false] at hcount
        omega
  · refine List.count_eq_zero.mp ?_
    omega

/-! ### Moves -/

/-- A worker that moves on leaves at most the places of its old stage. -/
theorem mem_served_setWorker {worker : Nat} {before after : WorkerStage}
    (hw : y.workers[worker]? = some before) {number : Nat} (hmem : number ∈ y.served)
    (hstays : number ∈ before.places → number ∈ after.places) :
    number ∈ (y.setWorker worker after).served := by
  have hset : (y.setWorker worker after).served.count number + before.places.count number =
      y.served.count number + after.places.count number :=
    count_flatMap_set WorkerStage.places number before after y.workers worker hw
  have hpos := List.count_pos_iff.mpr hmem
  refine List.count_pos_iff.mp ?_
  by_cases hbefore : number ∈ before.places
  · have hafter := List.count_pos_iff.mpr (hstays hbefore)
    have hone : before.places.count number ≤ 1 := by
      cases before with
      | serving job rest => exact List.count_le_length
      | waiting => exact Nat.zero_le 1
      | exited => exact Nat.zero_le 1
    omega
  · rw [List.count_eq_zero.mpr hbefore] at hset
    omega

/-- A move that begins no job and takes no held request from the workers. -/
theorem intact_of_served (h : Move y s out) (hy : Intact y) (hstaged : Staged y)
    (hbegun : out.1.begun = y.begun)
    (hserved : ∀ number ∈ y.served, out.1.service.isHeld number = true → number ∈ out.1.served)
    (hpristine : out.1.service.Pristine y.Unbegun) : Intact out.1 := by
  have hopened := (delivers_of_move h hstaged).opened
  refine ⟨fun job hmem => ?_, fun job hmem hheld => ?_, ?_⟩
  · rw [hbegun] at hmem
    exact Nat.lt_of_lt_of_le (hy.opened job hmem) hopened
  · rw [hbegun] at hmem
    have hbefore := isHeld_of_move h job.exchange (hy.opened job hmem) hheld
    exact hserved job.exchange (hy.served job hmem hbefore) hheld
  · intro number x hx hheld hfree
    exact hpristine number x hx hheld fun job hmem => hfree job (hbegun ▸ hmem)

/-- A move that lets go of the queue, and otherwise begins no job and takes nothing from
    the workers. -/
theorem intact_letGo {mid : System} {told : List Observation} (h : Move y s (letGo mid told))
    (hy : Intact y) (hstaged : Staged y) (hbegun : mid.begun = y.begun)
    (hserved : ∀ number ∈ y.served, number ∈ mid.served)
    (hpristine : mid.service.Pristine y.Unbegun) : Intact (letGo mid told).1 := by
  refine intact_of_served h hy hstaged ((letGo_begun mid told).trans hbegun)
    (fun number hmem _ => ?_) (pristine_letGo hpristine told)
  rw [letGo_served]
  exact hserved number hmem

/-- A job that is begun was in the queue, and from now on a worker serves it. -/
theorem intact_begin (hy : Intact y) (hcustody : Custodial y) (worker : Nat) (job : Job)
    (rest : List Job) (stage : y.workers[worker]? = some .waiting)
    (items : y.service.queue.items = job :: rest) :
    Intact ({ y.setItems rest with begun := y.begun ++ [job] }.setWorker worker
      (.serving job job.handler)) := by
  have hqueued : job.exchange ∈ y.awaiting := by
    refine List.mem_append_left _ (List.mem_append_right _ ?_)
    rw [queued, items]
    exact List.mem_cons_self
  have hlt : worker < y.workers.length := (List.getElem?_eq_some_iff.mp stage).1
  refine ⟨fun other hmem => ?_, fun other hmem hheld => ?_, fun number x hx hheld hfree => ?_⟩
  · rcases List.mem_append.mp hmem with hold | hnew
    · exact hy.opened other hold
    · rw [List.mem_singleton.mp hnew]
      exact Service.lt_of_isHeld (held_of_awaiting hcustody hqueued).1
  · rcases List.mem_append.mp hmem with hold | hnew
    · exact mem_served_setWorker (y := { y.setItems rest with begun := y.begun ++ [job] }) stage
        (hy.served other hold hheld) fun hplace => absurd hplace List.not_mem_nil
    · rw [List.mem_singleton.mp hnew]
      refine List.mem_flatMap.mpr ⟨.serving job job.handler, ?_, List.mem_singleton_self _⟩
      exact List.mem_set hlt _
  · exact hy.untouched number x hx hheld fun other hold => hfree other (List.mem_append_left _ hold)

/-- What a worker does to the request of a job that was begun concerns no other. -/
theorem pristine_act (hy : Intact y) {job : Job} (hbegun : job ∈ y.begun) (action : Action) :
    (y.service.act job action).1.Pristine y.Unbegun :=
  Service.pristine_mono (Service.pristine_onExchange hy.untouched job.exchange _)
    fun _ hfree => ⟨hfree, fun heq => hfree job hbegun heq.symm⟩

/-- A worker that gives the request of its job up leaves its place with it. -/
theorem served_conclude (worker : Nat) (job : Job) (rest : List Action) (fault : Option Fault)
    (hw : y.workers[worker]? = some (.serving job rest)) (number : Nat) (hmem : number ∈ y.served)
    (hheld : (y.conclude worker job fault).1.service.isHeld number = true) :
    number ∈ (y.conclude worker job fault).1.served := by
  have hgiven : (y.service.giveUp job.exchange).1.isHeld number = true := hheld
  refine mem_served_setWorker hw hmem fun hplace => ?_
  -- Its own request is not held any more.
  rw [Service.isHeld_giveUp, decide_eq_true (List.mem_singleton.mp hplace)] at hgiven
  exact absurd hgiven Bool.false_ne_true

/-- Every move keeps the invariant. -/
theorem intact_of_move (h : Move y s out) (hy : Intact y) (hstaged : Staged y)
    (hcustody : Custodial y) : Intact out.1 := by
  have hmove := h
  cases h with
  | arrive head body stage =>
      exact intact_of_served hmove hy hstaged rfl (fun _ hmem _ => hmem)
        (Service.pristine_openExchange hy.untouched head body)
  | lose number callback stage unknown =>
      exact intact_letGo hmove hy hstaged rfl (fun _ hmem => hmem) hy.untouched
  | refuse number callback x status first stage opened away silent =>
      exact intact_letGo hmove hy hstaged rfl (fun _ hmem => hmem)
        (Service.pristine_answer hy.untouched number status _)
  | accept number allow x handler subpath first stage opened passes silent =>
      exact intact_letGo hmove hy hstaged rfl (fun _ hmem => hmem) hy.untouched
  | enqueue job stage room =>
      exact intact_letGo hmove hy hstaged rfl (fun _ hmem => hmem) hy.untouched
  | overload job stage full =>
      exact intact_letGo hmove hy hstaged rfl (fun _ hmem => hmem)
        (Service.pristine_answer hy.untouched job.exchange _ _)
  | exit worker stage idle =>
      exact intact_letGo hmove hy hstaged rfl
        (fun _ hmem => mem_served_setWorker stage hmem fun hplace => hplace) hy.untouched
  | begin worker job rest stage runs items => exact intact_begin hy hcustody worker job rest stage items
  | perform worker job action rest stage sound =>
      -- A job that is served was begun, so what happens to its request does not matter here.
      have hbegun := (hstaged.serving job _ (List.mem_of_getElem? stage)).1
      exact intact_of_served hmove hy hstaged rfl
        (fun _ hmem _ => mem_served_setWorker stage hmem fun hplace => hplace)
        (pristine_act hy hbegun action)
  | fail worker job action rest fault stage failed =>
      have hbegun := (hstaged.serving job _ (List.mem_of_getElem? stage)).1
      refine intact_of_served hmove hy hstaged rfl
        (served_conclude (y := { y with service := (y.service.act job action).1 }) worker job
          (action :: rest) (some fault) stage) ?_
      exact Service.pristine_giveUp (Service.pristine_mono (pristine_act hy hbegun action)
        fun _ hfree => hfree.1)
  | finish worker job stage =>
      refine intact_of_served hmove hy hstaged rfl (served_conclude worker job [] none stage) ?_
      exact Service.pristine_giveUp (Service.pristine_mono hy.untouched fun _ hfree => hfree.1)
  | refuseAll stage => exact intact_letGo hmove hy hstaged rfl (fun _ hmem => hmem) hy.untouched
  | giveUp job rest stage =>
      exact intact_of_served hmove hy hstaged rfl (fun _ hmem _ => hmem)
        (Service.pristine_giveUp (Service.pristine_mono hy.untouched fun _ hfree => hfree.1))
  | drop stage => exact intact_letGo hmove hy hstaged rfl (fun _ hmem => hmem) hy.untouched
  | leave number =>
      exact intact_of_served hmove hy hstaged rfl (fun _ hmem _ => hmem)
        (Service.pristine_disconnect hy.untouched number)
  | _ => exact ⟨hy.opened, hy.served, hy.untouched⟩

/-- Whatever waits is untouched and was not begun. -/
theorem untouched_of_awaiting (hcustody : Custodial y) (hy : Intact y) {number : Nat}
    (hmem : number ∈ y.awaiting) :
    y.Unbegun number ∧ ∃ head body waiter,
      y.service.exchanges[number]? = some (.untouched head body waiter) := by
  rcases held_of_awaiting hcustody hmem with ⟨hheld, hfree⟩
  have hunbegun : y.Unbegun number := by
    intro job hjob heq
    rw [← heq] at hheld hfree
    exact hfree (hy.served job hjob hheld)
  refine ⟨hunbegun, ?_⟩
  rcases hx : y.service.exchanges[number]? with _ | x
  · rw [Service.isHeld, hx] at hheld
    exact absurd hheld Bool.false_ne_true
  · rw [Service.isHeld, hx, Option.any_some] at hheld
    rcases hy.untouched number x hx hheld hunbegun with ⟨waiter, hwas⟩
    exact ⟨x.head, x.body, waiter, congrArg some hwas⟩

end System

end ControlPlane
