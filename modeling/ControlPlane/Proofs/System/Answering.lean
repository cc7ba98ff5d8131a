import ControlPlane.Proofs.System.Custody

/-!
# One Answer for Every Request

Every request that a started server takes in is answered exactly once, whatever
the order in which the reactor, the workers, the owner and the clients move.

At most once is a matter of counting. Each move delivers its replies in the sense
of `Service.Delivers`, which composes along runs: replies that were sent stay,
and as many requests are answered as replies are told of. So no request has
caused two.

At least once is a matter of custody. A request without a reply is still held,
and one that is held is somewhere. A stopped server has nothing anywhere. This
covers the request whose job is queued after the queue was stopped, and even
after it was emptied: the callback that the reactor has loaded keeps the queue
alive until the job is in it, and the last holder to let go answers for what is
left.

A reply comes from a gate, from the handler of a job that was begun for the
request, or from giving the request up. The jobs begun only become more, so a
run may be judged by those that were begun in the end.

## Main definitions

* `Reply.Due`: A reply that a request may get.
* `System.Writes`: What a step may reply.
* `System.Sound`: The invariant of a started server.
* `System.started`: A server that was just started.
* `System.AnsweredOnce`: What runs of a server come to.

## Theorems

* `delivers_writes_of_move`: Every move delivers replies of its step.
* `delivers_written_of_move`, `delivers_of_move`: These replies are due, written under
  the conditions of the moment.
* `sound_of_move`: Every move keeps the invariant.
* `sound_run`: So does every run, and it delivers replies that are due.
* `answered_add_unanswered`: A request was answered, or is still to be.
* `answered_of_stopped`: A stopped server has answered every request.
* `answeredOnce_of_run`: Every request is answered exactly once.
* `answeredOnce_late`: A job that is queued after the queue was emptied.
-/

namespace ControlPlane

open Telemetry (Observation replies)

/-- One of the actions of the job replies like this. -/
def Job.Writes (job : Job) (reply : Reply) : Prop :=
  ∃ action ∈ job.handler, ∃ x, action.reply? job.subpath x = some (reply.status, reply.body)

/-- The reply that a request gets for being given up unanswered. -/
def Reply.IsFallback (reply : Reply) : Prop :=
  reply.status = .internalError ∧ reply.body = Exchange.fallbackBody

/-- A reply that a request may get when these jobs were begun. -/
def Reply.Due (begun : List Job) (number : Nat) (reply : Reply) : Prop :=
  reply.Gated ∨ reply.IsFallback ∨ ∃ job ∈ begun, job.exchange = number ∧ job.Writes reply

theorem Reply.due_of_prefix {before after : List Job} (h : before <+: after) (number : Nat)
    (reply : Reply) (hdue : reply.Due before number) : reply.Due after number := by
  rcases hdue with hgate | hfallback | ⟨job, hmem, hjob⟩
  · exact Or.inl hgate
  · exact Or.inr (Or.inl hfallback)
  · exact Or.inr (Or.inr ⟨job, h.subset hmem, hjob⟩)

theorem Reply.due_fallback (begun : List Job) (number : Nat) (c : Conditions) (x : Exchange) :
    (x.replyWith c .internalError Exchange.fallbackBody).Due begun number :=
  Or.inr (Or.inl ⟨rfl, rfl⟩)

namespace System

variable {P : Nat → Reply → Prop} {y : System} {s : Step} {out : System × List Observation}

/-! ### At most once -/

/-- Where a move lets go of the queue, it delivers fallback replies besides. -/
theorem delivers_letGo {mid : System} {told : List Observation} (service : Service)
    (hfallback : ∀ (number : Nat) (x : Exchange),
      P number (x.replyWith mid.service.conditions .internalError Exchange.fallbackBody))
    (h : Service.Delivers P service mid.service told) :
    Service.Delivers P service (letGo mid told).1.service (letGo mid told).2 := by
  unfold letGo
  refine Service.delivers_trans h ?_
  rcases dropUnheld_cases mid with ⟨_, hd⟩ | ⟨_, hd⟩
  · simp only [hd]
    exact Service.delivers_of_same rfl rfl
  · simp only [hd]
    exact Service.delivers_release mid.service fun job x => hfallback job.exchange x

/-- Giving up the request of a job delivers the fallback reply at most. What is
    told of a fault is no reply. -/
theorem delivers_conclude (worker : Nat) (job : Job) (fault : Option Fault)
    (hfallback : ∀ (number : Nat) (x : Exchange),
      P number (x.replyWith y.service.conditions .internalError Exchange.fallbackBody)) :
    Service.Delivers P y.service (y.conclude worker job fault).1.service
      (y.conclude worker job fault).2 := by
  have hgiven : Service.Delivers P y.service
      (y.service.giveUp job.exchange).1 (y.service.giveUp job.exchange).2 :=
    Service.delivers_giveUp y.service job.exchange fun x _ => hfallback job.exchange x
  exact Service.delivers_trans hgiven
    (Service.delivers_of_same rfl (Service.replies_fault worker job.subpath fault))

/-- What a step may reply to a request. -/
inductive Writes (y : System) : Step → Nat → Http.Status → ByteArray → Prop
  /-- Screening turns the request away. -/
  | gate (number : Nat) (callback : Callback) (x : Exchange) (status : Http.Status)
      (stage : y.reactor = .loaded number callback)
      (away : y.service.TurnsAway x status callback) :
      Writes y .screen number status ByteArray.empty
  /-- The queue is full. -/
  | overload (job : Job) (stage : y.reactor = .routed job)
      (full : y.service.queue.depth ≤ y.service.queue.size) :
      Writes y .enqueue job.exchange .internalError Service.overloadBody
  /-- The handler replies. -/
  | action (worker : Nat) (job : Job) (action : Action) (rest : List Action) (x : Exchange)
      (status : Http.Status) (body : ByteArray)
      (stage : y.workers[worker]? = some (.serving job (action :: rest)))
      (replies : action.reply? job.subpath x = some (status, body)) :
      Writes y (.act worker) job.exchange status body
  /-- The request is given up. -/
  | fallback (s : Step) (number : Nat) : Writes y s number .internalError Exchange.fallbackBody

/-- Every move delivers replies of its step, written under the conditions before the
    move. -/
theorem delivers_writes_of_move (h : Move y s out)
    (hP : ∀ (number : Nat) (x : Exchange) (status : Http.Status) (body : ByteArray),
      Writes y s number status body → P number (x.replyWith y.service.conditions status body)) :
    Service.Delivers P y.service out.1.service out.2 := by
  -- Whatever a move does before it gives a request up, the reply is built under the same
  -- conditions.
  have hfallback : ∀ service : Service, service.conditions = y.service.conditions →
      ∀ (number : Nat) (x : Exchange), P number (x.replyWith service.conditions .internalError
        Exchange.fallbackBody) := fun service hsame number x => by
    rw [hsame]
    exact hP number x _ _ (.fallback s number)
  have hanswered : ∀ number status body,
      (y.service.answer number status body).1.conditions = y.service.conditions :=
    fun number status body => Service.conditions_of_frame (y.service.answer_frame number status body)
  cases h with
  | arrive head body stage => exact Service.delivers_openExchange y.service head body
  | load number stage => exact Service.delivers_of_same rfl rfl
  | lose number callback stage unknown =>
      exact delivers_letGo y.service (hfallback y.service rfl) (Service.delivers_of_same rfl rfl)
  | refuse number callback x status first stage opened away silent =>
      refine delivers_letGo y.service (hfallback _ (hanswered number status _))
        (Service.delivers_append_left ?_ silent)
      exact Service.delivers_answer y.service number status _ fun z _ =>
        hP number z status _ (.gate number callback x status stage away)
  | accept number allow x handler subpath first stage opened passes silent =>
      exact delivers_letGo y.service (hfallback y.service rfl) (Service.delivers_of_same rfl silent)
  | enqueue job stage room =>
      exact delivers_letGo y.service (hfallback _ rfl) (Service.delivers_of_same rfl rfl)
  | overload job stage full =>
      refine delivers_letGo y.service (hfallback _ (hanswered job.exchange _ _))
        (Service.delivers_append_left ?_ rfl)
      exact Service.delivers_answer y.service job.exchange _ _ fun z _ =>
        hP job.exchange z _ _ (.overload job stage full)
  | exit worker stage idle =>
      exact delivers_letGo y.service (hfallback _ rfl) (Service.delivers_of_same rfl rfl)
  | begin worker job rest stage runs items => exact Service.delivers_of_same rfl rfl
  | perform worker job action rest stage sound =>
      exact Service.delivers_act y.service job action fun x status body hreply =>
        hP job.exchange x status body (.action worker job action rest x status body stage hreply)
  | fail worker job action rest fault stage failed =>
      -- The failing action may have replied before it failed, and only then the request is given
      -- up.
      have hacted : Service.Delivers P y.service (y.service.act job action).1
          (y.service.act job action).2.2 :=
        Service.delivers_act y.service job action fun x status body hreply =>
          hP job.exchange x status body (.action worker job action rest x status body stage hreply)
      have hsame := Service.conditions_of_frame (y.service.act_frame job action)
      exact Service.delivers_trans hacted
        (delivers_conclude (y := { y with service := (y.service.act job action).1 }) worker job
          (some fault) (hfallback _ hsame))
  | finish worker job stage => exact delivers_conclude worker job none (hfallback y.service rfl)
  | refuseAll stage =>
      exact delivers_letGo y.service (hfallback _ rfl) (Service.delivers_of_same rfl rfl)
  | stopQueue stage => exact Service.delivers_of_same rfl rfl
  | requestShutdown stage =>
      exact Service.delivers_of_same rfl (Service.replies_requestShutdown y.service)
  | joinWorkers stage exited => exact Service.delivers_of_same rfl rfl
  | empty stage => exact Service.delivers_of_same rfl rfl
  | giveUp job rest stage =>
      exact Service.delivers_giveUp y.service job.exchange fun x _ =>
        hfallback y.service rfl job.exchange x
  | drop stage => exact delivers_letGo y.service (hfallback _ rfl) (Service.delivers_of_same rfl rfl)
  | joinReactor stage idle => exact Service.delivers_of_same rfl rfl
  | leave number => exact Service.delivers_disconnect y.service number
  | register m handler => exact Service.delivers_of_same rfl rfl
  | unregister m =>
      exact Service.delivers_of_same rfl (Service.replies_unregister y.service m)

/-- What a step replies is due. -/
theorem due_of_writes {number : Nat} {status : Http.Status} {body : ByteArray} (hy : Staged y)
    (h : Writes y s number status body) (c : Conditions) (x : Exchange) :
    (x.replyWith c status body).Due y.begun number := by
  cases h with
  | gate number callback z status stage away =>
      exact Or.inl (Service.gated_of_turnsAway y.service c callback z x status away)
  | overload job stage full => exact Or.inl (Or.inr ⟨rfl, rfl⟩)
  | action worker job action rest z status body stage hreply =>
      -- The action is one of the handler's, and the job was begun.
      rcases hy.serving job _ (List.mem_of_getElem? stage) with ⟨hbegun, hsuffix⟩
      have haction := hsuffix.subset List.mem_cons_self
      exact Or.inr (Or.inr ⟨job, hbegun, rfl, action, haction, z, hreply⟩)
  | fallback s number => exact Reply.due_fallback y.begun number c x

/-- Every move delivers replies that are due and that are written under the conditions
    before the move. -/
theorem delivers_written_of_move (h : Move y s out) (hy : Staged y)
    (hP : ∀ (number : Nat) (x : Exchange) (status : Http.Status) (body : ByteArray),
      (x.replyWith y.service.conditions status body).Due y.begun number →
        P number (x.replyWith y.service.conditions status body)) :
    Service.Delivers P y.service out.1.service out.2 :=
  delivers_writes_of_move h fun number x status body hwrites =>
    hP number x status body (due_of_writes hy hwrites y.service.conditions x)

/-- Every move delivers replies that are due. -/
theorem delivers_of_move (h : Move y s out) (hy : Staged y) :
    Service.Delivers (fun n r => r.Due y.begun n) y.service out.1.service out.2 :=
  delivers_written_of_move h hy fun _ _ _ _ hdue => hdue

theorem begun_letGo (y : System) (told : List Observation) :
    y.begun <+: (letGo y told).1.begun := by
  rcases dropUnheld_frame y with ⟨service, hd, _⟩
  simp only [letGo, hd]
  exact List.prefix_refl _

/-- The jobs begun only become more. -/
theorem begun_of_move (h : Move y s out) : y.begun <+: out.1.begun := by
  cases h with
  | begin worker job rest stage runs items => exact List.prefix_append _ _
  | lose number callback stage unknown => exact begun_letGo { y with reactor := .idle } _
  | refuse number callback x status first stage opened away silent =>
      exact begun_letGo (y.turnAway number status ByteArray.empty) _
  | accept number allow x handler subpath first stage opened passes silent =>
      exact begun_letGo { y with reactor := .routed ⟨number, handler, subpath⟩ } _
  | enqueue job stage room =>
      exact begun_letGo
        { y.setItems (y.service.queue.items ++ [job]) with reactor := .idle } _
  | overload job stage full =>
      exact begun_letGo (y.turnAway job.exchange .internalError Service.overloadBody) _
  | exit worker stage idle => exact begun_letGo (y.setWorker worker .exited) _
  | refuseAll stage =>
      exact begun_letGo { y with service := y.service.stopAdmitting, owner := .refusing } _
  | drop stage => exact begun_letGo { y with owner := .dropped } _
  | _ => exact List.prefix_refl _

/-! ### At least once -/

/-- The invariant of a started server. -/
structure Sound (y : System) : Prop where
  staged : Staged y
  tidy : Tidy y
  custodial : Custodial y
  accounted : ∀ x ∈ y.service.exchanges, x.Accounted

/-- Every move keeps the invariant. -/
theorem sound_of_move (h : Move y s out) (hy : Sound y) : Sound out.1 :=
  ⟨staged_of_move h hy.staged, tidy_of_move h hy.tidy, custodial_of_move h hy.custodial,
    (delivers_of_move h hy.staged).accounted hy.accounted⟩

/-- Every run keeps the invariant and delivers replies that are due, by induction
    along its steps. What was due on the way is due in the end. -/
theorem sound_run (steps : List Step) :
    ∀ y : System, Sound y →
      Sound (y.run steps).1 ∧ y.begun <+: (y.run steps).1.begun ∧
        Service.Delivers (fun n r => r.Due (y.run steps).1.begun n) y.service
          (y.run steps).1.service (y.run steps).2 := by
  induction steps with
  | nil => exact fun y hy => ⟨hy, List.prefix_refl _, Service.delivers_of_same rfl rfl⟩
  | cons s rest ih =>
      intro y hy
      rcases run_cons y s rest with ⟨_, hrun⟩ | ⟨out, hstep, hrun⟩
      · rw [hrun]
        exact ih y hy
      · -- The first move, then the rest of the run from where it leads.
        have hmove := (move_of_step hstep).2
        rcases ih out.1 (sound_of_move hmove hy) with ⟨hsound, hbegun, hdelivers⟩
        have hprefix : y.begun <+: (out.1.run rest).1.begun :=
          (begun_of_move hmove).trans hbegun
        have hfirst := Service.delivers_mono (delivers_of_move hmove hy.staged)
          (Reply.due_of_prefix hprefix)
        rw [hrun]
        exact ⟨hsound, hprefix, Service.delivers_trans hfirst hdelivers⟩

/-- A request without a reply is pending and in one place. -/
theorem pending_of_sound (hy : Sound y) (number : Nat)
    (hopened : number < y.service.exchanges.length) (hnone : y.service.reply? number = none) :
    y.places.count number = 1 := by
  have hget := List.getElem?_eq_getElem hopened
  have hsent : y.service.exchanges[number].slot.sent? = none := by
    simpa only [Service.reply?, hget, Option.bind_some] using hnone
  have hheld := (hy.accounted _ (List.getElem_mem hopened) hsent).2
  rw [hy.custodial number, Service.isHeld, hget, Option.any_some, hheld]
  rfl

/-- A request was answered, or it is still to be. -/
theorem answered_add_unanswered (hy : Sound y) :
    y.service.answered + y.unanswered = y.service.exchanges.length := by
  rw [List.length_eq_countP_add_countP (fun x : Exchange => x.slot.sent?.isSome)]
  have hready : y.unanswered =
      y.service.exchanges.countP fun x => ¬ x.slot.sent?.isSome = true := by
    refine List.countP_congr fun x hx => ?_
    rw [decide_eq_true_iff, Bool.not_eq_true, Option.isSome_eq_false_iff, Option.isNone_iff_eq_none]
    refine ⟨fun hr => ?_, fun hnone => (hy.accounted x hx hnone).1⟩
    have htrigger := (Exchange.isPending_iff x).mp hr
    simp only [ReplySlot.sent?, htrigger]
  rw [hready]
  rfl

/-- Nothing is anywhere in a stopped server, so nothing is without a reply. -/
theorem answered_of_stopped (hy : Sound y) (ho : y.owner = .stopped) (number : Nat)
    (hopened : number < y.service.exchanges.length) :
    ∃ reply, y.service.reply? number = some reply := by
  rcases hr : y.service.reply? number with _ | reply
  · have hone := pending_of_sound hy number hopened hr
    rw [places_of_stopped hy.staged hy.tidy ho, List.count_nil] at hone
    omega
  · exact ⟨reply, rfl⟩

theorem unanswered_of_stopped (hy : Sound y) (ho : y.owner = .stopped) : y.unanswered = 0 := by
  refine List.countP_eq_zero.mpr fun x hx hready => ?_
  rcases List.mem_iff_getElem.mp hx with ⟨number, hopened, hget⟩
  rcases answered_of_stopped hy ho number hopened with ⟨reply, hr⟩
  rw [Service.reply?, List.getElem?_eq_getElem hopened, hget, Option.bind_some] at hr
  have hfired := Exchange.fired_of_sent? hr
  rw [(Exchange.isPending_iff x).mp hready] at hfired
  exact absurd hfired (by simp only [reduceCtorEq, not_false_eq_true])

/-! ### Runs of a started server -/

/-- A server that was just started, with these routes, this allow list, so many
    places in the queue and so many workers. -/
def started (routes : RouteTable Handler) (allow : AllowList) (depth : Nat) (dumps : Bool)
    (workers : Nat) : System :=
  ofService { routes, callback := .dispatch allow, queue := .ofDepth depth, dumps } workers

theorem sound_started (routes : RouteTable Handler) (allow : AllowList) (depth : Nat)
    (dumps : Bool) (workers : Nat) : Sound (started routes allow depth dumps workers) := by
  have hwaiting : ∀ w ∈ List.replicate workers WorkerStage.waiting, w = .waiting :=
    fun w hw => List.eq_of_mem_replicate hw
  refine ⟨⟨fun ho => absurd rfl ho, nofun, nofun, fun job rest hmem => ?_⟩, fun _ => rfl,
    fun number => ?_, fun x hx => absurd hx List.not_mem_nil⟩
  · exact absurd (hwaiting _ hmem) nofun
  · have hserved : (started routes allow depth dumps workers).served = [] := by
      rw [served, List.flatMap_eq_nil_iff]
      intro w hw
      rw [hwaiting w hw]
      rfl
    rw [count_places, hserved]
    rfl

/-- What a run of a server comes to: every request is answered exactly once. -/
structure AnsweredOnce (start : System) (steps : List Step) : Prop where
  /-- As many replies were sent as requests are answered, so none was answered
      twice. -/
  once : replies (start.run steps).2 = (start.run steps).1.service.answered
  /-- A reply that was sent is the reply for good, however the run goes on. -/
  kept : ∀ later number reply,
    (start.run steps).1.service.reply? number = some reply →
      (start.run (steps ++ later)).1.service.reply? number = some reply
  /-- It came from a gate, from the handler, or from giving the request up. -/
  due : ∀ number reply, (start.run steps).1.service.reply? number = some reply →
    reply.Due (start.run steps).1.begun number
  /-- A request without a reply is in exactly one place. -/
  waiting : ∀ number < (start.run steps).1.service.exchanges.length,
    (start.run steps).1.service.reply? number = none →
      (start.run steps).1.places.count number = 1
  /-- Every request was answered or is still to be. -/
  total : (start.run steps).1.service.answered + (start.run steps).1.unanswered =
    (start.run steps).1.service.exchanges.length
  /-- Once the server has stopped, every request was answered, with one reply for
      each. -/
  stopped : (start.run steps).1.owner = .stopped →
    (∀ number < (start.run steps).1.service.exchanges.length,
      ∃ reply, (start.run steps).1.service.reply? number = some reply) ∧
    replies (start.run steps).2 = (start.run steps).1.service.exchanges.length

/-- Every request is answered exactly once, for all routes, allow lists, queues and
    numbers of workers, and for every order of steps. -/
theorem answeredOnce_of_run (routes : RouteTable Handler) (allow : AllowList) (depth : Nat)
    (dumps : Bool) (workers : Nat) (steps : List Step) :
    AnsweredOnce (started routes allow depth dumps workers) steps := by
  have hstart := sound_started routes allow depth dumps workers
  rcases sound_run steps _ hstart with ⟨hsound, _, hdelivers⟩
  have honce : replies ((started routes allow depth dumps workers).run steps).2 =
      ((started routes allow depth dumps workers).run steps).1.service.answered := by
    have hcounted := hdelivers.counted
    have hzero : (started routes allow depth dumps workers).service.answered = 0 := rfl
    omega
  have htotal := answered_add_unanswered hsound
  refine ⟨honce, fun later number reply hr => ?_, fun number reply hr => ?_,
    fun number hopened hnone => pending_of_sound hsound number hopened hnone, htotal,
    fun ho => ⟨answered_of_stopped hsound ho, ?_⟩⟩
  · -- The longer run goes on from here, and what is sound here stays so.
    rw [run_append]
    exact (sound_run later _ hsound).2.2.kept number reply hr
  · -- There were no exchanges at the start, so every reply is a new one.
    exact hdelivers.fresh number reply rfl hr
  · have hnone := unanswered_of_stopped hsound ho
    omega

/-- A request is screened before the server is interrupted, and its job is queued
    after the owner has emptied the queue and let go of it. -/
def lateArrival : List Step :=
  [.arrive ⟨⟨.v4 Address.loopback4, 4000, 0⟩, .get, "/", []⟩ ByteArray.empty, .load, .screen,
    .advance, .advance, .advance, .take 0, .advance, .advance, .advance, .enqueue, .advance]

/-- The request whose job comes late is answered when the queue is given up. -/
theorem answeredOnce_late :
    ((started ⟨[(⟨"/", .leading⟩, [])]⟩ .standard 1 false 1).run lateArrival).1.owner = .stopped ∧
      ((started ⟨[(⟨"/", .leading⟩, [])]⟩ .standard 1 false 1).run
        lateArrival).1.service.exchanges.length = 1 ∧
      replies ((started ⟨[(⟨"/", .leading⟩, [])]⟩ .standard 1 false 1).run lateArrival).2 = 1 := by
  have hstopped : ((started ⟨[(⟨"/", .leading⟩, [])]⟩ .standard 1 false 1).run
      lateArrival).1.owner = .stopped := by
    rfl
  have hopened : ((started ⟨[(⟨"/", .leading⟩, [])]⟩ .standard 1 false 1).run
      lateArrival).1.service.exchanges.length = 1 := by
    rfl
  have honce := answeredOnce_of_run ⟨[(⟨"/", .leading⟩, [])]⟩ .standard 1 false 1 lateArrival
  exact ⟨hstopped, hopened, (honce.stopped hstopped).2.trans hopened⟩

end System

end ControlPlane
