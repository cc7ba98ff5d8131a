import ControlPlane.Proofs.System.Interrupt

/-!
# What an Interrupt Cuts Off

An interrupt draws a line through the requests, although it takes several steps and
everybody else moves meanwhile. A job that is in the queue when the queue is stopped,
or that gets there later because its request was screened before, is never begun. It
stays where it is until the owner empties the queue or the last holder lets go of it,
and either way its request is given up unanswered and untouched, while the server is
closing. So it gets the fallback reply and the request to close the connection, and
nothing else.

A request whose callback is loaded after the interrupt is refused and never gets
further than that. And whoever replies to anything after the interrupt asks to close
the connection, with the last header field.

Each of these is a property that no move takes away, once it holds. What brings it
about is the state at one moment, and that the request is untouched then.

## Main definitions

* `Reply.abandoned`, `Reply.refused`: The replies of requests that are cut off.
* `System.Abandoned`: A request that no worker will serve any more.
* `System.Refused`: A request that was refused, or will be.
* `System.CutOff`: What runs of a server come to after an interrupt.

## Theorems

* `waits_of_move`: A job in a stopped queue waits or is given up.
* `abandoned_of_move`, `abandoned_run`: An abandoned request stays abandoned.
* `reply_of_abandoned`: Once the server has stopped, it has its reply.
* `refused_of_move`, `refused_run`: A refused request stays refused.
* `not_queued_of_refused`: It is not in the queue.
* `cutOff_of_run`: What an interrupt cuts off.
* `cutOff_while_emptying`: A run with jobs in the queue, a late one and a late request.
-/

namespace ControlPlane

open Telemetry (Observation)

/-- The reply to a request that is given up while the server is closing. -/
def Reply.abandoned : Reply :=
  ⟨.internalError, [Http.closeField], Exchange.fallbackBody⟩

/-- The reply to a request that is refused while the server is closing. -/
def Reply.refused : Reply :=
  ⟨.unavailable, [Http.closeField], ByteArray.empty⟩

namespace System

variable {y : System} {s : Step} {out : System × List Observation} {number : Nat}

theorem replyWith_abandoned {c : Conditions} (closing : c.closing = true) (head : RequestHead)
    (body : ByteArray) (waiter : Waiter) :
    (Exchange.untouched head body waiter).replyWith c .internalError Exchange.fallbackBody =
      Reply.abandoned := by
  rw [Exchange.replyWith_untouched, Conditions.fields, if_pos closing]
  rfl

theorem replyWith_refused {c : Conditions} (closing : c.closing = true) (head : RequestHead)
    (body : ByteArray) (waiter : Waiter) :
    (Exchange.untouched head body waiter).replyWith c .unavailable ByteArray.empty =
      Reply.refused := by
  rw [Exchange.replyWith_untouched, Conditions.fields, if_pos closing]
  rfl

/-! ### Jobs in a stopped queue -/

/-- The requests whose jobs are in the queue or were taken out of it by the owner. -/
def waiting (y : System) : List Nat :=
  y.queued ++ y.owner.places

/-- A request that no worker will serve any more: its job waits in a stopped queue, or
    it was given up. -/
structure Abandoned (number : Nat) (y : System) : Prop where
  stopped : y.owner.hasStopped = true
  unbegun : y.Unbegun number
  waits : number ∈ y.waiting ∨ y.service.reply? number = some Reply.abandoned

theorem awaiting_of_waiting (h : number ∈ y.waiting) : number ∈ y.awaiting := by
  rw [awaiting, List.append_assoc]
  exact List.mem_append_right _ h

/-- A request that waits behind the reactor is not the one in its hands. -/
theorem ne_of_waiting (hcustody : Custodial y) (h : number ∈ y.waiting) {other : Nat}
    (hreactor : y.reactor.places = [other]) : number ≠ other := by
  intro heq
  have hcount := hcustody number
  have hle := Bool.toNat_le (y.service.isHeld number)
  have hpos := List.count_pos_iff.mpr h
  have hone : y.reactor.places.count number = 1 := by
    rw [hreactor, heq]
    exact List.count_singleton_self
  rw [waiting, List.count_append] at hpos
  rw [count_places] at hcount
  omega

/-- Whoever is the last to let go of the queue gives up the jobs in it. The owner has let
    go before, after the interrupt. -/
theorem waits_letGo {z : System} {head : RequestHead} {body : ByteArray} {waiter : Waiter}
    (hmid : z.owner.hasInterrupted = true → z.service.closing = true)
    (h : number ∈ z.waiting)
    (hx : z.service.exchanges[number]? = some (.untouched head body waiter))
    (told : List Observation) :
    number ∈ (letGo z told).1.waiting ∨
      (letGo z told).1.service.reply? number = some Reply.abandoned := by
  rcases dropUnheld_cases z with ⟨_, hd⟩ | ⟨hfree, hd⟩
  · left
    simp only [letGo, hd]
    exact h
  · right
    have howner := ((holders_eq_zero_iff z).mp hfree).1
    have hclosing : z.service.conditions.closing = true :=
      hmid (OwnerStage.hasInterrupted_of_holds howner)
    have hnone : z.owner.places = [] := by
      cases ho : z.owner with
      | releasing jobs =>
          rw [ho] at howner
          exact absurd howner.symm Bool.false_ne_true
      | _ => rfl
    rw [waiting, hnone, List.append_nil] at h
    have hgiven := Service.reply?_giveUpAll (Exchange.isPending_untouched head body waiter)
      z.service.queue.items { z.service with queue := { z.service.queue with items := [] } }
      hx h
    simp only [letGo, hd]
    exact hgiven.trans (congrArg some (replyWith_abandoned hclosing head body waiter))

/-- Turning another request away leaves those in the queue alone. -/
theorem waits_turnAway (hy : Firm y) (hwaits : number ∈ y.waiting) {other : Nat}
    (hreactor : y.reactor.places = [other]) (status : Http.Status) (body : ByteArray)
    (told : List Observation) :
    number ∈ (letGo (y.turnAway other status body) told).1.waiting ∨
      (letGo (y.turnAway other status body) told).1.service.reply? number =
        some Reply.abandoned := by
  rcases (untouched_of_awaiting hy.sound.custodial hy.intact (awaiting_of_waiting hwaits)).2 with
    ⟨head, text, waiter, hx⟩
  have hframe := y.service.answer_frame other status body
  have hclosing := congrArg Conditions.closing (Service.conditions_of_frame hframe)
  have hne := ne_of_waiting hy.sound.custodial hwaits hreactor
  refine waits_letGo (z := y.turnAway other status body)
    (fun h => hclosing.trans (hy.switched.closing h)) ?_
    ((Service.getElem?_answer_ne y.service status body hne).trans hx) told
  have hqueued : (y.turnAway other status body).queued = y.queued :=
    queued_of_frame (Service.queue_of_frame hframe)
  rw [waiting, hqueued]
  exact hwaits

/-- A job in a stopped queue waits there or with the owner, or its request was given up
    in this move. -/
theorem waits_of_move (hy : Firm y) (h : Move y s out) (stopped : y.owner.hasStopped = true)
    (hwaits : number ∈ y.waiting) :
    number ∈ out.1.waiting ∨ out.1.service.reply? number = some Reply.abandoned := by
  rcases (untouched_of_awaiting hy.sound.custodial hy.intact (awaiting_of_waiting hwaits)).2 with
    ⟨head, body, waiter, hx⟩
  have hclosing := hy.switched.closing
  -- Moves that leave the queue as it is, in the form in which the service gives it.
  have hsame : ∀ y' : System, y'.owner = y.owner → y'.service.queue = y.service.queue →
      number ∈ y'.waiting := fun y' howner hqueue => by
    rw [waiting, howner, queued_of_frame hqueue]
    exact hwaits
  cases h with
  | lose other callback stage unknown =>
      exact waits_letGo (z := { y with reactor := .idle }) hclosing hwaits hx _
  | refuse other callback x status first stage opened away silent =>
      exact waits_turnAway hy hwaits (by rw [stage]; rfl) status _ _
  | accept other allow x handler subpath first stage opened passes silent =>
      exact waits_letGo (z := { y with reactor := .routed ⟨other, handler, subpath⟩ }) hclosing
        hwaits hx _
  | enqueue job stage room =>
      refine waits_letGo
        (z := { y.setItems (y.service.queue.items ++ [job]) with reactor := .idle }) hclosing ?_ hx _
      -- One more job behind the others.
      rw [waiting, queued_enqueue]
      rcases List.mem_append.mp hwaits with hqueued | howner
      · exact List.mem_append_left _ (List.mem_append_left _ hqueued)
      · exact List.mem_append_right _ howner
  | overload job stage full => exact waits_turnAway hy hwaits (by rw [stage]; rfl) _ _ _
  | exit worker stage idle =>
      exact waits_letGo (z := y.setWorker worker .exited) hclosing hwaits hx _
  | begin worker job rest stage runs items =>
      exact absurd ((hy.switched.halted stopped).symm.trans runs) Bool.false_ne_true
  | perform worker job action rest stage sound =>
      exact Or.inl (hsame _ rfl (Service.queue_of_frame (y.service.act_frame job action)))
  | fail worker job action rest fault stage failed =>
      have hacted := Service.queue_of_frame (y.service.act_frame job action)
      have hgiven := Service.queue_of_frame
        ((y.service.act job action).1.giveUp_frame job.exchange)
      exact Or.inl (hsame _ rfl (hgiven.trans hacted))
  | finish worker job stage =>
      exact Or.inl (hsame _ rfl (Service.queue_of_frame (y.service.giveUp_frame job.exchange)))
  | refuseAll stage =>
      rw [stage] at stopped
      exact absurd stopped Bool.false_ne_true
  | stopQueue stage =>
      rw [stage] at stopped
      exact absurd stopped Bool.false_ne_true
  | requestShutdown stage =>
      rw [waiting, stage] at hwaits
      exact Or.inl hwaits
  | joinWorkers stage exited =>
      rw [waiting, stage] at hwaits
      exact Or.inl hwaits
  | empty stage =>
      -- The owner takes the jobs into its own hands.
      rw [waiting, stage] at hwaits
      rcases List.mem_append.mp hwaits with hqueued | hnone
      · exact Or.inl hqueued
      · exact absurd hnone List.not_mem_nil
  | giveUp job rest stage =>
      have hqueue := Service.queue_of_frame (y.service.giveUp_frame job.exchange)
      by_cases heq : number = job.exchange
      · right
        rw [heq] at hx ⊢
        have hinterrupted : y.service.conditions.closing = true := hclosing (by rw [stage]; rfl)
        have hgiven := Service.reply?_giveUp hx (Exchange.isPending_untouched head body waiter)
        exact hgiven.trans (congrArg some (replyWith_abandoned hinterrupted head body waiter))
      · left
        rw [waiting, stage] at hwaits
        rw [waiting, queued_of_frame (y := y) hqueue]
        rcases List.mem_append.mp hwaits with hqueued | howner
        · exact List.mem_append_left _ hqueued
        · rcases List.mem_cons.mp howner with hhere | hlater
          · exact absurd hhere heq
          · exact List.mem_append_right _ hlater
  | drop stage =>
      have hinterrupted := hclosing (by rw [stage]; rfl)
      rw [waiting, stage] at hwaits
      exact waits_letGo (z := { y with owner := .dropped }) (fun _ => hinterrupted) hwaits hx _
  | joinReactor stage idle =>
      rw [waiting, stage] at hwaits
      exact Or.inl hwaits
  | leave other =>
      exact Or.inl (hsame _ rfl (Service.queue_of_frame (y.service.disconnect_frame other)))
  | _ => exact Or.inl hwaits

/-- An abandoned request stays abandoned. -/
theorem abandoned_of_move (hy : Firm y) (h : Move y s out) (ha : Abandoned number y) :
    Abandoned number out.1 := by
  have hbegun := begun_of_stopped h (hy.switched.halted ha.stopped)
  refine ⟨(stage_of_move h).1 ha.stopped, fun job hmem => ?_, ?_⟩
  · rw [hbegun] at hmem
    exact ha.unbegun job hmem
  · rcases ha.waits with hwaits | hreply
    · exact waits_of_move hy h ha.stopped hwaits
    · exact Or.inr ((delivers_of_move h hy.sound.staged).kept number _ hreply)

theorem abandoned_run (hy : Firm y) (ha : Abandoned number y) (steps : List Step) :
    Firm (y.run steps).1 ∧ Abandoned number (y.run steps).1 :=
  run_preserves (fun _ _ _ hy h ha => abandoned_of_move hy h ha) steps y hy ha

/-- A job in a stopped queue is abandoned. -/
theorem abandoned_of_queued (hy : Firm y) (stopped : y.owner.hasStopped = true) {job : Job}
    (hmem : job ∈ y.service.queue.items) : Abandoned job.exchange y := by
  have hwaits : job.exchange ∈ y.waiting := List.mem_append_left _ (List.mem_map_of_mem hmem)
  have hfree := untouched_of_awaiting hy.sound.custodial hy.intact (awaiting_of_waiting hwaits)
  exact ⟨stopped, hfree.1, Or.inl hwaits⟩

/-- So is a job that finds room in a stopped queue, even if nobody holds that queue any
    more afterwards. -/
theorem abandoned_of_enqueue (hy : Firm y) (stopped : y.owner.hasStopped = true) {job : Job}
    (stage : y.reactor = .routed job) (room : y.service.queue.size < y.service.queue.depth)
    (h : Move y .enqueue out) : Abandoned job.exchange out.1 := by
  have hplace : job.exchange ∈ y.awaiting := by
    rw [awaiting, stage]
    exact List.mem_cons_self
  rcases untouched_of_awaiting hy.sound.custodial hy.intact hplace with
    ⟨hunbegun, head, body, waiter, hx⟩
  have hbegun := begun_of_stopped h (hy.switched.halted stopped)
  refine ⟨(stage_of_move h).1 stopped, fun other hmem => ?_, ?_⟩
  · rw [hbegun] at hmem
    exact hunbegun other hmem
  · cases h with
    | enqueue other stage' room' =>
        have hsame : other = job := ReactorStage.routed.inj (stage'.symm.trans stage)
        rw [hsame]
        refine waits_letGo
          (z := { y.setItems (y.service.queue.items ++ [job]) with reactor := .idle })
          hy.switched.closing ?_ hx _
        rw [waiting, queued_enqueue]
        exact List.mem_append_left _ (List.mem_append_right _ (List.mem_singleton_self _))
    | overload other stage' full => exact absurd room (Nat.not_lt_of_le full)

/-- Nothing waits in a stopped server, so an abandoned request was given up. -/
theorem reply_of_abandoned (hy : Firm y) (ha : Abandoned number y) (ho : y.owner = .stopped) :
    y.service.reply? number = some Reply.abandoned := by
  have hplaces := places_of_stopped hy.sound.staged hy.sound.tidy ho
  rcases ha.waits with hwaits | hreply
  · have hcount := count_awaiting y number
    have hpos := List.count_pos_iff.mpr (awaiting_of_waiting hwaits)
    rw [hplaces, List.count_nil] at hcount
    omega
  · exact hreply

/-! ### Requests after the interrupt -/

/-- A request that was refused, or that the reactor is about to refuse. -/
structure Refused (number : Nat) (y : System) : Prop where
  interrupted : y.owner.hasInterrupted = true
  held : y.reactor = .loaded number .reject ∨
    (y.service.reply? number = some Reply.refused ∧ y.service.isHeld number = false)

theorem letGo_reactor (mid : System) (told : List Observation) :
    (letGo mid told).1.reactor = mid.reactor := by
  rcases dropUnheld_frame mid with ⟨service, hd, _⟩
  simp only [letGo, hd]

theorem reply?_letGo {mid : System} {reply : Reply} (h : mid.service.reply? number = some reply)
    (told : List Observation) : (letGo mid told).1.service.reply? number = some reply := by
  rcases dropUnheld_cases mid with ⟨_, hd⟩ | ⟨_, hd⟩
  · simp only [letGo, hd]
    exact h
  · simp only [letGo, hd]
    exact (Service.delivers_release (P := fun _ _ => True) mid.service fun _ _ => trivial).kept
      number reply h

/-- Turning a request away that nobody has touched gives it just that reply. -/
theorem refused_turnAway (hy : Firm y) (hinterrupted : y.owner.hasInterrupted = true)
    (stage : y.reactor = .loaded number .reject) (told : List Observation) :
    (letGo (y.turnAway number .unavailable ByteArray.empty) told).1.service.reply? number =
        some Reply.refused ∧
      (letGo (y.turnAway number .unavailable ByteArray.empty) told).1.service.isHeld number =
        false := by
  have hplace : number ∈ y.awaiting := by
    rw [awaiting, stage]
    exact List.mem_cons_self
  rcases untouched_of_awaiting hy.sound.custodial hy.intact hplace with
    ⟨_, head, body, waiter, hx⟩
  have hclosing : y.service.conditions.closing = true := hy.switched.closing hinterrupted
  constructor
  · refine reply?_letGo ?_ told
    have hanswer := Service.reply?_answer hx (Exchange.isPending_untouched head body waiter)
      .unavailable ByteArray.empty
    exact hanswer.trans (congrArg some (replyWith_refused hclosing head body waiter))
  · refine Bool.eq_false_iff.mpr fun hheld => ?_
    have hmid := isHeld_letGo hheld
    have hgiven := Service.isHeld_answer y.service number .unavailable ByteArray.empty number
    rw [decide_eq_true rfl] at hgiven
    exact Bool.false_ne_true (hgiven.symm.trans hmid)

/-- A refused request stays refused. -/
theorem refused_of_move (hy : Firm y) (h : Move y s out) (hr : Refused number y) :
    Refused number out.1 := by
  refine ⟨(stage_of_move h).2 hr.interrupted, ?_⟩
  rcases hr.held with hloaded | ⟨hreply, hfree⟩
  · -- The reactor refuses it in its next move, and the others move without it.
    cases h with
    | arrive head body stage =>
        rw [stage] at hloaded
        simp only [reduceCtorEq] at hloaded
    | load other stage =>
        rw [stage] at hloaded
        simp only [reduceCtorEq] at hloaded
    | lose other callback stage unknown =>
        have hplace : other ∈ y.awaiting := by
          rw [awaiting, stage]
          exact List.mem_cons_self
        have hlt := Service.lt_of_isHeld (held_of_awaiting hy.sound.custodial hplace).1
        exact absurd (List.getElem?_eq_none_iff.mp unknown) (Nat.not_le_of_lt hlt)
    | refuse other callback x status first stage opened away silent =>
        have hsame := ReactorStage.loaded.inj (stage.symm.trans hloaded)
        rw [hsame.2] at away
        have hstatus : status = .unavailable := away
        right
        rw [hsame.1, hstatus]
        exact refused_turnAway hy hr.interrupted hloaded _
    | accept other allow x handler subpath first stage opened passes silent =>
        rw [stage] at hloaded
        simp only [ReactorStage.loaded.injEq, reduceCtorEq, and_false] at hloaded
    | enqueue job stage room =>
        rw [stage] at hloaded
        simp only [reduceCtorEq] at hloaded
    | overload job stage full =>
        rw [stage] at hloaded
        simp only [reduceCtorEq] at hloaded
    | exit worker stage idle =>
        left
        rw [letGo_reactor]
        exact hloaded
    | refuseAll stage =>
        left
        rw [letGo_reactor]
        exact hloaded
    | drop stage =>
        left
        rw [letGo_reactor]
        exact hloaded
    | joinReactor stage idle =>
        rw [idle] at hloaded
        simp only [reduceCtorEq] at hloaded
    | _ => exact Or.inl hloaded
  · right
    refine ⟨(delivers_of_move h hy.sound.staged).kept number _ hreply, ?_⟩
    refine Bool.eq_false_iff.mpr fun hheld => ?_
    have hbefore := isHeld_of_move h number (Service.lt_of_reply? hreply) hheld
    exact Bool.false_ne_true (hfree.symm.trans hbefore)

theorem refused_run (hy : Firm y) (hr : Refused number y) (steps : List Step) :
    Firm (y.run steps).1 ∧ Refused number (y.run steps).1 :=
  run_preserves (fun _ _ _ hy h hr => refused_of_move hy h hr) steps y hy hr

/-- A refused request is not in the queue: it is with the reactor, or nowhere. -/
theorem not_queued_of_refused (hy : Firm y) (hr : Refused number y) : number ∉ y.queued := by
  intro hmem
  have hcount := hy.sound.custodial number
  have hle := Bool.toNat_le (y.service.isHeld number)
  have hpos := List.count_pos_iff.mpr hmem
  rw [count_places] at hcount
  rcases hr.held with hloaded | ⟨_, hfree⟩
  · have hone : y.reactor.places.count number = 1 := by
      rw [hloaded]
      exact List.count_singleton_self
    omega
  · rw [hfree, Bool.toNat_false] at hcount
    omega

/-! ### Runs of a started server -/

/-- What runs of a server come to after an interrupt. -/
structure CutOff (start : System) (steps : List Step) : Prop where
  /-- A job in the queue after it was stopped is never begun. Once the server has
      stopped, its request has the fallback reply. -/
  queued : let y := (start.run steps).1
    y.owner.hasStopped = true → ∀ job ∈ y.service.queue.items, ∀ later,
      let z := (y.run later).1
      z.Unbegun job.exchange ∧
        (z.owner = .stopped → z.service.reply? job.exchange = some Reply.abandoned)
  /-- The same holds for a job that is put into the queue after that. -/
  late : let y := (start.run steps).1
    y.owner.hasStopped = true → ∀ job out, y.reactor = .routed job →
      y.service.queue.size < y.service.queue.depth → y.step .enqueue = some out → ∀ later,
      let z := (out.1.run later).1
      z.Unbegun job.exchange ∧
        (z.owner = .stopped → z.service.reply? job.exchange = some Reply.abandoned)
  /-- A request for which the callback is loaded after the interrupt never gets into the
      queue. It is refused as soon as the reactor goes on with it, and so it has been once
      the server has stopped. -/
  refused : let y := (start.run steps).1
    y.owner.hasInterrupted = true → ∀ number out, y.reactor = .opened number →
      y.step .load = some out → ∀ later,
      let z := (out.1.run later).1
      number ∉ z.queued ∧
        (z.reactor = .loaded number .reject ∨ z.service.reply? number = some Reply.refused) ∧
        (z.owner = .stopped → z.service.reply? number = some Reply.refused)
  /-- Every reply that is sent after the interrupt asks to close the connection, in its
      last header field. -/
  closed : let y := (start.run steps).1
    y.owner.hasInterrupted = true → ∀ later number reply, y.service.reply? number = none →
      (y.run later).1.service.reply? number = some reply →
        reply.headers.getLast? = some Http.closeField

/-- What an interrupt cuts off, for all routes, allow lists, queues and numbers of
    workers, and for every order of steps. -/
theorem cutOff_of_run (routes : RouteTable Handler) (allow : AllowList) (depth : Nat)
    (dumps : Bool) (workers : Nat) (steps : List Step) :
    CutOff (started routes allow depth dumps workers) steps := by
  have hfirm := firm_run steps (firm_started routes allow depth dumps workers)
  constructor
  case queued =>
    intro y stopped job hmem later
    rcases abandoned_run hfirm (abandoned_of_queued hfirm stopped hmem) later with ⟨hlater, ha⟩
    exact ⟨ha.unbegun, reply_of_abandoned hlater ha⟩
  case late =>
    intro y stopped job out stage room hstep later
    have hmove := (move_of_step hstep).2
    have hstart := abandoned_of_enqueue hfirm stopped stage room hmove
    rcases abandoned_run (firm_of_move hmove hfirm) hstart later with ⟨hlater, ha⟩
    exact ⟨ha.unbegun, reply_of_abandoned hlater ha⟩
  case refused =>
    intro y interrupted number out stage hstep later
    have hmove := (move_of_step hstep).2
    have hstart : Refused number out.1 := by
      refine ⟨(stage_of_move hmove).2 interrupted, Or.inl ?_⟩
      cases hmove with
      | load other stage' =>
          -- The callback of the moment refuses.
          have hsame := ReactorStage.opened.inj (stage'.symm.trans stage)
          have hrefuses := hfirm.sound.staged.refusing fun ho => by
            have hnot : OwnerStage.running.hasInterrupted = true := ho ▸ interrupted
            exact Bool.false_ne_true hnot
          simp only [hsame]
          exact congrArg (ReactorStage.loaded number) hrefuses
    rcases refused_run (firm_of_move hmove hfirm) hstart later with ⟨hlater, hr⟩
    refine ⟨not_queued_of_refused hlater hr, ?_, fun ho => ?_⟩
    · rcases hr.held with hloaded | ⟨hreply, _⟩
      · exact Or.inl hloaded
      · exact Or.inr hreply
    · rcases hr.held with hloaded | ⟨hreply, _⟩
      · rw [hlater.sound.staged.joined ho] at hloaded
        simp only [reduceCtorEq] at hloaded
      · exact hreply
  case closed =>
    intro y interrupted later number reply hnone hreply
    exact (closes_run later y hfirm interrupted).fresh number reply hnone hreply

/-- A server with one worker and room for three jobs, which serves every request alike. -/
def obliging : System :=
  started ⟨[(⟨"/", .leading⟩, [.reply .ok "done".toUTF8])]⟩ .standard 3 false 1

/-- A request arrives from this port. -/
def calling (port : UInt16) : Step :=
  .arrive ⟨⟨.v4 Address.loopback4, port, 0⟩, .get, "/", []⟩ ByteArray.empty

/-- A request is being served, two wait in the queue, and a fourth has been screened when
    the queue is stopped. -/
def filling : List Step :=
  [calling 4000, .load, .screen, .enqueue, .take 0, calling 4001, .load, .screen, .enqueue,
    calling 4002, .load, .screen, .enqueue, calling 4003, .load, .screen, .advance, .advance]

/-- The interrupt is completed and the worker serves the first request to its end. The
    owner takes the two jobs out of the queue. -/
def emptying : List Step :=
  [.advance, .act 0, .act 0, .take 0, .advance, .advance]

/-- The owner gives these jobs up, and a fifth request arrives. -/
def relinquishing : List Step :=
  [.advance, .advance, calling 4004]

/-- The fifth request is screened, and the owner lets go of the queue. -/
def parting : List Step :=
  [.screen, .advance, .advance]

/-- From the start to the end of a stop. The job of the fourth request is queued after the
    queue was emptied, and the callback of the fifth is loaded after that. -/
def closingDown : List Step :=
  filling ++ (emptying ++ .enqueue :: (relinquishing ++ .load :: parting))

/-- The two requests that wait and the one that is queued late are given up, and the last
    one is refused. The first one has its own reply, and closes the connection, too. -/
theorem cutOff_while_emptying :
    (obliging.run filling).1.queued = [1, 2] ∧
      (obliging.run closingDown).1.owner = .stopped ∧
      (∀ number ∈ [1, 2, 3], (obliging.run closingDown).1.Unbegun number ∧
        (obliging.run closingDown).1.service.reply? number = some Reply.abandoned) ∧
      (obliging.run closingDown).1.service.reply? 4 = some Reply.refused ∧
      ∃ reply, (obliging.run closingDown).1.service.reply? 0 = some reply ∧
        reply.status = .ok ∧ reply.headers.getLast? = some Http.closeField := by
  have hqueued : (obliging.run filling).1.queued = [1, 2] := by
    rfl
  have hstopped : (obliging.run closingDown).1.owner = .stopped := by
    rfl
  have hcut (steps : List Step) : CutOff obliging steps :=
    cutOff_of_run ⟨[(⟨"/", .leading⟩, [.reply .ok "done".toUTF8])]⟩ .standard 3 false 1 steps
  -- The requests whose jobs are in the queue when it is stopped.
  have hwaiting : ∀ number ∈ [1, 2], (obliging.run closingDown).1.Unbegun number ∧
      (obliging.run closingDown).1.service.reply? number = some Reply.abandoned := by
    intro number hmem
    rw [← hqueued] at hmem
    rcases List.mem_map.mp hmem with ⟨job, hjob, rfl⟩
    have hgiven := (hcut filling).queued (by rfl) job hjob
      (emptying ++ .enqueue :: (relinquishing ++ .load :: parting))
    rw [← congrArg Prod.fst (run_append filling _ obliging), ← closingDown] at hgiven
    exact ⟨hgiven.1, hgiven.2 hstopped⟩
  -- The request whose job gets there later.
  have hlate : (obliging.run closingDown).1.Unbegun 3 ∧
      (obliging.run closingDown).1.service.reply? 3 = some Reply.abandoned := by
    have htaken : ((obliging.run (filling ++ emptying)).1.step .enqueue).isSome = true := by
      rfl
    rcases Option.isSome_iff_exists.mp htaken with ⟨out, hstep⟩
    have hgiven := (hcut (filling ++ emptying)).late (by rfl)
      ⟨3, [.reply .ok "done".toUTF8], ""⟩ out (by decide +kernel) (by decide) hstep
      (relinquishing ++ .load :: parting)
    rw [← run_append_cons _ _ hstep, List.append_assoc, ← closingDown] at hgiven
    exact ⟨hgiven.1, hgiven.2 hstopped⟩
  -- The request whose callback is loaded after the interrupt.
  have hrefused : (obliging.run closingDown).1.service.reply? 4 = some Reply.refused := by
    have hsplit : closingDown =
        (filling ++ (emptying ++ .enqueue :: relinquishing)) ++ .load :: parting := by
      rfl
    have htaken : ((obliging.run (filling ++ (emptying ++ .enqueue :: relinquishing))).1.step
        .load).isSome = true := by
      rfl
    rcases Option.isSome_iff_exists.mp htaken with ⟨out, hstep⟩
    have hgiven := (hcut (filling ++ (emptying ++ .enqueue :: relinquishing))).refused
      (by rfl) 4 out (by rfl) hstep parting
    rw [← run_append_cons _ _ hstep, ← hsplit] at hgiven
    exact hgiven.2.2 hstopped
  -- The request that is being served at the interrupt.
  have hclosed : ∃ reply, (obliging.run closingDown).1.service.reply? 0 = some reply ∧
      reply.status = .ok ∧ reply.headers.getLast? = some Http.closeField := by
    have hsplit : closingDown = (filling ++ [.advance]) ++
        (emptying.tail ++ .enqueue :: (relinquishing ++ .load :: parting)) := by
      rfl
    have hserved : ((obliging.run closingDown).1.service.reply? 0).map (·.status) = some .ok := by
      rfl
    rcases Option.map_eq_some_iff.mp hserved with ⟨reply, hreply, hok⟩
    have hlast := (hcut (filling ++ [.advance])).closed (by rfl)
      (emptying.tail ++ .enqueue :: (relinquishing ++ .load :: parting)) 0 reply (by rfl)
    rw [← congrArg Prod.fst (run_append _ _ obliging), ← hsplit] at hlast
    exact ⟨reply, hreply, hok, hlast hreply⟩
  have habandoned : ∀ number ∈ [1, 2] ++ [3], (obliging.run closingDown).1.Unbegun number ∧
      (obliging.run closingDown).1.service.reply? number = some Reply.abandoned :=
    List.forall_mem_append.mpr ⟨hwaiting, List.forall_mem_singleton.mpr hlate⟩
  exact ⟨hqueued, hstopped, habandoned, hrefused, hclosed⟩

end System

end ControlPlane
