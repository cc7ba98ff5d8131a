import ControlPlane.Proofs.Exchange.Serving
import ControlPlane.Proofs.Service.Authority

/-!
# Handlers Do Not Disturb Each Other

A worker takes job after job, and what one handler does is no concern of the requests
after it. Between two turns of the worker anything may be done to the service: requests
arrive, clients leave, routes change, other workers take jobs, the server is interrupted.
Whatever that is, a job that the worker begins finds its request as it arrived, so its
reply is the one that the handler gives alone. A handler that fails does not stop the
worker. Only one that replies twice does, and with it the whole process.

The invariant has three parts. The service is one that operations on a started service
lead to, since a turn runs the oldest job as any operation would. So what is known of
histories applies, and gives the request of each queued job untouched. The requests begun
and those queued are in the order of their arrival. And of the jobs begun at most the last
one ends the process.

## Main definitions

* `Handler.aborts`: Serving with the handler ends the process.
* `Worker.Event`: A turn of the worker, or something else.
* `Worker.Life`, `Worker.Life.step`, `Worker.Life.run`: A worker at its work.
* `Worker.Life.Steady`: The invariant.
* `Worker.Life.untilAbort`: The jobs that a worker left alone begins.
* `Worker.Life.Isolated`: What the life of a worker comes to.

## Theorems

* `aborts_eq_repliesTwice`: What ends the process is a second reply.
* `reply?_apply`: No operation changes a reply that was sent.
* `turn_cases`, `turn_of_item`: What a turn comes to, and what it tells.
* `reply?_runJob`, `fault_runJob`: What running a job comes to whose request is untouched.
* `arrived_of_shift`: An operation keeps the order of arrival.
* `steady_of_step`, `steady_run`: Every step and every run keep the invariant.
* `reply?_run`: No run changes a reply that was sent.
* `begun_of_turns`: A worker left alone goes through the queue.
* `isolated_of_run`: Handlers do not disturb each other.
-/

namespace ControlPlane

namespace Handler

/-- Serving with the handler ends the process: it comes to a second reply, or it fails of
    itself with the very fault of one. -/
def aborts (handler : Handler) : Bool :=
  handler.repliesTwice || (handler.findSome? Action.fault?).any Worker.isFatal

theorem any_failure (handler : Handler) (target : String) :
    (handler.failure target).any Worker.isFatal = handler.aborts := by
  unfold failure aborts
  by_cases htwice : handler.repliesTwice = true
  · rw [if_pos htwice, htwice]
    rfl
  · rw [if_neg htwice, Bool.eq_false_iff.mpr htwice, Bool.false_or]

/-- A handler that does not fail with the fault of a second reply ends the process by coming
    to one. -/
theorem aborts_eq_repliesTwice {handler : Handler}
    (h : ∀ target, .fail (.doubleReply target) ∉ handler) :
    handler.aborts = handler.repliesTwice := by
  have hown : (handler.findSome? Action.fault?).any Worker.isFatal = false := by
    cases hfault : handler.findSome? Action.fault? with
    | none => rfl
    | some fault =>
        rcases List.exists_of_findSome?_eq_some hfault with ⟨action, hmem, haction⟩
        cases action with
        | fail own =>
            cases Option.some.inj haction
            cases fault with
            | doubleReply target => exact absurd hmem (h target)
            | text message => rfl
            | other => rfl
        | _ => exact absurd haction nofun
  rw [aborts, hown, Bool.or_false]

/-- A reply does not depend on whether somebody waits for it. -/
theorem replyTo_untouched (c : Conditions) (subpath : String) (handler : Handler)
    (head : RequestHead) (body : ByteArray) (waiter : Waiter) :
    handler.replyTo c subpath (.untouched head body waiter) =
      handler.replyTo c subpath (.untouched head body .listening) := by
  unfold replyTo
  cases handler.find? Action.settles with
  | none => rfl
  | some action => cases action <;> rfl

end Handler

namespace Service

variable {s : Service} {number : Nat} {reply : Reply}

/-- A request that arrives changes no reply. -/
theorem reply?_request (h : s.reply? number = some reply) (head : RequestHead) (body : ByteArray) :
    (s.apply (.request head body)).1.reply? number = some reply := by
  have happly : (s.apply (.request head body)).1 =
    ((s.openExchange head body).1.handle s.exchanges.length).1 := rfl
  have hopened := (delivers_openExchange (P := fun _ _ => True) s head body).kept number reply h
  rw [happly]
  cases hgate : s.gate? head with
  | some refusal =>
      rw [handle_refused hgate body]
      exact (delivers_answer (P := fun _ _ => True) _ s.exchanges.length refusal.1 refusal.2
        fun _ _ => trivial).kept number reply hopened
  | none =>
      rcases admits_of_gate? hgate with ⟨allow, handler, subpath, hadmits⟩
      rw [handle_joined hadmits body]
      exact hopened

/-- No more does a job that is run. -/
theorem reply?_runJob_of_some (h : s.reply? number = some reply) (job : Job) :
    (s.runJob job).1.reply? number = some reply := by
  rw [runJob, reply?_onExchange]
  by_cases heq : number = job.exchange
  · rcases Option.bind_eq_some_iff.mp h with ⟨x, hx, hsent⟩
    rw [if_pos heq, ← heq, hx]
    exact Exchange.sent?_serve_of_sent s.conditions job.subpath job.handler hsent
  · rw [if_neg heq]
    exact h

/-- No operation changes a reply that was sent. -/
theorem reply?_apply (h : s.reply? number = some reply) (op : Operation) :
    (s.apply op).1.reply? number = some reply := by
  cases op with
  | request head body => exact reply?_request h head body
  | unregister m =>
      have happly : (s.apply (.unregister m)).1 = (s.unregister m).1 := rfl
      rw [happly, unregister_frame]
      exact h
  | disconnect other =>
      exact (delivers_disconnect (P := fun _ _ => True) s other).kept number reply h
  | release =>
      exact (delivers_release (P := fun _ _ => True) s fun _ _ => trivial).kept number reply h
  | run =>
      -- Whether a job is run or given back, its request is replied to only if that was not done.
      rcases WorkQueue.dequeue_cases s.queue with
        ⟨_, hd⟩ | ⟨_, _, hd⟩ | ⟨job, rest, runs, items, _⟩
      · simp only [apply, take, hd]
        exact h
      · simp only [apply, take, hd]
        exact h
      · rw [(apply_run runs items).1]
        exact reply?_runJob_of_some (s := s.withJobs rest) h job
  | takeBack text =>
      rcases WorkQueue.dequeue_cases s.queue with ⟨_, hd⟩ | ⟨_, _, hd⟩ | ⟨job, rest, _, _, hd⟩
      · simp only [apply, take, hd]
        exact h
      · simp only [apply, take, hd]
        exact h
      · cases text with
        | none =>
            simp only [apply, take, hd]
            exact (delivers_giveUp (P := fun _ _ => True) (s.withJobs rest) job.exchange
              fun _ _ => trivial).kept number reply h
        | some text =>
            simp only [apply, take, hd]
            exact (delivers_answer (P := fun _ _ => True) (s.withJobs rest) job.exchange text.1
              text.2 fun _ _ => trivial).kept number reply h
  | _ => exact h

variable {job : Job} {head : RequestHead} {body : ByteArray} {waiter : Waiter}

/-- A job whose request is untouched gets it the reply that its handler gives it. -/
theorem reply?_runJob (h : s.exchanges[job.exchange]? = some (.untouched head body waiter)) :
    (s.runJob job).1.reply? job.exchange =
      some (job.handler.replyTo s.conditions job.subpath (.untouched head body waiter)) := by
  rw [runJob, reply?_onExchange, if_pos rfl, h]
  exact Exchange.sent?_serve s.conditions job.subpath job.handler (.untouched head body waiter)
    (Exchange.isPending_untouched head body waiter)

/-- It ends as its handler says. -/
theorem fault_runJob (h : s.exchanges[job.exchange]? = some (.untouched head body waiter)) :
    (s.runJob job).2.1 = job.handler.failure head.target := by
  simp only [runJob, onExchange, h]
  exact Exchange.fault_serve s.conditions job.subpath job.handler
    (Exchange.isPending_untouched head body waiter)

end Service

namespace Worker

/-- What happens while a worker works. -/
inductive Event where
  /-- The worker takes a turn. -/
  | turn
  /-- Something else is done to the service. -/
  | other (op : Service.Operation)

namespace Progress

/-- The job that was begun in a turn. -/
def job? : Progress → Option Job
  | .served job | .aborted job => some job
  | .waiting | .exited => none

/-- The process has aborted. -/
def isAborted : Progress → Bool
  | .aborted _ => true
  | _ => false

/-- The worker takes another turn. -/
def goesOn : Progress → Bool
  | .waiting | .served _ => true
  | .exited | .aborted _ => false

end Progress

/-- What a turn comes to: the queue was stopped, or it is empty, or its oldest job is
    run. -/
theorem turn_cases (worker : Nat) (s : Service) :
    (s.queue.running = false ∧ (turn worker s).1 = s ∧ (turn worker s).2.1 = .exited) ∨
      (s.queue.running = true ∧ s.queue.items = [] ∧ (turn worker s).1 = s ∧
        (turn worker s).2.1 = .waiting) ∨
      ∃ job rest, s.queue.running = true ∧ s.queue.items = job :: rest ∧
        (turn worker s).1 = ((s.withJobs rest).runJob job).1 ∧
        (turn worker s).2.1 =
          if (((s.withJobs rest).runJob job).2.1).any isFatal then .aborted job else .served job := by
  rcases WorkQueue.dequeue_cases s.queue with
    ⟨runs, hd⟩ | ⟨runs, items, hd⟩ | ⟨job, rest, runs, items, hd⟩
  · have hturn : turn worker s = (s, .exited, [exitEvent worker]) := by
      simp only [turn, Service.take, hd]
    rw [hturn]
    exact Or.inl ⟨runs, rfl, rfl⟩
  · have hturn : turn worker s = (s, .waiting, []) := by
      simp only [turn, Service.take, hd]
    rw [hturn]
    exact Or.inr (Or.inl ⟨runs, items, rfl, rfl⟩)
  · right; right
    refine ⟨job, rest, runs, items, ?_⟩
    have hjobs : ({ s with queue := { s.queue with items := rest } } : Service) =
        s.withJobs rest := rfl
    simp only [turn, Service.take, hd, hjobs]
    cases ((s.withJobs rest).runJob job).2.1 with
    | none => exact ⟨rfl, rfl⟩
    | some fault => exact ⟨rfl, rfl⟩

/-- What a worker tells when it takes a job: the jobs that it leaves come first. -/
theorem turn_of_item (worker : Nat) {s : Service} {job : Job} {rest : List Job}
    (hd : s.queue.dequeue = .item job { s.queue with items := rest }) :
    (turn worker s).1 = ((s.withJobs rest).runJob job).1 ∧
      (turn worker s).2.2 = .set .queueDepth rest.length ::
        (((s.withJobs rest).runJob job).2.2 ++
          (((s.withJobs rest).runJob job).2.1.map (faultEvent worker job.subpath)).toList) := by
  have hjobs : ({ s with queue := { s.queue with items := rest } } : Service) =
      s.withJobs rest := rfl
  simp only [turn, Service.take, hd, hjobs]
  cases ((s.withJobs rest).runJob job).2.1 with
  | none => exact ⟨rfl, congrArg _ (List.append_nil _).symm⟩
  | some fault => exact ⟨rfl, rfl⟩

/-- A worker at its work. -/
structure Life where
  service : Service
  /-- How its last turn has ended. -/
  progress : Progress := .waiting
  /-- The jobs that it has begun, in order. -/
  begun : List Job := []

namespace Life

/-- A worker that begins its work. -/
def ofService (s : Service) : Life :=
  { service := s }

/-- What happens next. A worker that has exited takes no more turns, and once the process
    has aborted nothing happens any more. -/
def step (worker : Nat) (l : Life) : Event → Life
  | .turn =>
    if l.progress.goesOn then
      let (service, progress, _) := turn worker l.service
      { service, progress, begun := l.begun ++ progress.job?.toList }
    else l
  | .other op =>
    if l.progress.isAborted then l else { l with service := (l.service.apply op).1 }

/-- What happens one after the other. -/
def run (worker : Nat) (l : Life) (events : List Event) : Life :=
  events.foldl (step worker) l

variable {start : Service} {allow : AllowList} {worker : Nat} {l : Life}

theorem run_append (l : Life) (first others : List Event) :
    l.run worker (first ++ others) = (l.run worker first).run worker others :=
  List.foldl_append

/-! ### Order of arrival -/

/-- Jobs begun and jobs queued, together, are in the order in which their requests have
    arrived. -/
structure Arrived (begun : List Job) (s : Service) : Prop where
  sorted : ((begun ++ s.queue.items).map (·.exchange)).Pairwise (· < ·)
  opened : ∀ job ∈ begun ++ s.queue.items, job.exchange < s.exchanges.length

/-- Jobs that leave the queue do not disturb the order, and one that joins it is the last
    to have arrived. -/
theorem arrived_of_shift {begun : List Job} {s s' : Service} {op : Service.Operation}
    (hshift : Service.Shift s op s') (h : Arrived begun s) : Arrived begun s' := by
  rcases hshift.items with hsub | ⟨_, _, _, handler, subpath, _, _, hitems, hnew⟩
  · have hall := hsub.append_left begun
    refine ⟨h.sorted.sublist (hall.map _), fun job hmem => ?_⟩
    exact Nat.lt_of_lt_of_le (h.opened job (hall.subset hmem)) hshift.opened
  · constructor
    · rw [hitems, ← List.append_assoc, List.map_append, List.pairwise_append]
      refine ⟨h.sorted, List.pairwise_singleton _ _, fun number hold last hlast => ?_⟩
      rcases List.mem_map.mp hold with ⟨job, hmem, hnumber⟩
      rw [List.map_singleton, List.mem_singleton] at hlast
      rw [hlast, ← hnumber]
      exact h.opened job hmem
    · intro job hmem
      rw [hitems, ← List.append_assoc] at hmem
      rcases List.mem_append.mp hmem with hold | hlast
      · exact Nat.lt_of_lt_of_le (h.opened job hold) hshift.opened
      · rw [List.mem_singleton.mp hlast]
        exact (List.getElem?_eq_some_iff.mp hnew).1

/-- A job that is begun stays where it is in the order. -/
theorem arrived_of_begun {begun : List Job} {s s' : Service} {job : Job} {rest : List Job}
    (h : Arrived begun s) (hitems : s.queue.items = job :: rest) (hrest : s'.queue.items = rest)
    (hopened : s.exchanges.length ≤ s'.exchanges.length) : Arrived (begun ++ [job]) s' := by
  have hsame : begun ++ [job] ++ s'.queue.items = begun ++ s.queue.items := by
    rw [hitems, hrest, List.append_assoc, List.singleton_append]
  constructor
  · rw [hsame]
    exact h.sorted
  · rw [hsame]
    exact fun other hmem => Nat.lt_of_lt_of_le (h.opened other hmem) hopened

/-! ### The invariant -/

/-- What holds after every run of a worker with a service that was just started. -/
structure Steady (start : Service) (allow : AllowList) (l : Life) : Prop where
  reached : ∃ past, l.service = (start.run past).1 ∧ Service.Admitted start allow past
  arrived : Arrived l.begun l.service
  /-- Where the process has aborted, it was over the last job begun. -/
  aborted : ∀ job, l.progress = .aborted job → ∃ earlier, l.begun = earlier ++ [job] ∧
    job.handler.aborts = true ∧ ∀ other ∈ earlier, other.handler.aborts = false
  safe : l.progress.isAborted = false → ∀ job ∈ l.begun, job.handler.aborts = false

theorem ordered_of_steady (h : Steady start allow l) : l.service.Ordered := by
  rcases h.reached with ⟨past, hservice, hadmitted⟩
  rw [hservice]
  exact hadmitted.ordered

/-- A job in the queue finds its request as it arrived. -/
theorem untouched_of_steady (h : Steady start allow l) {job : Job}
    (hmem : job ∈ l.service.queue.items) :
    ∃ head body waiter, l.service.exchanges[job.exchange]? = some (.untouched head body waiter) := by
  rcases h.reached with ⟨past, hservice, hadmitted⟩
  rw [hservice] at hmem ⊢
  rcases hadmitted.dispatched job hmem with ⟨_, head, body, _, waiter, _, _, _, hexchange⟩
  exact ⟨head, body, waiter, hexchange⟩

theorem reached_of_apply (h : Steady start allow l) (op : Service.Operation) :
    ∃ past, (l.service.apply op).1 = (start.run past).1 ∧ Service.Admitted start allow past := by
  rcases h.reached with ⟨past, hservice, hadmitted⟩
  refine ⟨past ++ [op], ?_, Service.admitted_concat hadmitted op⟩
  rw [Service.run_concat, hservice]

theorem isAborted_of_goesOn {progress : Progress} (h : progress.goesOn = true) :
    progress.isAborted = false := by
  cases progress with
  | aborted job => exact absurd h nofun
  | _ => rfl

/-- A turn with a job: what the worker is left with. -/
theorem step_of_job {job : Job} {rest : List Job} (hsteady : Steady start allow l)
    (hgoes : l.progress.goesOn = true) (runs : l.service.queue.running = true)
    (items : l.service.queue.items = job :: rest) :
    l.step worker .turn = {
      service := ((l.service.withJobs rest).runJob job).1
      progress := if job.handler.aborts then .aborted job else .served job
      begun := l.begun ++ [job] } := by
  have hmem : job ∈ l.service.queue.items := by
    rw [items]
    exact List.mem_cons_self
  rcases untouched_of_steady hsteady hmem with ⟨head, body, waiter, hx⟩
  have hfault := Service.fault_runJob (s := l.service.withJobs rest) hx
  rcases turn_cases worker l.service with
    ⟨hstopped, _⟩ | ⟨_, hnone, _⟩ | ⟨job', rest', _, hitems, hservice, hprogress⟩
  · rw [runs] at hstopped
    exact absurd hstopped nofun
  · rw [items] at hnone
    exact absurd hnone nofun
  · rw [items, List.cons.injEq] at hitems
    rw [← hitems.1, ← hitems.2] at hservice hprogress
    rw [hfault, Handler.any_failure] at hprogress
    have hjob : (if job.handler.aborts then Progress.aborted job else .served job).job? =
        some job := by
      cases job.handler.aborts <;> rfl
    simp only [step, if_pos hgoes, hservice, hprogress, hjob, Option.toList_some]

/-- A turn without a job: the worker exits if the queue was stopped, and waits if it is
    empty. -/
theorem step_of_none (hgoes : l.progress.goesOn = true)
    (hnone : l.service.queue.running = false ∨ l.service.queue.items = []) :
    l.step worker .turn =
      { l with progress := if l.service.queue.running then .waiting else .exited } := by
  rcases turn_cases worker l.service with
    ⟨runs, hservice, hprogress⟩ | ⟨runs, _, hservice, hprogress⟩ | ⟨job, rest, runs, items, _⟩
  · simp only [step, if_pos hgoes, hservice, hprogress, runs, Progress.job?, Option.toList_none,
      List.append_nil, Bool.false_eq_true, if_false]
  · simp only [step, if_pos hgoes, hservice, hprogress, runs, Progress.job?, Option.toList_none,
      List.append_nil, if_true]
  · rcases hnone with hstopped | hempty
    · rw [runs] at hstopped
      exact absurd hstopped nofun
    · rw [items] at hempty
      exact absurd hempty nofun

theorem steady_of_job {job : Job} {rest : List Job} (h : Steady start allow l)
    (hgoes : l.progress.goesOn = true) (runs : l.service.queue.running = true)
    (items : l.service.queue.items = job :: rest) : Steady start allow (l.step worker .turn) := by
  have hsafe := h.safe (isAborted_of_goesOn hgoes)
  have happly := Service.apply_run runs items
  have hshift := Service.shift_apply (ordered_of_steady h) .run
  rw [step_of_job h hgoes runs items]
  refine ⟨?_, ?_, fun other hother => ?_, fun hgoesOn other hmem => ?_⟩
  · rw [← happly.1]
    exact reached_of_apply h .run
  · refine arrived_of_begun h.arrived items ?_ ?_
    · rw [Service.runJob, Service.queue_of_frame (Service.onExchange_frame _ job.exchange _)]
      rfl
    · rw [← happly.1]
      exact hshift.opened
  · -- The job begun now is the one over which the process aborts.
    by_cases haborts : job.handler.aborts = true
    · simp only [haborts, if_true, Progress.aborted.injEq] at hother
      rw [← hother]
      exact ⟨l.begun, rfl, haborts, hsafe⟩
    · simp only [if_neg haborts, reduceCtorEq] at hother
  · by_cases haborts : job.handler.aborts = true
    · simp only [haborts, if_true, Progress.isAborted, reduceCtorEq] at hgoesOn
    · rcases List.mem_append.mp hmem with hold | hlast
      · exact hsafe other hold
      · rw [List.mem_singleton.mp hlast]
        exact Bool.eq_false_iff.mpr haborts

/-- Every step keeps the invariant. -/
theorem steady_of_step (h : Steady start allow l) (e : Event) :
    Steady start allow (l.step worker e) := by
  cases e with
  | other op =>
      by_cases haborted : l.progress.isAborted = true
      · simp only [step, if_pos haborted]
        exact h
      · simp only [step, if_neg haborted]
        exact ⟨reached_of_apply h op,
          arrived_of_shift (Service.shift_apply (ordered_of_steady h) op) h.arrived, h.aborted, h.safe⟩
  | turn =>
      by_cases hgoes : l.progress.goesOn = true
      · -- A turn without a job changes the progress of the worker only.
        have hquiet : (l.service.queue.running = false ∨ l.service.queue.items = []) →
            Steady start allow (l.step worker .turn) := by
          intro hnone
          rw [step_of_none hgoes hnone]
          refine ⟨h.reached, h.arrived, fun job haborted => ?_,
            fun _ => h.safe (isAborted_of_goesOn hgoes)⟩
          cases hrunning : l.service.queue.running with
          | false => simp only [hrunning, Bool.false_eq_true, if_false, reduceCtorEq] at haborted
          | true => simp only [hrunning, if_true, reduceCtorEq] at haborted
        rcases turn_cases worker l.service with
          ⟨runs, _⟩ | ⟨_, items, _⟩ | ⟨job, rest, runs, items, _⟩
        · exact hquiet (Or.inl runs)
        · exact hquiet (Or.inr items)
        · exact steady_of_job h hgoes runs items
      · simp only [step, if_neg hgoes]
        exact h

/-- Every run keeps the invariant, by induction along what happens. -/
theorem steady_run (events : List Event) :
    ∀ l : Life, Steady start allow l → Steady start allow (l.run worker events) := by
  induction events with
  | nil => exact fun l h => h
  | cons e rest ih => exact fun l h => ih (l.step worker e) (steady_of_step h e)

theorem steady_started (routes : RouteTable Handler) (allow : AllowList) (depth : Nat)
    (dumps : Bool) :
    Steady (Service.started routes allow depth dumps) allow
      (ofService (Service.started routes allow depth dumps)) := by
  have hadmitted := Service.admitted_of_run routes allow depth dumps []
  exact ⟨⟨[], rfl, hadmitted⟩, ⟨List.Pairwise.nil, fun _ hmem => absurd hmem List.not_mem_nil⟩,
    nofun, fun _ _ hmem => absurd hmem List.not_mem_nil⟩

/-- No run changes a reply that was sent. -/
theorem reply?_run {number : Nat} {reply : Reply} (events : List Event) :
    ∀ l : Life, l.service.reply? number = some reply →
      (l.run worker events).service.reply? number = some reply := by
  induction events with
  | nil => exact fun l h => h
  | cons e rest ih =>
      intro l h
      refine ih (l.step worker e) ?_
      cases e with
      | other op =>
          by_cases haborted : l.progress.isAborted = true
          · simp only [step, if_pos haborted]
            exact h
          · simp only [step, if_neg haborted]
            exact Service.reply?_apply h op
      | turn =>
          by_cases hgoes : l.progress.goesOn = true
          · have hservice : (l.step worker .turn).service = (turn worker l.service).1 := by
              simp only [step, if_pos hgoes]
            rw [hservice, Service.turn_eq_apply]
            exact Service.reply?_apply h .run
          · simp only [step, if_neg hgoes]
            exact h

/-! ### A worker left alone -/

/-- Jobs up to the first one that ends the process, and that one. -/
def untilAbort : List Job → List Job
  | [] => []
  | job :: rest => if job.handler.aborts then [job] else job :: untilAbort rest

theorem run_turns_of_ended (h : l.progress.goesOn = false) :
    ∀ count : Nat, l.run worker (List.replicate count .turn) = l := by
  intro count
  have hstep : l.step worker .turn = l := by
    simp only [step, h, Bool.false_eq_true, if_false]
  induction count with
  | zero => rfl
  | succ count ih =>
      have hrun : l.run worker (List.replicate (count + 1) .turn) =
          (l.step worker .turn).run worker (List.replicate count .turn) := rfl
      rw [hrun, hstep, ih]

/-- A worker that is left alone begins everything that is queued, unless the process ends
    over one of the jobs. -/
theorem begun_of_turns (items : List Job) :
    ∀ l : Life, Steady start allow l → l.progress.goesOn = true →
      l.service.queue.running = true → l.service.queue.items = items →
        (l.run worker (List.replicate items.length .turn)).begun = l.begun ++ untilAbort items := by
  induction items with
  | nil => exact fun l _ _ _ _ => (List.append_nil l.begun).symm
  | cons job rest ih =>
      intro l h hgoes runs hitems
      have hsteady : Steady start allow (l.step worker .turn) := steady_of_step h .turn
      have hrun : l.run worker (List.replicate (job :: rest).length .turn) =
          (l.step worker .turn).run worker (List.replicate rest.length .turn) := rfl
      rw [hrun]
      rw [step_of_job h hgoes runs hitems] at hsteady ⊢
      by_cases haborts : job.handler.aborts = true
      · rw [if_pos haborts] at hsteady ⊢
        rw [run_turns_of_ended rfl, untilAbort, if_pos haborts]
      · rw [if_neg haborts] at hsteady ⊢
        have hqueue : ((l.service.withJobs rest).runJob job).1.queue =
            (l.service.withJobs rest).queue :=
          Service.queue_of_frame (Service.onExchange_frame _ job.exchange _)
        have hrest := ih _ hsteady rfl ((congrArg WorkQueue.running hqueue).trans runs)
          (congrArg WorkQueue.items hqueue)
        rw [hrest, untilAbort, if_neg haborts, List.append_assoc, List.singleton_append]

/-! ### The life of a worker -/

/-- What the life of a worker comes to. -/
structure Isolated (start : Service) (worker : Nat) (events : List Event) : Prop where
  /-- A turn begins the oldest job. The request gets the reply that the handler gives it
      alone, under the conditions of that moment, and keeps it. What the handler does after
      its first reply does not change that reply, be it a failure or not. Unless the handler
      ends the process, the worker goes on. -/
  served : ∀ (before after : List Event) (job : Job) (rest : List Job),
    events = before ++ .turn :: after →
      let now := (ofService start).run worker before
      let next := now.step worker .turn
      let last := (ofService start).run worker events
      let c := now.service.conditions
      now.progress.goesOn = true → now.service.queue.running = true →
        now.service.queue.items = job :: rest →
          next.begun = now.begun ++ [job] ∧ next.service.queue.items = rest ∧
            next.progress = (if job.handler.aborts then .aborted job else .served job) ∧
            ∃ head body waiter,
              now.service.exchanges[job.exchange]? = some (.untouched head body waiter) ∧
              let alone := Exchange.untouched head body .listening
              let reply := job.handler.replyTo c job.subpath alone
              (alone.serve c job.subpath job.handler).exchange.slot.sent? = some reply ∧
                next.service.reply? job.exchange = some reply ∧
                last.service.reply? job.exchange = some reply ∧
                ∀ first others : Handler, job.handler = first ++ others →
                  first.any Action.settles = true → reply = first.replyTo c job.subpath alone
  /-- A turn without a job begins none. -/
  idle : ∀ before after : List Event, events = before ++ .turn :: after →
    let now := (ofService start).run worker before
    let next := now.step worker .turn
    (now.progress.goesOn = false → next = now) ∧
      (now.progress.goesOn = true →
        (now.service.queue.running = false ∨ now.service.queue.items = []) →
        next = { now with progress := if now.service.queue.running then .waiting else .exited })
  /-- A worker that is left alone begins everything that is queued, up to the first job that
      ends the process. -/
  drained : ∀ before after : List Event, events = before ++ after →
    let now := (ofService start).run worker before
    let jobs := now.service.queue.items
    now.progress.goesOn = true → now.service.queue.running = true →
      (now.run worker (List.replicate jobs.length .turn)).begun = now.begun ++ untilAbort jobs
  /-- The process aborts exactly if one of the handlers ends it. -/
  aborted : let last := (ofService start).run worker events
    last.progress.isAborted = true ↔ ∃ job ∈ last.begun, job.handler.aborts = true
  /-- Handlers that fail of themselves with other faults only end it exactly by coming to a
      second reply. -/
  twice : let last := (ofService start).run worker events
    (∀ job ∈ last.begun, ∀ target, .fail (.doubleReply target) ∉ job.handler) →
      (last.progress.isAborted = true ↔ ∃ job ∈ last.begun, job.handler.repliesTwice = true)
  /-- It aborts over the first such job, and begins no other one. -/
  first : let last := (ofService start).run worker events
    ∀ job, last.progress = .aborted job → ∃ earlier, last.begun = earlier ++ [job] ∧
      job.handler.aborts = true ∧ ∀ other ∈ earlier, other.handler.aborts = false
  /-- Jobs are begun in the order in which their requests have arrived. -/
  inOrder : let last := (ofService start).run worker events
    (last.begun.map (·.exchange)).Pairwise (· < ·)

/-- Handlers do not disturb each other, whatever happens to the service between the turns of
    the worker. -/
theorem isolated_of_run (routes : RouteTable Handler) (allow : AllowList) (depth : Nat)
    (dumps : Bool) (worker : Nat) (events : List Event) :
    Isolated (Service.started routes allow depth dumps) worker events := by
  have hsteady : ∀ past : List Event, Steady (Service.started routes allow depth dumps) allow
      ((ofService (Service.started routes allow depth dumps)).run worker past) :=
    fun past => steady_run past _ (steady_started routes allow depth dumps)
  have hlast := hsteady events
  -- Of the ways to end, only the abort names a job, and what it says of that job is the
  -- invariant.
  have haborted : ((ofService (Service.started routes allow depth dumps)).run worker
      events).progress.isAborted = true ↔
        ∃ job ∈ ((ofService (Service.started routes allow depth dumps)).run worker events).begun,
          job.handler.aborts = true := by
    constructor
    · intro h
      cases hprogress : ((ofService (Service.started routes allow depth dumps)).run worker
          events).progress with
      | aborted job =>
          rcases hlast.aborted job hprogress with ⟨earlier, hbegun, hjob, _⟩
          refine ⟨job, ?_, hjob⟩
          rw [hbegun]
          exact List.mem_append_right _ List.mem_cons_self
      | _ =>
          rw [hprogress] at h
          exact absurd h nofun
    · rintro ⟨job, hmem, hjob⟩
      refine Bool.not_eq_false _ ▸ fun hsafe => ?_
      rw [hlast.safe hsafe job hmem] at hjob
      exact absurd hjob nofun
  constructor
  case served =>
    intro before after job rest hsplit now next last c hgoes runs items
    have hnow := hsteady before
    have hmem : job ∈ now.service.queue.items := by
      rw [items]
      exact List.mem_cons_self
    rcases untouched_of_steady hnow hmem with ⟨head, body, waiter, hx⟩
    have hnext : next = _ := step_of_job hnow hgoes runs items
    -- The run goes on from the turn, and no later event changes the reply.
    have hlater : last = next.run worker after := by
      have happend : _ = now.run worker (.turn :: after) := run_append
        (ofService (Service.started routes allow depth dumps)) before (.turn :: after)
      rw [← hsplit] at happend
      exact happend
    have hreply : next.service.reply? job.exchange =
        some (job.handler.replyTo c job.subpath (.untouched head body .listening)) := by
      rw [hnext, ← Handler.replyTo_untouched c job.subpath job.handler head body waiter]
      exact Service.reply?_runJob (s := now.service.withJobs rest) hx
    have hkept : last.service.reply? job.exchange = _ :=
      hlater ▸ reply?_run after next hreply
    refine ⟨?_, ?_, ?_, head, body, waiter, hx, ?_, hreply, hkept,
      fun first others hhandler hfirst => ?_⟩
    · rw [hnext]
    · rw [hnext]
      simp only [Service.runJob]
      rw [Service.queue_of_frame (Service.onExchange_frame _ job.exchange _)]
      rfl
    · rw [hnext]
    · exact Exchange.sent?_serve c job.subpath job.handler _ rfl
    · rw [hhandler]
      exact Handler.replyTo_append c job.subpath first others hfirst _
  case idle =>
    intro before after _ now next
    constructor
    · intro hends
      have hnot : ¬ now.progress.goesOn = true := Bool.eq_false_iff.mp hends
      simp only [next, step, if_neg hnot]
    · exact fun hgoes hnone => step_of_none hgoes hnone
  case drained =>
    intro before after _ now jobs hgoes runs
    exact begun_of_turns jobs now (hsteady before) hgoes runs rfl
  case aborted => exact haborted
  case twice =>
    intro last hown
    rw [haborted]
    constructor
    · rintro ⟨job, hmem, hjob⟩
      rw [Handler.aborts_eq_repliesTwice (hown job hmem)] at hjob
      exact ⟨job, hmem, hjob⟩
    · rintro ⟨job, hmem, hjob⟩
      rw [← Handler.aborts_eq_repliesTwice (hown job hmem)] at hjob
      exact ⟨job, hmem, hjob⟩
  case first => exact hlast.aborted
  case inOrder =>
    intro last
    have hsorted := hlast.arrived.sorted
    -- What was begun comes before what is queued, and both together are in order.
    rw [List.map_append, List.pairwise_append] at hsorted
    exact hsorted.1

end Life

end Worker

end ControlPlane
