import ControlPlane.Proofs.Service.Shift

/-!
# Who May Use a Handler

A handler runs only for requests that may use it. Whatever is done to a service, in
whatever order, a job that is run was queued by a request that passed all gates at
that moment: the peer was allowed, the method known, and the table then in use led
the target to this handler with this rest of the target. Routes that are added or
removed while the job waits do not change it, and neither does anybody touch its
exchange meanwhile.

A request that a gate refuses is answered at once, by the first gate that refuses it,
and leaves no trace in the queue, so no handler ever runs for it. One that no gate
refuses is not answered and adds one job.

The queue remembers nothing of the gates. So the invariant is about the history: each
job in the queue has the request in the past that it was made for. One operation adds
to the past, and `Shift` says what it does to the jobs.

## Main definitions

* `Service.started`: A service that was just started.
* `Service.Dispatched`: A job was queued in the past by a request that passed.
* `Service.Admitted`: The invariant of histories.
* `Service.Authorised`: What histories of a started service come to.

## Theorems

* `run_append`: Some operations after others.
* `dispatched_of_shift`: A job that stays in the queue keeps its past.
* `admitted_of_run`: Every history keeps the invariant.
* `ran_ne_of_absent`: A request that has no job in the queue is never run.
* `authorised_of_run`: Handlers run for requests that may use them, and for no others.
-/

namespace ControlPlane

namespace Service

variable {start s s' : Service} {allow : AllowList} {past : List Operation} {op : Operation}

/-- A service that was just started, with these routes, this allow list and so many
    places in the queue. -/
def started (routes : RouteTable Handler) (allow : AllowList) (depth : Nat) (dumps : Bool) :
    Service :=
  { routes, callback := .dispatch allow, queue := .ofDepth depth, dumps }

/-! ### Histories -/

theorem run_append (first others : List Operation) :
    ∀ s : Service, (s.run (first ++ others)).1 = ((s.run first).1.run others).1 := by
  induction first with
  | nil => exact fun s => rfl
  | cons op rest ih => exact fun s => ih (s.apply op).1

theorem run_concat (s : Service) (past : List Operation) (op : Operation) :
    (s.run (past ++ [op])).1 = ((s.run past).1.apply op).1 :=
  run_append past [op] s

/-- The job was queued in the past by a request that passed all gates at that moment,
    and its exchange was not touched since. -/
def Dispatched (start : Service) (allow : AllowList) (past : List Operation) (job : Job) : Prop :=
  ∃ earlier head body later waiter, past = earlier ++ .request head body :: later ∧
    job.exchange = (start.run earlier).1.exchanges.length ∧
    (start.run earlier).1.Admits allow head job.handler job.subpath ∧
    (start.run past).1.exchanges[job.exchange]? = some (.untouched head body waiter)

/-- What holds after every history of a service with this allow list. -/
structure Admitted (start : Service) (allow : AllowList) (past : List Operation) : Prop where
  ordered : (start.run past).1.Ordered
  callback : (start.run past).1.callback = .dispatch allow ∨ (start.run past).1.callback = .reject
  dispatched : ∀ job ∈ (start.run past).1.queue.items, Dispatched start allow past job

/-- A job that stays in the queue keeps its past. -/
theorem dispatched_of_shift (h : Shift (start.run past).1 op ((start.run past).1.apply op).1)
    {job : Job} (hmem : job ∈ (start.run past).1.queue.items)
    (hstays : job ∈ ((start.run past).1.apply op).1.queue.items)
    (hjob : Dispatched start allow past job) : Dispatched start allow (past ++ [op]) job := by
  rcases hjob with ⟨earlier, head, body, later, waiter, hpast, hnumber, hadmits, hexchange⟩
  rcases h.kept job hmem hstays _ hexchange with ⟨waiter', hexchange'⟩
  refine ⟨earlier, head, body, later ++ [op], waiter', ?_, hnumber, hadmits, ?_⟩
  · rw [hpast, List.append_assoc, List.cons_append]
  · rw [run_concat]
    exact hexchange'

/-- One more operation keeps the invariant. A job that it adds has its request in the
    operation itself. -/
theorem admitted_concat (h : Admitted start allow past) (op : Operation) :
    Admitted start allow (past ++ [op]) := by
  have hshift := shift_apply h.ordered op
  refine ⟨?_, ?_, fun job hmem => ?_⟩
  · rw [run_concat]
    exact ordered_of_shift hshift h.ordered
  · rw [run_concat]
    rcases hshift.callback with hsame | hreject
    · rw [hsame]
      exact h.callback
    · exact Or.inr hreject
  · rw [run_concat] at hmem
    rcases hshift.items with hsub | ⟨allow', head, body, handler, subpath, hop, hadmits, hitems, hnew⟩
    · have hold := hsub.subset hmem
      exact dispatched_of_shift hshift hold hmem (h.dispatched job hold)
    · have hjobs := hmem
      rw [hitems] at hjobs
      rcases List.mem_append.mp hjobs with hold | hlast
      · exact dispatched_of_shift hshift hold hmem (h.dispatched job hold)
      · -- The callback that let the request pass has the allow list of the service.
        have hallow : allow' = allow := by
          rcases h.callback with hdispatch | hreject
          · exact Callback.dispatch.inj (hadmits.callback.symm.trans hdispatch)
          · exact absurd (hadmits.callback.symm.trans hreject) nofun
        rw [hallow] at hadmits
        rw [List.mem_singleton.mp hlast]
        refine ⟨past, head, body, [], .listening, ?_, rfl, hadmits, ?_⟩
        · rw [hop]
        · rw [run_concat]
          exact hnew

/-- Every history keeps the invariant, by induction along the operations that are still
    to come. -/
theorem admitted_append (ops : List Operation) :
    ∀ past : List Operation, Admitted start allow past → Admitted start allow (past ++ ops) := by
  induction ops with
  | nil =>
      intro past h
      rw [List.append_nil]
      exact h
  | cons op rest ih =>
      intro past h
      rw [List.append_cons]
      exact ih (past ++ [op]) (admitted_concat h op)

theorem admitted_of_run (routes : RouteTable Handler) (allow : AllowList) (depth : Nat)
    (dumps : Bool) (ops : List Operation) :
    Admitted (started routes allow depth dumps) allow ops := by
  have hfirst : Admitted (started routes allow depth dumps) allow [] :=
    ⟨⟨List.nodup_nil, fun _ hmem => absurd hmem List.not_mem_nil⟩, Or.inl rfl,
      fun _ hmem => absurd hmem List.not_mem_nil⟩
  exact admitted_append ops [] hfirst

/-! ### Requests that are never run -/

/-- A request that has no job in the queue gets none any more. -/
theorem absent_of_run {number : Nat} (ops : List Operation) :
    ∀ s : Service, s.Ordered → number < s.exchanges.length →
      (∀ job ∈ s.queue.items, job.exchange ≠ number) →
      ∀ job ∈ (s.run ops).1.queue.items, job.exchange ≠ number := by
  induction ops with
  | nil => exact fun s _ _ habsent => habsent
  | cons op rest ih =>
      intro s hs hlt habsent
      have hshift := shift_apply hs op
      exact ih (s.apply op).1 (ordered_of_shift hshift hs) (Nat.lt_of_lt_of_le hlt hshift.opened)
        (absent_of_shift hshift hlt habsent)

/-- A request that has no job in the queue is never run. -/
theorem ran_ne_of_absent (hs : s.Ordered) {number : Nat} (hlt : number < s.exchanges.length)
    (habsent : ∀ job ∈ s.queue.items, job.exchange ≠ number) (later : List Operation)
    {description : String} {job : Job} {fault : Option Fault}
    (h : ((s.run later).1.apply op).2.1 = .taken (.ran description job fault)) :
    job.exchange ≠ number := by
  rcases ran_of_apply h with ⟨_, rest, _, hitems, _⟩
  refine absent_of_run later s hs hlt habsent job ?_
  rw [hitems]
  exact List.mem_cons_self

/-- A job that was run has left the queue with its request. -/
theorem absent_of_ran (hs : s.Ordered) {description : String} {job : Job} {fault : Option Fault}
    (h : (s.apply op).2.1 = .taken (.ran description job fault)) :
    job.exchange < (s.apply op).1.exchanges.length ∧
      ∀ other ∈ (s.apply op).1.queue.items, other.exchange ≠ job.exchange := by
  rcases ran_of_apply h with ⟨_, rest, _, hitems, hservice, _⟩
  have hopened := (shift_apply hs op).opened
  have hqueue : (s.apply op).1.queue.items = rest := by
    rw [hservice, runJob, queue_of_frame (onExchange_frame (s.withJobs rest) job.exchange _)]
    rfl
  constructor
  · refine Nat.lt_of_lt_of_le (hs.opened job ?_) hopened
    rw [hitems]
    exact List.mem_cons_self
  · intro other hmem heq
    have hdistinct := hs.distinct
    rw [hitems, List.map_cons, List.nodup_cons] at hdistinct
    rw [hqueue] at hmem
    exact hdistinct.1 (heq ▸ List.mem_map_of_mem hmem)

/-! ### Started services -/

/-- What a request that a gate refuses comes to. -/
theorem refused_of_gate? {head : RequestHead} {status : Http.Status} {text : ByteArray}
    (h : s.gate? head = some (status, text)) (body : ByteArray) :
    (s.apply (.request head body)).1.reply? s.exchanges.length =
        some ⟨status, s.conditions.fields, text⟩ ∧
      (s.apply (.request head body)).1.queue = s.queue := by
  have happly : (s.apply (.request head body)).1 =
    ((s.openExchange head body).1.handle s.exchanges.length).1 := rfl
  rw [happly, handle_refused h body]
  constructor
  · exact reply?_answer (getElem?_openExchange s head body) rfl status text
  · exact (queue_of_frame (answer_frame (s.openExchange head body).1 _ status text)).trans rfl

/-- What a request that passes all gates comes to. -/
theorem queued_of_admits {head : RequestHead} {handler : Handler} {subpath : String}
    (h : s.Admits allow head handler subpath) (body : ByteArray) :
    (s.apply (.request head body)).1.reply? s.exchanges.length = none ∧
      (s.apply (.request head body)).1.queue = { s.queue with
        items := s.queue.items ++ [⟨s.exchanges.length, handler, subpath⟩] } := by
  have happly : (s.apply (.request head body)).1 =
    ((s.openExchange head body).1.handle s.exchanges.length).1 := rfl
  rw [happly, handle_joined h body]
  refine ⟨?_, rfl⟩
  have hnew : ((s.openExchange head body).1.withJobs
      (s.queue.items ++ [⟨s.exchanges.length, handler, subpath⟩])).exchanges[s.exchanges.length]? =
      some (.untouched head body .listening) := getElem?_openExchange s head body
  rw [reply?, hnew]
  rfl

/-- What histories of a service come to that was just started. -/
structure Authorised (start : Service) (allow : AllowList) (ops : List Operation) : Prop where
  /-- A job that is run was queued in the past by a request that passed all gates then.
      Its handler is the one that the table of that moment gave for it, and it serves the
      request as it was. -/
  invoked : ∀ before op after description job fault, ops = before ++ op :: after →
    ((start.run before).1.apply op).2.1 = .taken (.ran description job fault) →
      op = .run ∧ ∃ earlier head body later waiter, before = earlier ++ .request head body :: later ∧
        let past := (start.run earlier).1
        let now := (start.run before).1
        let served := (Exchange.untouched head body waiter).serve now.conditions job.subpath
          job.handler
        job.exchange = past.exchanges.length ∧
          past.callback = .dispatch allow ∧
          allow.isAllowed head.peer.address = true ∧
          head.method ≠ .unknown ∧
          past.routes.resolve head.target = some (job.handler, job.subpath) ∧
          now.exchanges[job.exchange]? = some (.untouched head body waiter) ∧
          (now.apply op).1.exchanges = now.exchanges.set job.exchange served.exchange ∧
          fault = served.fault
  /-- No request is run twice. -/
  once : ∀ before op between op' after description job fault description' job' fault',
    ops = before ++ op :: (between ++ op' :: after) →
    ((start.run before).1.apply op).2.1 = .taken (.ran description job fault) →
    ((start.run (before ++ op :: between)).1.apply op').2.1 =
      .taken (.ran description' job' fault') →
      job'.exchange ≠ job.exchange
  /-- A request that a gate refuses is answered by the first that does, leaves the queue
      as it was and is never run. -/
  refused : ∀ before head body after status text, ops = before ++ .request head body :: after →
    let now := (start.run before).1
    let next := (now.apply (.request head body)).1
    now.gate? head = some (status, text) →
      next.reply? now.exchanges.length = some ⟨status, now.conditions.fields, text⟩ ∧
        next.queue = now.queue ∧
        ∀ later op rest description job fault, after = later ++ op :: rest →
          ((next.run later).1.apply op).2.1 = .taken (.ran description job fault) →
            job.exchange ≠ now.exchanges.length
  /-- A request that no gate refuses is not answered, and adds one job to the queue, with
      what the table of the moment gives for it. -/
  queued : ∀ before head body after, ops = before ++ .request head body :: after →
    let now := (start.run before).1
    let next := (now.apply (.request head body)).1
    now.gate? head = none → ∃ handler subpath,
      now.routes.resolve head.target = some (handler, subpath) ∧
        next.reply? now.exchanges.length = none ∧
        next.queue = { now.queue with
          items := now.queue.items ++ [⟨now.exchanges.length, handler, subpath⟩] }

/-- Handlers run for requests that may use them, and for no others. -/
theorem authorised_of_run (routes : RouteTable Handler) (allow : AllowList) (depth : Nat)
    (dumps : Bool) (ops : List Operation) :
    Authorised (started routes allow depth dumps) allow ops := by
  have hadmitted := admitted_of_run routes allow depth dumps
  constructor
  case invoked =>
    intro before op after description job fault _ h
    rcases ran_of_apply h with ⟨hop, rest, _, hitems, hservice, hfault⟩
    have hmem : job ∈ ((started routes allow depth dumps).run before).1.queue.items := by
      rw [hitems]
      exact List.mem_cons_self
    rcases (hadmitted before).dispatched job hmem with
      ⟨earlier, head, body, later, waiter, hpast, hnumber, hadmits, hexchange⟩
    have hran : (((started routes allow depth dumps).run before).1.withJobs rest).exchanges[
        job.exchange]? = some (.untouched head body waiter) := hexchange
    simp only [runJob, onExchange, hran] at hservice hfault
    refine ⟨hop, earlier, head, body, later, waiter, hpast, hnumber, hadmits.callback,
      hadmits.peer, hadmits.method, hadmits.routed, hexchange, ?_, hfault⟩
    rw [hservice]
    rfl
  case once =>
    intro before op between op' after description job fault description' job' fault' _ h h'
    rcases absent_of_ran (hadmitted before).ordered h with ⟨hlt, habsent⟩
    have hordered := ordered_of_shift (shift_apply (hadmitted before).ordered op)
      (hadmitted before).ordered
    rw [List.append_cons, run_append, run_concat] at h'
    exact ran_ne_of_absent hordered hlt habsent between h'
  case refused =>
    intro before head body after status text _ now next hgate
    rcases refused_of_gate? hgate body with ⟨hreply, hqueue⟩
    refine ⟨hreply, hqueue, fun later op rest description job fault _ h => ?_⟩
    have hordered := (hadmitted before).ordered
    have hshift := shift_apply hordered (.request head body)
    refine ran_ne_of_absent (ordered_of_shift hshift hordered) (lt_of_reply? hreply)
      (fun waiting hmem => ?_) later h
    -- The jobs in the queue are those from before, and their numbers are smaller.
    rw [hqueue] at hmem
    exact Nat.ne_of_lt (hordered.opened waiting hmem)
  case queued =>
    intro before head body after _ now next hgate
    rcases admits_of_gate? hgate with ⟨allow', handler, subpath, hadmits⟩
    exact ⟨handler, subpath, hadmits.routed, queued_of_admits hadmits body⟩

end Service

end ControlPlane
