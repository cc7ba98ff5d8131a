import ControlPlane.Proofs.Service.Gate
import ControlPlane.Service.Operation
import ControlPlane.Worker

/-!
# What Operations Do to the Queue

One statement for all operations on a service, as seen from the jobs in its queue. A
`Shift` takes jobs out of the queue, or adds one job behind the others, for a request
that passed all gates at that moment. The exchange of a job that stays in the queue
is not touched, except that its waiting side may leave, and the callback stays or
becomes the one that refuses everything.

Two jobs never share an exchange, since every request gets a number of its own. That
is why taking one job out leaves the exchanges of the others alone, and it is the
condition under which operations shift the queue.

Running the oldest job is the only operation that runs a handler. `ran_of_apply` says
what it does, and `turn_eq_apply` that it is what a worker does in one turn.

## Main definitions

* `Service.Ordered`: Jobs in the queue have exchanges of their own.
* `Service.Shift`: What an operation does to the queue.

## Theorems

* `ordered_of_shift`: Jobs keep exchanges of their own.
* `shift_apply`: Every operation shifts the queue.
* `ran_of_apply`: A job that is run was the oldest one in a running queue.
* `turn_eq_apply`: A turn of a worker runs the oldest job.
-/

namespace ControlPlane

namespace Service

variable {s s' : Service} {op : Operation}

/-- Jobs in the queue have exchanges of their own. -/
structure Ordered (s : Service) : Prop where
  distinct : (s.queue.items.map (·.exchange)).Nodup
  opened : ∀ job ∈ s.queue.items, job.exchange < s.exchanges.length

/-- What an operation does to the queue. -/
structure Shift (s : Service) (op : Operation) (s' : Service) : Prop where
  /-- No exchange is forgotten. -/
  opened : s.exchanges.length ≤ s'.exchanges.length
  /-- The callback stays, or everything is refused from now on. -/
  callback : s'.callback = s.callback ∨ s'.callback = .reject
  /-- Jobs leave the queue, or a request joins it that passes all gates. -/
  items : s'.queue.items.Sublist s.queue.items ∨
    ∃ allow head body handler subpath, op = .request head body ∧
      s.Admits allow head handler subpath ∧
      s'.queue.items = s.queue.items ++ [⟨s.exchanges.length, handler, subpath⟩] ∧
      s'.exchanges[s.exchanges.length]? = some (.untouched head body .listening)
  /-- The exchange of a job that stays is not touched, but its waiting side may leave. -/
  kept : ∀ job ∈ s.queue.items, job ∈ s'.queue.items → ∀ x,
    s.exchanges[job.exchange]? = some x →
      ∃ waiter, s'.exchanges[job.exchange]? = some { x with slot := { x.slot with waiter } }

theorem ordered_of_shift (h : Shift s op s') (hs : s.Ordered) : s'.Ordered := by
  rcases h.items with hsub | ⟨allow, head, body, handler, subpath, _, _, hitems, hnew⟩
  · refine ⟨hs.distinct.sublist (hsub.map _), fun job hmem => ?_⟩
    exact Nat.lt_of_lt_of_le (hs.opened job (hsub.subset hmem)) h.opened
  · constructor
    · -- The new number is above all others.
      rw [hitems, List.map_append, List.nodup_append]
      refine ⟨hs.distinct, List.pairwise_singleton _ _, fun number hold other hother => ?_⟩
      rcases List.mem_map.mp hold with ⟨job, hmem, hnumber⟩
      have hlt := hs.opened job hmem
      rw [List.map_singleton, List.mem_singleton] at hother
      rw [hother, ← hnumber]
      exact Nat.ne_of_lt hlt
    · intro job hmem
      rw [hitems] at hmem
      rcases List.mem_append.mp hmem with hold | hlast
      · exact Nat.lt_of_lt_of_le (hs.opened job hold) h.opened
      · rw [List.mem_singleton.mp hlast]
        exact (List.getElem?_eq_some_iff.mp hnew).1

/-- A number that was given out and has no job in the queue gets none any more. -/
theorem absent_of_shift (h : Shift s op s') {number : Nat} (hlt : number < s.exchanges.length)
    (habsent : ∀ job ∈ s.queue.items, job.exchange ≠ number) :
    ∀ job ∈ s'.queue.items, job.exchange ≠ number := by
  intro job hmem
  rcases h.items with hsub | ⟨allow, head, body, handler, subpath, _, _, hitems, _⟩
  · exact habsent job (hsub.subset hmem)
  · rw [hitems] at hmem
    rcases List.mem_append.mp hmem with hold | hlast
    · exact habsent job hold
    · rw [List.mem_singleton.mp hlast]
      exact Nat.ne_of_gt hlt

/-! ### The operations -/

/-- An operation that changes neither the exchanges nor the jobs. -/
theorem shift_of_same (hexchanges : s'.exchanges = s.exchanges)
    (hitems : s'.queue.items = s.queue.items)
    (hcallback : s'.callback = s.callback ∨ s'.callback = .reject) : Shift s op s' := by
  refine ⟨Nat.le_of_eq (by rw [hexchanges]), hcallback,
    Or.inl (by simp only [hitems, List.Sublist.refl]), ?_⟩
  intro job _ _ x hx
  refine ⟨x.slot.waiter, ?_⟩
  rw [hexchanges]
  exact hx

/-- An operation that takes the oldest job out and touches its exchange only. -/
theorem shift_of_taken {job : Job} {rest : List Job} (hs : s.Ordered)
    (hitems : s.queue.items = job :: rest)
    (hframe : ∃ xs, s' = { s.withJobs rest with exchanges := xs })
    (hopened : s.exchanges.length ≤ s'.exchanges.length)
    (hothers : ∀ other, other ≠ job.exchange → s'.exchanges[other]? = s.exchanges[other]?) :
    Shift s op s' := by
  have hrest : s'.queue.items = rest := by
    rw [queue_of_frame hframe]
    rfl
  refine ⟨hopened, Or.inl ((callback_of_frame hframe).trans rfl), Or.inl ?_,
    fun later _ hmem x hx => ?_⟩
  · rw [hrest, hitems]
    exact List.sublist_cons_self job rest
  · -- The job that was taken has its exchange to itself.
    have hdistinct := hs.distinct
    rw [hitems, List.map_cons, List.nodup_cons] at hdistinct
    rw [hrest] at hmem
    have hne : later.exchange ≠ job.exchange := by
      intro heq
      exact hdistinct.1 (heq ▸ List.mem_map_of_mem hmem)
    refine ⟨x.slot.waiter, ?_⟩
    rw [hothers _ hne]
    exact hx

theorem shift_disconnect (s : Service) (number : Nat) : Shift s op (s.disconnect number) := by
  rcases disconnect_frame s number with ⟨xs, hframe⟩
  have hlength : s.exchanges.length = (s.disconnect number).exchanges.length :=
    (length_onExchange s number _).symm
  refine ⟨Nat.le_of_eq hlength, Or.inl (callback_of_frame ⟨xs, hframe⟩), Or.inl ?_, ?_⟩
  · simp only [queue_of_frame ⟨xs, hframe⟩, List.Sublist.refl]
  · intro job _ _ x hx
    have hget := getElem?_onExchange s number
      (fun x => { exchange := { x with slot := x.slot.leave } }) job.exchange
    by_cases heq : job.exchange = number
    · rw [if_pos heq, ← heq, hx, Option.map_some] at hget
      rw [heq] at hget ⊢
      exact ⟨.gone, hget⟩
    · rw [if_neg heq, hx] at hget
      exact ⟨x.slot.waiter, hget⟩

/-- A request that arrives is refused, or it joins the queue. -/
theorem shift_request (hs : s.Ordered) (head : RequestHead) (body : ByteArray) :
    Shift s (.request head body) (s.apply (.request head body)).1 := by
  have happly : (s.apply (.request head body)).1 =
    ((s.openExchange head body).1.handle s.exchanges.length).1 := rfl
  have hgrows : s.exchanges.length ≤ (s.openExchange head body).1.exchanges.length :=
    (delivers_openExchange (P := fun _ _ => True) s head body).opened
  rw [happly]
  -- The gate decides between the two, and neither touches the exchanges that were there before.
  cases hgate : s.gate? head with
  | some refusal =>
      rw [handle_refused hgate body]
      rcases answer_frame (s.openExchange head body).1 s.exchanges.length refusal.1 refusal.2 with
        ⟨xs, hframe⟩
      have hopened := (delivers_answer (P := fun _ _ => True) (s.openExchange head body).1
        s.exchanges.length refusal.1 refusal.2 fun _ _ => trivial).opened
      refine ⟨Nat.le_trans hgrows hopened, Or.inl (callback_of_frame ⟨xs, hframe⟩), Or.inl ?_, ?_⟩
      · rw [queue_of_frame ⟨xs, hframe⟩]
        exact List.Sublist.refl _
      · intro job hmem _ x hx
        have hlt := hs.opened job hmem
        refine ⟨x.slot.waiter, ?_⟩
        rw [getElem?_answer_ne _ _ _ (Nat.ne_of_lt hlt), getElem?_openExchange_lt s head body hlt]
        exact hx
  | none =>
      rcases admits_of_gate? hgate with ⟨allow, handler, subpath, hadmits⟩
      rw [handle_joined hadmits body]
      refine ⟨hgrows, Or.inl rfl, Or.inr ⟨allow, head, body, handler, subpath, rfl, hadmits, rfl,
        getElem?_openExchange s head body⟩, fun job hmem _ x hx => ?_⟩
      refine ⟨x.slot.waiter, ?_⟩
      exact (getElem?_openExchange_lt s head body (hs.opened job hmem)).trans hx

/-- Running the oldest job, where there is one and the queue runs. -/
theorem apply_run {job : Job} {rest : List Job} (runs : s.queue.running = true)
    (items : s.queue.items = job :: rest) :
    (s.apply .run).1 = ((s.withJobs rest).runJob job).1 ∧
      (s.apply .run).2.1 = .taken (.ran ((s.withJobs rest).describeJob job) job
        ((s.withJobs rest).runJob job).2.1) := by
  have hd : s.queue.dequeue = .item job { s.queue with items := rest } := by
    simp only [WorkQueue.dequeue, runs, items, if_true]
  simp only [apply, take, hd]
  exact ⟨rfl, rfl⟩

theorem shift_run (hs : s.Ordered) : Shift s .run (s.apply .run).1 := by
  rcases WorkQueue.dequeue_cases s.queue with ⟨_, hd⟩ | ⟨_, _, hd⟩ | ⟨job, rest, runs, items, _⟩
  · simp only [apply, take, hd]
    exact shift_of_same rfl rfl (Or.inl rfl)
  · simp only [apply, take, hd]
    exact shift_of_same rfl rfl (Or.inl rfl)
  · rw [(apply_run runs items).1]
    have hlength := length_onExchange (s.withJobs rest) job.exchange
      fun x => x.serve (s.withJobs rest).conditions job.subpath job.handler
    refine shift_of_taken hs items (onExchange_frame (s.withJobs rest) job.exchange _)
      (Nat.le_of_eq hlength.symm) fun other hne => ?_
    have hget := getElem?_onExchange (s.withJobs rest) job.exchange
      (fun x => x.serve (s.withJobs rest).conditions job.subpath job.handler) other
    rw [if_neg hne] at hget
    exact hget

theorem shift_takeBack (hs : s.Ordered) (reply : Option (Http.Status × ByteArray)) :
    Shift s (.takeBack reply) (s.apply (.takeBack reply)).1 := by
  rcases WorkQueue.dequeue_cases s.queue with ⟨_, hd⟩ | ⟨_, _, hd⟩ | ⟨job, rest, _, items, hd⟩
  · simp only [apply, take, hd]
    exact shift_of_same rfl rfl (Or.inl rfl)
  · simp only [apply, take, hd]
    exact shift_of_same rfl rfl (Or.inl rfl)
  · cases reply with
    | none =>
        simp only [apply, take, hd]
        have hdelivers := delivers_giveUp (P := fun _ _ => True) (s.withJobs rest) job.exchange
          fun _ _ => trivial
        exact shift_of_taken hs items (giveUp_frame (s.withJobs rest) job.exchange)
          hdelivers.opened fun other hne => getElem?_giveUp_ne (s.withJobs rest) hne
    | some reply =>
        simp only [apply, take, hd]
        have hdelivers := delivers_answer (P := fun _ _ => True) (s.withJobs rest) job.exchange
          reply.1 reply.2 fun _ _ => trivial
        exact shift_of_taken hs items (answer_frame (s.withJobs rest) job.exchange reply.1 reply.2)
          hdelivers.opened fun other hne => getElem?_answer_ne (s.withJobs rest) _ _ hne

theorem shift_release (s : Service) : Shift s .release (s.apply .release).1 := by
  rcases s.release_frame with ⟨xs, hframe⟩
  have hdelivers := delivers_release (P := fun _ _ => True) s fun _ _ => trivial
  have happly : (s.apply .release).1 = s.release.1 := rfl
  rw [happly]
  refine ⟨hdelivers.opened, Or.inl ?_, Or.inl ?_, ?_⟩
  · rw [hframe]
  · rw [hframe]
    exact List.nil_sublist _
  · rw [hframe]
    exact fun job _ hmem => absurd hmem List.not_mem_nil

/-- Every operation shifts the queue. -/
theorem shift_apply (hs : s.Ordered) (op : Operation) : Shift s op (s.apply op).1 := by
  cases op with
  | register m handler => exact shift_of_same rfl rfl (Or.inl rfl)
  | unregister m =>
      have happly : (s.apply (.unregister m)).1 = (s.unregister m).1 := rfl
      rw [happly, unregister_frame]
      exact shift_of_same rfl rfl (Or.inl rfl)
  | request head body => exact shift_request hs head body
  | disconnect number => exact shift_disconnect s number
  | run => exact shift_run hs
  | takeBack reply => exact shift_takeBack hs reply
  | stopAdmitting => exact shift_of_same rfl rfl (Or.inr rfl)
  | stopQueue => exact shift_of_same rfl rfl (Or.inl rfl)
  | requestShutdown => exact shift_of_same rfl rfl (Or.inl rfl)
  | release => exact shift_release s

/-! ### Running a job -/

/-- A job that is run was the oldest one in a running queue. It is run on its own
    exchange, and nothing else changes. -/
theorem ran_of_apply {description : String} {job : Job} {fault : Option Fault}
    (h : (s.apply op).2.1 = .taken (.ran description job fault)) :
    op = .run ∧ ∃ rest, s.queue.running = true ∧ s.queue.items = job :: rest ∧
      (s.apply op).1 = ((s.withJobs rest).runJob job).1 ∧
      fault = ((s.withJobs rest).runJob job).2.1 := by
  cases op with
  | run =>
      rcases WorkQueue.dequeue_cases s.queue with ⟨_, hd⟩ | ⟨_, _, hd⟩ | ⟨oldest, rest, runs, items, _⟩
      · simp only [apply, take, hd, Answer.taken.injEq, reduceCtorEq] at h
      · simp only [apply, take, hd, Answer.taken.injEq, reduceCtorEq] at h
      · rcases apply_run runs items with ⟨hservice, hanswer⟩
        rw [hanswer, Answer.taken.injEq, Taken.ran.injEq] at h
        rcases h with ⟨_, hjob, hfault⟩
        rw [← hjob]
        exact ⟨rfl, rest, runs, items, hservice, hfault.symm⟩
  | takeBack reply =>
      rcases WorkQueue.dequeue_cases s.queue with ⟨_, hd⟩ | ⟨_, _, hd⟩ | ⟨oldest, rest, _, _, hd⟩
      · simp only [apply, take, hd, Answer.taken.injEq, reduceCtorEq] at h
      · simp only [apply, take, hd, Answer.taken.injEq, reduceCtorEq] at h
      · cases reply with
        | none => simp only [apply, take, hd, Answer.taken.injEq, reduceCtorEq] at h
        | some reply => simp only [apply, take, hd, Answer.taken.injEq, reduceCtorEq] at h
  | _ => exact absurd h nofun

/-- What a turn of a worker does to the service is that the oldest job is run. -/
theorem turn_eq_apply (worker : Nat) (s : Service) :
    (Worker.turn worker s).1 = (s.apply .run).1 := by
  rcases WorkQueue.dequeue_cases s.queue with ⟨_, hd⟩ | ⟨_, _, hd⟩ | ⟨job, rest, _, _, hd⟩
  · simp only [Worker.turn, apply, take, hd]
  · simp only [Worker.turn, apply, take, hd]
  · simp only [Worker.turn, apply, take, hd]
    cases (runJob { s with queue := { s.queue with items := rest } } job).2.1 <;> rfl

end Service

end ControlPlane
