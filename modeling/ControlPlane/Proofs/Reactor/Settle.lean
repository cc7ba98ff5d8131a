import ControlPlane.Proofs.System.Interrupt
import ControlPlane.Proofs.Worker.Isolation
import ControlPlane.Reactor

/-!
# What Happens to One Request

Everything that is done to a service between the arrival of a request and its response, by
whomever, does two things for that request. It keeps the books, and while the server is closing,
whatever it replies asks to close the connection. `Honours` says both, and it composes, so it holds
of the callback, of a worker that serves everything that is queued, and of whole runs of a system.

A worker that serves what is queued also comes to the request in the end. It has its reply, or it
has a job in the queue (`Expects`). A turn that takes the job gives it a reply, since the exchange
was there to be replied to, and one that takes another job leaves it where it is. There are more
turns than jobs, so the turns end with an empty queue, unless a handler ends the process. Where
the queue was stopped before, the first turn ends them, and the jobs are given up.

## Main definitions

* `Service.Honours`: What an operation does for one request.
* `Service.Expects`: A request that has its reply, or a job in the queue.

## Theorems

* `turns_of_served`, `turns_of_ended`: The turns of a worker after the first one.
* `honours_trans`: Operations one after the other.
* `honours_handle`, `honours_settle`, `honours_run`: The callback, a worker, and runs.
* `expects_handle`: A request that went through the callback is expected to be answered.
* `reply?_settle`: It is answered once everything is settled, unless the process aborts.
-/

namespace ControlPlane

open Telemetry (Observation replies)

namespace Worker

variable {worker : Nat} {s : Service}

/-- After a turn that served a job there are the other turns. -/
theorem turns_of_served (count : Nat) {job : Job}
    (h : (turn worker s).2.1 = .served job) :
    turns worker (count + 1) s =
      ((turns worker count (turn worker s).1).1,
        (turns worker count (turn worker s).1).2.1,
        (turn worker s).2.2 ++ (turns worker count (turn worker s).1).2.2) := by
  rw [turns]
  rcases hturn : turn worker s with ⟨s', progress, told⟩
  rw [hturn] at h
  cases h
  rfl

/-- Any other turn is the last one. -/
theorem turns_of_ended (count : Nat)
    (h : ∀ job, (turn worker s).2.1 ≠ .served job) :
    turns worker (count + 1) s = turn worker s := by
  rw [turns]
  rcases hturn : turn worker s with ⟨s', progress, told⟩
  rw [hturn] at h
  cases progress with
  | served job => exact absurd rfl (h job)
  | waiting => rfl
  | exited => rfl
  | aborted job => rfl

end Worker

namespace Service

variable {number : Nat} {s s' s'' : Service} {told told' : List Observation}

/-- What an operation does for one request: it keeps the books, and while the server is closing,
    whatever it replies asks to close the connection. -/
structure Honours (number : Nat) (s s' : Service) (told : List Observation) : Prop where
  books : Books number s s' told
  closes : s.closing = true → Delivers (fun _ reply => System.asksToClose reply) s s' told

theorem honours_of_same (h : s'.exchanges = s.exchanges)
    (hclosing : s.closing = true → s'.closing = true) (silent : replies told = 0) :
    Honours number s s' told :=
  ⟨books_of_same h hclosing silent, fun _ => delivers_of_same h silent⟩

theorem honours_trans (h : Honours number s s' told) (h' : Honours number s' s'' told') :
    Honours number s s'' (told ++ told') :=
  ⟨books_trans h.books h'.books,
    fun closing => delivers_trans (h.closes closing) (h'.closes (h.books.closing closing))⟩

/-- A message that tells of no reply may be told before. -/
theorem honours_append_left (h : Honours number s s' told') (silent : replies told = 0) :
    Honours number s s' (told ++ told') :=
  honours_trans (honours_of_same rfl id silent) h

/-! ### The operations -/

theorem honours_answer (s : Service) (other : Nat) (status : Http.Status) (body : ByteArray) :
    Honours number s (s.answer other status body).1 (s.answer other status body).2 :=
  ⟨books_answer s other status body, fun closing => delivers_answer s other status body fun x _ =>
    System.asksToClose_replyWith closing status body x⟩

/-- The callback answers at a gate, or the request joins the queue. -/
theorem honours_handle (s : Service) (other : Nat) :
    Honours number s (s.handle other).1 (s.handle other).2 := by
  unfold handle
  rcases screen_cases s s.callback other with
    ⟨_, hs⟩ | ⟨x, first, _, silent, ⟨status, _, hs⟩ | ⟨allow, handler, subpath, _, _, hs⟩⟩
  · simp only [hs]
    exact honours_of_same rfl id rfl
  · simp only [hs]
    exact honours_append_left (honours_answer s other status _) silent
  · simp only [hs]
    rcases enqueue_cases s ⟨other, handler, subpath⟩ with ⟨_, hq⟩ | ⟨_, hq⟩
    · rw [hq]
      exact honours_append_left (honours_of_same rfl id rfl) silent
    · rw [hq]
      exact honours_append_left (honours_append_left (honours_answer s other _ _) rfl) silent

theorem honours_release (s : Service) : Honours number s s.release.1 s.release.2.2 :=
  ⟨books_release s, fun closing => delivers_release s fun _ x =>
    System.asksToClose_replyWith closing _ _ x⟩

theorem honours_runJob (s : Service) (job : Job) :
    Honours number s (s.runJob job).1 (s.runJob job).2.2 := by
  refine ⟨books_runJob s job, fun closing => delivers_runJob s job ?_⟩
  rintro reply ⟨x, status, body, hreply⟩
  rw [hreply]
  exact System.asksToClose_replyWith closing status body x

/-- A worker takes no job, or it serves the oldest one. -/
theorem honours_turn (worker : Nat) (s : Service) :
    Honours number s (Worker.turn worker s).1 (Worker.turn worker s).2.2 := by
  rcases WorkQueue.dequeue_cases s.queue with ⟨_, hd⟩ | ⟨_, _, hd⟩ | ⟨job, rest, _, _, hd⟩
  · simp only [Worker.turn, take, hd]
    exact honours_of_same rfl id rfl
  · simp only [Worker.turn, take, hd]
    exact honours_of_same rfl id rfl
  · rcases Worker.turn_of_item worker hd with ⟨hservice, htold⟩
    have htaken : Honours number s (s.withJobs rest) [.set .queueDepth rest.length] :=
      honours_of_same rfl id rfl
    rw [hservice, htold]
    exact honours_trans htaken
      (honours_trans (honours_runJob (s.withJobs rest) job)
        (honours_of_same rfl id (replies_fault worker job.subpath _)))

theorem honours_turns (worker count : Nat) :
    ∀ s : Service, Honours number s (Worker.turns worker count s).1
      (Worker.turns worker count s).2.2 := by
  induction count with
  | zero => exact fun s => honours_of_same rfl id rfl
  | succ count ih =>
      intro s
      cases hprogress : (Worker.turn worker s).2.1 with
      | served job =>
          rw [Worker.turns_of_served count hprogress]
          exact honours_trans (honours_turn worker s) (ih _)
      | _ =>
          rw [Worker.turns_of_ended count (by rw [hprogress]; exact nofun)]
          exact honours_turn worker s

/-- Settling is the work of one worker, and perhaps giving up what it leaves. -/
theorem settle_eq (s : Service) :
    Reactor.settle s =
      if (Worker.work 0 s).2.1 = .exited then
        ((Worker.work 0 s).1.release.1,
          (Worker.work 0 s).2.2 ++ (Worker.work 0 s).1.release.2.2)
      else ((Worker.work 0 s).1, (Worker.work 0 s).2.2) := by
  unfold Reactor.settle
  rcases Worker.work 0 s with ⟨s', progress, told⟩
  cases progress <;> rfl

theorem honours_settle (s : Service) :
    Honours number s (Reactor.settle s).1 (Reactor.settle s).2 := by
  have hwork : Honours number s (Worker.work 0 s).1 (Worker.work 0 s).2.2 := honours_turns 0 _ s
  rw [settle_eq]
  by_cases hexited : (Worker.work 0 s).2.1 = .exited
  · rw [if_pos hexited]
    exact honours_trans hwork (honours_release _)
  · rw [if_neg hexited]
    exact hwork

/-- So does every run of a system, as long as the client of the request does not leave. -/
theorem honours_run (y : System) (steps : List System.Step) (stays : .leave number ∉ steps) :
    Honours number y.service (y.run steps).1.service (y.run steps).2 :=
  ⟨System.books_run steps y stays, System.closes_of_closing steps y⟩

/-! ### Who is answered -/

/-- The request has its reply, or a job in the queue, and there is somebody to reply. -/
structure Expects (s : Service) (number : Nat) : Prop where
  alive : ∃ x, s.exchanges[number]? = some x ∧ x.slot.trigger ≠ .dropped
  comes : (∃ reply, s.reply? number = some reply) ∨ number ∈ s.queue.items.map (·.exchange)

/-- An exchange that can be replied to has its reply or is pending. -/
theorem reply?_or_isPending {x : Exchange} (there : s.exchanges[number]? = some x)
    (alive : x.slot.trigger ≠ .dropped) :
    (∃ reply, s.reply? number = some reply) ∨ x.isPending = true := by
  cases htrigger : x.slot.trigger with
  | dropped => exact absurd htrigger alive
  | ready => exact .inr ((Exchange.isPending_iff x).mpr htrigger)
  | fired reply =>
      refine .inl ⟨reply, ?_⟩
      rw [reply?, there, Option.bind_some]
      exact Exchange.sent?_of_fired htrigger

/-- What honours a request leaves somebody to reply to it. -/
theorem alive_of_honours (h : Honours number s s' told)
    (alive : ∃ x, s.exchanges[number]? = some x ∧ x.slot.trigger ≠ .dropped) :
    ∃ x, s'.exchanges[number]? = some x ∧ x.slot.trigger ≠ .dropped := by
  rcases alive with ⟨x, hx, hready⟩
  rcases h.books.keeps x hx with ⟨x', hx', hkeeps⟩
  exact ⟨x', hx', fun hdropped => hready (hkeeps.alive hdropped)⟩

/-- A job that is run gets its request a reply. -/
theorem exists_reply?_runJob {job : Job} {x : Exchange}
    (there : s.exchanges[job.exchange]? = some x) (alive : x.slot.trigger ≠ .dropped) :
    ∃ reply, (s.runJob job).1.reply? job.exchange = some reply := by
  rcases reply?_or_isPending there alive with ⟨reply, hreply⟩ | pending
  · exact ⟨reply, reply?_runJob_of_some hreply job⟩
  · rw [runJob, reply?_onExchange, if_pos rfl, there]
    exact ⟨_, Exchange.sent?_serve s.conditions job.subpath job.handler x pending⟩

/-- A request that is expected to be answered still is after the oldest job was run. -/
theorem expects_runJob {job : Job} {rest : List Job} (items : s.queue.items = job :: rest)
    (h : s.Expects number) : ((s.withJobs rest).runJob job).1.Expects number := by
  have hrun : Honours number (s.withJobs rest) ((s.withJobs rest).runJob job).1
      ((s.withJobs rest).runJob job).2.2 := honours_runJob (s.withJobs rest) job
  refine ⟨alive_of_honours hrun h.alive, ?_⟩
  rcases h.comes with ⟨reply, hreply⟩ | hqueued
  · exact .inl ⟨reply, reply?_runJob_of_some (s := s.withJobs rest) hreply job⟩
  · rw [items, List.map_cons, List.mem_cons] at hqueued
    rcases hqueued with heq | hlater
    · rcases h.alive with ⟨x, hx, halive⟩
      rw [heq] at hx ⊢
      exact .inl (exists_reply?_runJob (s := s.withJobs rest) hx halive)
    · have hqueue : ((s.withJobs rest).runJob job).1.queue = (s.withJobs rest).queue :=
        queue_of_frame (onExchange_frame (s.withJobs rest) job.exchange _)
      rw [hqueue]
      exact .inr hlater

/-- With a turn for each job and one more, a worker comes to the request, unless it stops
    before. -/
theorem reply?_turns (worker count : Nat) :
    ∀ s : Service, s.Expects number → s.queue.running = true → s.queue.size < count →
      (Worker.turns worker count s).2.1.isAborted = false →
      ∃ reply, (Worker.turns worker count s).1.reply? number = some reply := by
  induction count with
  | zero => exact fun s _ _ hsize _ => absurd hsize (Nat.not_lt_zero _)
  | succ count ih =>
      intro s h runs hsize
      rcases Worker.turn_cases worker s with
        ⟨hstopped, _⟩ | ⟨_, hempty, hservice, hprogress⟩ |
          ⟨job, rest, _, items, hservice, hprogress⟩
      · rw [runs] at hstopped
        cases hstopped
      · -- Nothing is queued, so the reply is there.
        rw [Worker.turns_of_ended count (by rw [hprogress]; exact nofun), hservice]
        intro _
        rcases h.comes with hreply | hqueued
        · exact hreply
        · rw [hempty] at hqueued
          cases hqueued
      · by_cases hfatal : (((s.withJobs rest).runJob job).2.1).any Worker.isFatal = true
        · rw [if_pos hfatal] at hprogress
          rw [Worker.turns_of_ended count (by rw [hprogress]; exact nofun), hprogress]
          intro goes
          cases goes
        · rw [if_neg hfatal] at hprogress
          rw [Worker.turns_of_served count hprogress, hservice]
          have hqueue : ((s.withJobs rest).runJob job).1.queue = (s.withJobs rest).queue :=
            queue_of_frame (onExchange_frame (s.withJobs rest) job.exchange _)
          have hleft : ((s.withJobs rest).runJob job).1.queue.size < count := by
            rw [WorkQueue.size, items, List.length_cons] at hsize
            rw [hqueue]
            exact Nat.lt_of_succ_lt_succ hsize
          exact ih _ (expects_runJob items h) ((congrArg WorkQueue.running hqueue).trans runs) hleft

/-- A queue that is given up answers the request, if it was not answered before. -/
theorem reply?_release (h : s.Expects number) :
    ∃ reply, s.release.1.reply? number = some reply := by
  have hkept := (delivers_release (P := fun _ _ => True) s fun _ _ => trivial).kept
  rcases h.comes with ⟨reply, hreply⟩ | hqueued
  · exact ⟨reply, hkept number reply hreply⟩
  · rcases h.alive with ⟨x, hx, halive⟩
    rcases reply?_or_isPending hx halive with ⟨reply, hreply⟩ | pending
    · exact ⟨reply, hkept number reply hreply⟩
    · exact ⟨_, reply?_giveUpAll pending s.queue.items
        { s with queue := { s.queue with items := [] } } hx hqueued⟩

/-- Settling answers the request, unless a handler ends the process. -/
theorem reply?_settle (h : s.Expects number) (goes : (Worker.work 0 s).2.1.isAborted = false) :
    ∃ reply, (Reactor.settle s).1.reply? number = some reply := by
  rw [settle_eq]
  cases hruns : s.queue.running with
  | false =>
      -- The first turn finds the queue stopped and leaves everything as it was.
      have hwork : Worker.work 0 s = (s, .exited, [Worker.exitEvent 0]) := by
        simp only [Worker.work, Worker.turns, Worker.turn, take, WorkQueue.dequeue, hruns]
        rfl
      rw [if_pos (by rw [hwork]), hwork]
      exact reply?_release h
  | true =>
      rcases reply?_turns 0 (s.queue.size + 1) s h hruns (Nat.lt_succ_self _) goes with
        ⟨reply, hreply⟩
      by_cases hexited : (Worker.work 0 s).2.1 = .exited
      · rw [if_pos hexited]
        exact ⟨reply, (delivers_release (P := fun _ _ => True) _ fun _ _ => trivial).kept
          number reply hreply⟩
      · rw [if_neg hexited]
        exact ⟨reply, hreply⟩

/-- A new request that went through the callback was answered or has a job. -/
theorem expects_handle (s : Service) (head : RequestHead) (body : ByteArray) :
    ((s.openExchange head body).1.handle s.exchanges.length).1.Expects s.exchanges.length := by
  have hnew := getElem?_openExchange s head body
  refine ⟨alive_of_honours (honours_handle _ _) ⟨_, hnew, nofun⟩, ?_⟩
  cases hgate : s.gate? head with
  | some refusal =>
      rw [handle_refused hgate body]
      exact .inl ⟨_, reply?_answer hnew (Exchange.isPending_untouched head body .listening) _ _⟩
  | none =>
      rcases admits_of_gate? hgate with ⟨allow, handler, subpath, hadmits⟩
      rw [handle_joined hadmits body]
      refine .inr ?_
      simp only [withJobs, List.map_append, List.mem_append]
      exact .inr (List.mem_singleton_self _)

end Service

end ControlPlane
