import ControlPlane.Proofs.Exchange.Books
import ControlPlane.Proofs.Telemetry.Standing
import ControlPlane.Proofs.Worker.Isolation
import Mathlib.Data.List.Induction

/-!
# The Gauge of the Queue

A request that joins the queue shows how many jobs wait after it, and a worker that takes one
shows how many it leaves. Whatever else is done to a service says nothing of the queue and leaves
the jobs in it, with one exception: releasing the queue takes all of them out and does not show
that none is left (`Shown`).

So the gauge shows the jobs that wait and, besides, those that were released since it was set for
the last time (`unshown`). This is an equation, and every occurrence keeps it. The gauge tells the
truth exactly while no released job is unshown, and that is so in every history in which the queue
is never released with jobs in it.

## Main definitions

* `Occurrence`, `Service.occur`, `Service.play`: What can happen around the queue.
* `Shown`: What an occurrence shows of the queue.
* `unshown`: The jobs released since the gauge was set.
* `Gauged`: What the gauge shows after a history.

## Theorems

* `shown_request`, `shown_turn`, `shown_occur`: What each occurrence shows.
* `standing_play`: The gauge shows the jobs that wait and those that are unshown.
* `gauged_of_play`: All of it, for every history.
* `standing_ne_size_released`: A history after which the gauge is wrong.
-/

namespace ControlPlane

open Telemetry (Observation gauges settings standing)

namespace Service

variable {s s' : Service} {told : List Observation}

/-! ### What sets no gauge -/

theorem gauges_onExchange (number : Nat) (act : Exchange → Outcome)
    (h : ∀ x, gauges (act x).told = []) : gauges (s.onExchange number act).2.2 = [] := by
  unfold onExchange
  cases s.exchanges[number]? with
  | none => rfl
  | some x => exact h x

theorem gauges_giveUp (s : Service) (number : Nat) : gauges (s.giveUp number).2 = [] :=
  gauges_onExchange number _ fun x => (Exchange.books_release s.conditions x).gauges

theorem gauges_answer (s : Service) (number : Nat) (status : Http.Status) (body : ByteArray) :
    gauges (s.answer number status body).2 = [] := by
  have hwritten := gauges_onExchange (s := s) number
    (fun x => x.writeReply s.conditions status body)
    fun x => (Exchange.books_writeReply s.conditions status body x).gauges
  have hgiven := gauges_giveUp
    (s.onExchange number fun x => x.writeReply s.conditions status body).1 number
  simp only [answer, Telemetry.gauges_append, hwritten, hgiven, List.append_nil]

theorem gauges_giveUpAll (jobs : List Job) : ∀ s : Service, gauges (s.giveUpAll jobs).2 = [] := by
  induction jobs with
  | nil =>
      intro s
      rfl
  | cons job rest ih =>
      intro s
      simp only [giveUpAll, Telemetry.gauges_append, gauges_giveUp, ih, List.append_nil]

theorem gauges_runJob (s : Service) (job : Job) : gauges (s.runJob job).2.2 = [] :=
  gauges_onExchange job.exchange _ fun x =>
    (Exchange.books_serve s.conditions job.subpath job.handler x).gauges

theorem gauges_screen (s : Service) (callback : Callback) (number : Nat) :
    gauges (s.screen callback number).2.2 = [] := by
  unfold screen
  cases s.exchanges[number]? with
  | none => rfl
  | some x =>
      cases callback with
      | reject => exact gauges_answer s number _ _
      | dispatch allow =>
          have hfirst : gauges ((if s.dumps then [Dump.request x.head x.body] else []) ++
              [(Verdict.ofHead allow s.routes x.head).told x.head]) = [] := by
            cases s.dumps <;> cases Verdict.ofHead allow s.routes x.head <;> rfl
          cases hv : Verdict.ofHead allow s.routes x.head with
          | admitted handler subpath =>
              rw [hv] at hfirst
              simp only [hv, hfirst]
          | _ =>
              rw [hv] at hfirst
              simp only [hv, Telemetry.gauges_append _ (s.answer ..).2, hfirst, gauges_answer,
                List.append_nil]

/-! ### Occurrences -/

/-- What can happen around the queue, one thing at a time. -/
inductive Occurrence where
  /-- A request arrives and goes through the callback. -/
  | request (head : RequestHead) (body : ByteArray)
  /-- A worker takes a job and runs it, if it can. -/
  | turn (worker : Nat)
  /-- The queue is stopped. -/
  | interrupt
  /-- What waits in the queue is given up. -/
  | release
  /-- Every request is refused from now on. -/
  | stopAdmitting
  | requestShutdown
  | disconnect (number : Nat)
  | register (m : Matcher) (handler : Handler)
  | unregister (m : Matcher)

/-- Something happens, and something is told of it. -/
def occur (s : Service) : Occurrence → Service × List Observation
  | .request head body => (s.openExchange head body).1.handle s.exchanges.length
  | .turn worker => ((Worker.turn worker s).1, (Worker.turn worker s).2.2)
  | .interrupt => (s.stopQueue, [])
  | .release => (s.release.1, s.release.2.2)
  | .stopAdmitting => (s.stopAdmitting, [])
  | .requestShutdown => s.requestShutdown
  | .disconnect number => (s.disconnect number, [])
  | .register m handler => s.register m handler
  | .unregister m => ((s.unregister m).1, (s.unregister m).2.2)

/-- What happens one after the other. -/
def play (s : Service) : List Occurrence → Service × List Observation
  | [] => (s, [])
  | o :: rest => (((s.occur o).1.play rest).1, (s.occur o).2 ++ ((s.occur o).1.play rest).2)

theorem play_concat (past : List Occurrence) (o : Occurrence) :
    ∀ s : Service, s.play (past ++ [o]) =
      (((s.play past).1.occur o).1, (s.play past).2 ++ ((s.play past).1.occur o).2) := by
  induction past with
  | nil =>
      intro s
      simp only [List.nil_append, play, List.append_nil]
  | cons first rest ih =>
      intro s
      simp only [List.cons_append, play, ih, List.append_assoc]

/-- The jobs that an occurrence releases. -/
def Occurrence.released (s : Service) : Occurrence → Nat
  | .release => s.queue.size
  | _ => 0

/-- What an occurrence shows of the queue. -/
inductive Shown (s : Service) (o : Occurrence) (s' : Service) (told : List Observation) : Prop
  /-- It shows how many jobs wait afterwards. -/
  | set (last : settings .queueDepth told = [s'.queue.size])
  /-- It shows nothing and releases nothing, and the same jobs wait as before. -/
  | kept (silent : settings .queueDepth told = []) (unreleased : o.released s = 0)
      (same : s'.queue.items = s.queue.items)
  /-- It releases all jobs and shows nothing. -/
  | emptied (silent : settings .queueDepth told = []) (released : o.released s = s.queue.size)
      (empty : s'.queue.items = [])

theorem settings_of_gauges (h : gauges told = []) : settings .queueDepth told = [] := by
  rw [settings, h, List.filterMap_nil]

/-- A request is refused, or it joins the queue and shows how many wait now. -/
theorem shown_request (s : Service) (head : RequestHead) (body : ByteArray) :
    Shown s (.request head body) (s.occur (.request head body)).1
      (s.occur (.request head body)).2 := by
  have hscreened := gauges_screen (s.openExchange head body).1 s.callback s.exchanges.length
  have hqueue := queue_of_frame
    (screen_frame (s.openExchange head body).1 s.callback s.exchanges.length)
  have hcallback : (s.openExchange head body).1.callback = s.callback := rfl
  have hsame : (s.openExchange head body).1.queue = s.queue := rfl
  rcases hs : (s.openExchange head body).1.screen s.callback s.exchanges.length with
    ⟨mid, job?, screened⟩
  rw [hs] at hscreened hqueue
  cases job? with
  | none =>
      have hoccur : s.occur (.request head body) = (mid, screened) := by
        simp only [occur, handle, hcallback, hs]
      rw [hoccur]
      exact .kept (settings_of_gauges hscreened) rfl (by rw [hqueue, hsame])
  | some job =>
      have hoccur : s.occur (.request head body) =
          ((mid.enqueue job).1, screened ++ (mid.enqueue job).2) := by
        simp only [occur, handle, hcallback, hs]
      rw [hoccur]
      rcases mid.enqueue_cases job with ⟨_, hqueued⟩ | ⟨_, hqueued⟩
      · rw [hqueued]
        refine .set ?_
        rw [Telemetry.settings_append, settings_of_gauges hscreened]
        rfl
      · -- The queue is full, and the request is answered instead.
        rw [hqueued]
        refine .kept (settings_of_gauges ?_) rfl ?_
        · rw [Telemetry.gauges_append, Telemetry.gauges_append, hscreened, gauges_answer]
          rfl
        · rw [queue_of_frame (answer_frame mid job.exchange _ _), hqueue, hsame]

/-- A worker finds nothing to take, or it shows how many jobs it leaves. -/
theorem shown_turn (s : Service) (worker : Nat) :
    Shown s (.turn worker) (s.occur (.turn worker)).1 (s.occur (.turn worker)).2 := by
  rcases WorkQueue.dequeue_cases s.queue with ⟨_, hd⟩ | ⟨_, _, hd⟩ | ⟨job, rest, _, _, hd⟩
  · simp only [occur, Worker.turn, take, hd]
    exact .kept rfl rfl rfl
  · simp only [occur, Worker.turn, take, hd]
    exact .kept rfl rfl rfl
  · rcases Worker.turn_of_item worker hd with ⟨hservice, htold⟩
    have hqueue := queue_of_frame (onExchange_frame (s.withJobs rest) job.exchange fun x =>
      x.serve (s.withJobs rest).conditions job.subpath job.handler)
    -- What the handler does tells nothing of the queue, and neither does its fault.
    have hfault : gauges (((s.withJobs rest).runJob job).2.1.map
        (Worker.faultEvent worker job.subpath)).toList = [] := by
      cases ((s.withJobs rest).runJob job).2.1 with
      | none => rfl
      | some fault => cases fault <;> rfl
    refine .set ?_
    rw [occur, hservice, htold, Telemetry.settings_set, Telemetry.settings_append,
      settings_of_gauges (gauges_runJob _ job), settings_of_gauges hfault]
    exact congrArg (fun queue : WorkQueue Job => [queue.size]) hqueue.symm

/-- What each occurrence shows of the queue. -/
theorem shown_occur (s : Service) (o : Occurrence) :
    Shown s o (s.occur o).1 (s.occur o).2 := by
  cases o with
  | request head body => exact shown_request s head body
  | turn worker => exact shown_turn s worker
  | interrupt => exact .kept rfl rfl rfl
  | release =>
      rcases release_frame s with ⟨xs, hframe⟩
      refine .emptied ?_ rfl (by rw [occur, hframe])
      exact settings_of_gauges (gauges_giveUpAll s.queue.items _)
  | stopAdmitting => exact .kept rfl rfl rfl
  | requestShutdown =>
      refine .kept ?_ rfl rfl
      simp only [occur, requestShutdown]
      cases s.closing <;> rfl
  | disconnect number =>
      refine .kept rfl rfl ?_
      rw [occur, queue_of_frame (disconnect_frame s number)]
  | register m handler => exact .kept rfl rfl rfl
  | unregister m =>
      refine .kept ?_ rfl (by rw [occur, unregister_frame])
      simp only [occur, unregister]
      by_cases hm : s.routes.has m = true
      · rw [if_pos hm]
        rfl
      · rw [if_neg hm]
        rfl

/-! ### Histories -/

/-- The jobs that were released since the gauge was set for the last time, when so many were
    before the history. -/
def unshown (s : Service) (before : Nat) : List Occurrence → Nat
  | [] => before
  | o :: rest =>
    unshown (s.occur o).1
      (if settings .queueDepth (s.occur o).2 = [] then before + o.released s else 0) rest

theorem unshown_concat (past : List Occurrence) (o : Occurrence) :
    ∀ (s : Service) (before : Nat), s.unshown before (past ++ [o]) =
      if settings .queueDepth ((s.play past).1.occur o).2 = [] then
        s.unshown before past + o.released (s.play past).1
      else 0 := by
  induction past with
  | nil =>
      intro s before
      rfl
  | cons first rest ih =>
      intro s before
      exact ih (s.occur first).1 _

theorem released_of_ne {o : Occurrence} (h : o ≠ .release) : o.released s = 0 := by
  cases o with
  | release => exact absurd rfl h
  | _ => rfl

/-- The gauge shows the jobs that wait and those that were released since it was set, by
    induction along the history. -/
theorem standing_play (h : s.queue.items = []) (past : List Occurrence) :
    standing .queueDepth (s.play past).2 = (s.play past).1.queue.size + s.unshown 0 past := by
  induction past using List.reverseRecOn with
  | nil =>
      rw [play, unshown, WorkQueue.size, h]
      rfl
  | append_singleton past o ih =>
      rw [play_concat, unshown_concat]
      cases shown_occur (s.play past).1 o with
      | set last =>
          rw [if_neg (by rw [last]; exact List.cons_ne_nil _ _), Nat.add_zero]
          exact Telemetry.standing_append_of_last (by rw [last]; rfl)
      | kept silent unreleased same =>
          rw [if_pos silent, Telemetry.standing_append_of_nil silent, unreleased, ih]
          simp only [WorkQueue.size, same, Nat.add_zero]
      | emptied silent released empty =>
          -- What waited before is what is unshown now.
          rw [if_pos silent, Telemetry.standing_append_of_nil silent, ih, WorkQueue.size,
            WorkQueue.size, empty, released, WorkQueue.size, List.length_nil]
          omega

/-- Jobs stay unshown only while none waits. -/
theorem unshown_or_empty (s : Service) (past : List Occurrence) :
    s.unshown 0 past = 0 ∨ (s.play past).1.queue.items = [] := by
  induction past using List.reverseRecOn with
  | nil => exact .inl rfl
  | append_singleton past o ih =>
      rw [play_concat, unshown_concat]
      cases shown_occur (s.play past).1 o with
      | set last =>
          left
          rw [if_neg (by rw [last]; exact List.cons_ne_nil _ _)]
      | kept silent unreleased same =>
          rw [if_pos silent, unreleased, same]
          exact ih
      | emptied silent released empty => exact .inr empty

/-- Nothing is unshown where the queue was empty whenever it was released. -/
theorem unshown_of_empty (past : List Occurrence)
    (h : ∀ before after, past = before ++ .release :: after →
      (s.play before).1.queue.items = []) : s.unshown 0 past = 0 := by
  induction past using List.reverseRecOn with
  | nil => rfl
  | append_singleton past o ih =>
      have hpast : s.unshown 0 past = 0 := by
        refine ih fun before after heq => h before (after ++ [o]) ?_
        rw [heq, List.append_assoc]
        rfl
      have hreleased : o.released (s.play past).1 = 0 := by
        by_cases heq : o = .release
        · have hempty := h past [] (by rw [heq])
          rw [heq, Occurrence.released, WorkQueue.size, hempty, List.length_nil]
        · exact released_of_ne heq
      rw [unshown_concat, hpast, hreleased, Nat.add_zero, ite_self]

/-- What the gauge shows after a history of a service. -/
structure Gauged (start : Service) (past : List Occurrence) : Prop where
  /-- It shows the jobs that wait and those that were released since it was set. -/
  sum : standing .queueDepth (start.play past).2 =
    (start.play past).1.queue.size + start.unshown 0 past
  /-- So it shows how many jobs wait exactly if no released job is unshown. -/
  truthful : standing .queueDepth (start.play past).2 = (start.play past).1.queue.size ↔
    start.unshown 0 past = 0
  /-- While it is wrong, no job waits. -/
  empty : standing .queueDepth (start.play past).2 ≠ (start.play past).1.queue.size →
    (start.play past).1.queue.items = []
  /-- It is right where the queue was empty whenever it was released. -/
  unreleased : (∀ before after, past = before ++ .release :: after →
      (start.play before).1.queue.items = []) →
    standing .queueDepth (start.play past).2 = (start.play past).1.queue.size

/-- The gauge is right after everything but the release of a queue with jobs in it, and wrong
    after that until it is set again. -/
theorem gauged_of_play (routes : RouteTable Handler) (allow : AllowList) (depth : Nat)
    (dumps : Bool) (past : List Occurrence) : Gauged (started routes allow depth dumps) past := by
  have hsum := standing_play (s := started routes allow depth dumps) rfl past
  have htruthful : standing .queueDepth ((started routes allow depth dumps).play past).2 =
      ((started routes allow depth dumps).play past).1.queue.size ↔
      (started routes allow depth dumps).unshown 0 past = 0 := by
    rw [hsum]
    omega
  constructor
  case sum => exact hsum
  case truthful => exact htruthful
  case empty =>
      intro hwrong
      rcases unshown_or_empty (started routes allow depth dumps) past with hnone | hempty
      · exact absurd (htruthful.mpr hnone) hwrong
      · exact hempty
  case unreleased => exact fun h => htruthful.mpr (unshown_of_empty past h)

/-- A request joins the queue, and the queue is released. -/
def abandoned : List Occurrence :=
  [.request ⟨⟨.v4 Address.loopback4, 40000, 0⟩, .get, "/", []⟩ ByteArray.empty, .release]

/-- The gauge still shows the request that was released. -/
theorem standing_ne_size_released :
    standing .queueDepth
        ((started ⟨[(⟨"/", .exact⟩, [])]⟩ .standard 4 false).play abandoned).2 = 1 ∧
      ((started ⟨[(⟨"/", .exact⟩, [])]⟩ .standard 4 false).play abandoned).1.queue.size = 0 := by
  decide +kernel

end Service

end ControlPlane
