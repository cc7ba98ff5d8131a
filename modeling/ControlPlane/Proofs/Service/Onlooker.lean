import ControlPlane.Proofs.Exchange.Onlooker
import ControlPlane.Proofs.WorkQueue.Effect
import ControlPlane.Service.Operation
import ControlPlane.Worker

/-!
# Onlookers of a Service

What is done to a service comes to the same whether clients have left and whether whole
requests and replies are dumped. As for one exchange, this is said by comparing the service
with the one where certain clients have stayed and nothing is dumped (`attended`): doing
something to that one gives what doing it to the service gives, seen in the same way. The
answers are the same, and so are the figures told.

Which clients these are is a parameter. Their leaving is what cannot be seen any more
(`attended_disconnect`). All other operations commute with this view.

## Main definitions

* `Service.attended`: A service whose clients have stayed.
* `Deed`: What a handler is given, what it reads, and how it fails.
* `Service.begins`, `Service.deeds`: What the next job comes to for its handler.

## Theorems

* `answers_onExchange`: What is done to one exchange.
* `answers_apply`: Every operation but a leaving client.
* `attended_disconnect`: A leaving client.
* `answers_turn`: A turn of a worker.
* `begins_attended`, `deeds_attended`: Handlers are given the same, read the same and fail in
  the same way.
-/

namespace ControlPlane

open Telemetry (Observation figures)

/-- What a handler is given, what it reads, and how it fails. -/
inductive Deed where
  /-- The handler of a job is invoked, for the request with this head. -/
  | begun (job : Job) (head : Option RequestHead)
  /-- The handler that serves this exchange reads something. -/
  | read (exchange : Nat) (reading : Reading)
  /-- The handler that serves this exchange fails. -/
  | failed (exchange : Nat) (fault : Fault)
  deriving DecidableEq

namespace Service

/-- The service as it would be if these clients had stayed and nothing were dumped. -/
def attended (left : List Nat) (s : Service) : Service :=
  { s with
    dumps := false
    exchanges := s.exchanges.mapIdx fun number x => x.attended (left.contains number) }

/-- The handler of a job is invoked. -/
def invocation (s : Service) (job : Job) : Deed :=
  .begun job ((s.exchanges[job.exchange]?).map (·.head))

/-- What certain actions of a job read. -/
def readings (s : Service) (job : Job) (actions : List Action) : List Deed :=
  match s.exchanges[job.exchange]? with
  | none => []
  | some x => (x.readings s.conditions job.subpath actions).map (.read job.exchange)

/-- How the handler of a job fails, if it does. -/
def failure (job : Job) (fault : Option Fault) : List Deed :=
  (fault.map (.failed job.exchange)).toList

/-- The handler of the next job is invoked, if there is one to take. -/
def begins (s : Service) : List Deed :=
  match s.take with
  | (.item job _, s) => [s.invocation job]
  | _ => []

/-- What running the next job comes to for its handler. -/
def deeds (s : Service) : List Deed :=
  match s.take with
  | (.item job _, s) =>
    s.invocation job :: s.readings job job.handler ++ failure job (s.runJob job).2.1
  | _ => []

variable (left : List Nat) (s : Service) (number : Nat)

@[simp] theorem routes_attended : (s.attended left).routes = s.routes := rfl

@[simp] theorem callback_attended : (s.attended left).callback = s.callback := rfl

@[simp] theorem queue_attended : (s.attended left).queue = s.queue := rfl

@[simp] theorem dumps_attended : (s.attended left).dumps = false := rfl

theorem getElem?_attended :
    (s.attended left).exchanges[number]? =
      (s.exchanges[number]?).map (Exchange.attended (left.contains number)) :=
  List.getElem?_mapIdx

/-! ### Single exchanges -/

/-- What is done to one exchange comes to the same if it does for that exchange. -/
theorem answers_onExchange {act' act : Exchange → Outcome}
    (h : ∀ x, Outcome.Agrees (left.contains number) (act' (x.attended (left.contains number)))
      (act x)) :
    Answers (attended left) ((s.attended left).onExchange number act') (s.onExchange number act) := by
  simp only [onExchange, getElem?_attended]
  cases s.exchanges[number]? with
  | none => exact ⟨rfl, rfl, rfl⟩
  | some x =>
      refine ⟨?_, (h x).fault, (h x).figures⟩
      simp only [attended, Option.map_some, (h x).exchange, List.mapIdx_set]

theorem agrees_giveUp : Agrees (attended left) ((s.attended left).giveUp number) (s.giveUp number) := by
  have hact : Answers (attended left)
      ((s.attended left).onExchange number fun x =>
        { exchange := (x.release s.conditions.silent).1, told := (x.release s.conditions.silent).2 })
      (s.onExchange number fun x =>
        { exchange := (x.release s.conditions).1, told := (x.release s.conditions).2 }) :=
    answers_onExchange left s number fun x =>
      have hreleased := Exchange.agrees_release (left.contains number) s.conditions x
      ⟨hreleased.state, rfl, hreleased.figures⟩
  exact ⟨hact.state, hact.figures⟩

theorem agrees_answer (status : Http.Status) (body : ByteArray) :
    Agrees (attended left) ((s.attended left).answer number status body) (s.answer number status body) := by
  have hwritten : Answers (attended left)
      ((s.attended left).onExchange number fun x => x.writeReply s.conditions.silent status body)
      (s.onExchange number fun x => x.writeReply s.conditions status body) :=
    answers_onExchange left s number fun x => Exchange.agrees_writeReply _ s.conditions x status body
  have hreleased := agrees_giveUp left
    (s.onExchange number fun x => x.writeReply s.conditions status body).1 number
  rw [← hwritten.state] at hreleased
  refine ⟨hreleased.state, ?_⟩
  have htold : figures ((s.attended left).answer number status body).2 =
      figures ((s.attended left).onExchange number fun x =>
        x.writeReply s.conditions.silent status body).2.2 ++
      figures (((s.attended left).onExchange number fun x =>
        x.writeReply s.conditions.silent status body).1.giveUp number).2 :=
    Telemetry.figures_append _ _
  rw [htold, hwritten.figures, hreleased.figures]
  exact (Telemetry.figures_append _ _).symm

/-- Requests are given up in order, by induction on the jobs. -/
theorem agrees_giveUpAll (jobs : List Job) :
    Agrees (attended left) ((s.attended left).giveUpAll jobs) (s.giveUpAll jobs) := by
  induction jobs generalizing s with
  | nil => exact ⟨rfl, rfl⟩
  | cons job rest ih =>
      have hfirst := agrees_giveUp left s job.exchange
      have hothers := ih (s.giveUp job.exchange).1
      simp only [giveUpAll, hfirst.state]
      refine ⟨hothers.state, ?_⟩
      simp only [Telemetry.figures_append, hfirst.figures, hothers.figures]

theorem answers_runJob (job : Job) :
    Answers (attended left) ((s.attended left).runJob job) (s.runJob job) :=
  answers_onExchange left s job.exchange fun x =>
    Exchange.agrees_serve _ s.conditions job.subpath x job.handler

theorem answers_act (job : Job) (action : Action) :
    Answers (attended left) ((s.attended left).act job action) (s.act job action) :=
  answers_onExchange left s job.exchange fun x =>
    Exchange.agrees_perform _ s.conditions job.subpath x action

/-! ### Arrival -/

theorem openExchange_attended (head : RequestHead) (body : ByteArray) :
    (s.attended left).openExchange head body =
      ((s.openExchange head body).1.attended left, (s.openExchange head body).2) := by
  have hnew : Exchange.attended (left.contains s.exchanges.length) { head := head, body := body } =
      { head := head, body := body } := by
    cases left.contains s.exchanges.length <;> rfl
  simp only [openExchange, attended, List.mapIdx_concat, hnew, List.length_mapIdx]

/-- Screening looks at the head only, and a dump of the request is an event. -/
theorem answers_screen (callback : Callback) :
    Answers (attended left) ((s.attended left).screen callback number) (s.screen callback number) := by
  have hdump : ∀ x : Exchange, figures (if s.dumps then [Dump.request x.head x.body] else []) = [] := by
    intro x
    cases s.dumps <;> rfl
  have htold : ∀ (head : RequestHead) (verdict : Verdict), figures [verdict.told head] = [] := by
    intro head verdict
    cases verdict <;> rfl
  have hanswer := agrees_answer left s number
  simp only [screen, getElem?_attended]
  cases hx : s.exchanges[number]? with
  | none => exact ⟨rfl, rfl, rfl⟩
  | some x =>
      cases callback with
      | reject => exact ⟨(hanswer _ _).state, rfl, (hanswer _ _).figures⟩
      | dispatch allow =>
          have hhead : (x.attended (left.contains number)).head = x.head := rfl
          simp only [Option.map_some, routes_attended, dumps_attended, hhead]
          -- Every refusal is answered in the same way.
          cases hv : Verdict.ofHead allow s.routes x.head with
          | admitted handler subpath =>
              refine ⟨rfl, rfl, ?_⟩
              simp only [Telemetry.figures_append, hdump, htold]
              rfl
          | forbidden =>
              refine ⟨(hanswer _ _).state, rfl, ?_⟩
              simp only [Telemetry.figures_append, hdump, htold, (hanswer _ _).figures]
              rfl
          | unknownMethod =>
              refine ⟨(hanswer _ _).state, rfl, ?_⟩
              simp only [Telemetry.figures_append, hdump, htold, (hanswer _ _).figures]
              rfl
          | unrouted =>
              refine ⟨(hanswer _ _).state, rfl, ?_⟩
              simp only [Telemetry.figures_append, hdump, htold, (hanswer _ _).figures]
              rfl

theorem agrees_enqueue (job : Job) :
    Agrees (attended left) ((s.attended left).enqueue job) (s.enqueue job) := by
  unfold enqueue
  rw [queue_attended]
  cases s.queue.enqueue job with
  | ok queue => exact ⟨rfl, rfl⟩
  | error job =>
      have hanswer := agrees_answer left s job.exchange .internalError overloadBody
      refine ⟨hanswer.state, ?_⟩
      simp only [overloadEvent, Telemetry.figures_log, Telemetry.figures_count, hanswer.figures]

theorem agrees_handle : Agrees (attended left) ((s.attended left).handle number) (s.handle number) := by
  have hscreened := answers_screen left s number s.callback
  unfold handle
  rw [callback_attended]
  simp only [hscreened.state, hscreened.answer]
  cases (s.screen s.callback number).2.1 with
  | none => exact ⟨rfl, hscreened.figures⟩
  | some job =>
      have hqueued := agrees_enqueue left (s.screen s.callback number).1 job
      refine ⟨hqueued.state, ?_⟩
      simp only [Telemetry.figures_append, hscreened.figures, hqueued.figures]

/-! ### The queue -/

theorem take_attended : (s.attended left).take = ((s.take).1, (s.take).2.attended left) := by
  unfold take
  rw [queue_attended]
  cases s.queue.dequeue with
  | blocked => rfl
  | stopped => rfl
  | item job queue => rfl

theorem answers_release : Answers (attended left) (s.attended left).release s.release := by
  have hgiven := agrees_giveUpAll left { s with queue := { s.queue with items := [] } } s.queue.items
  exact ⟨hgiven.state, rfl, hgiven.figures⟩

/-! ### Everything else -/

theorem answers_unregister (m : Matcher) :
    Answers (attended left) ((s.attended left).unregister m) (s.unregister m) := by
  unfold unregister
  rw [routes_attended]
  by_cases hm : s.routes.has m = true
  · rw [if_pos hm, if_pos hm]
    exact ⟨rfl, rfl, rfl⟩
  · rw [if_neg hm, if_neg hm]
    exact ⟨rfl, rfl, rfl⟩

/-- A client that leaves cannot be seen any more, if it is one of these. -/
theorem attended_disconnect {number : Nat} (h : number ∈ left) :
    (s.disconnect number).attended left = s.attended left := by
  simp only [disconnect, onExchange]
  cases hx : s.exchanges[number]? with
  | none => rfl
  | some x =>
      have hleft : left.contains number = true := List.contains_iff_mem.mpr h
      -- Leaving changes the waiter only, and the view puts another one in its place.
      have hsame : Exchange.attended (left.contains number) { x with slot := x.slot.leave } =
          x.attended (left.contains number) := by
        rw [hleft]
        rfl
      rcases List.getElem?_eq_some_iff.mp hx with ⟨hlt, heq⟩
      simp only [attended, List.mapIdx_set, hsame]
      rw [← List.mapIdx_set, ← heq, List.set_getElem_self]

/-! ### Operations -/

theorem describeJob_attended (job : Job) :
    (s.attended left).describeJob job = s.describeJob job := by
  unfold describeJob
  rw [getElem?_attended, Option.map_map]
  rfl

theorem describeRequest_attended (job : Job) :
    (s.attended left).describeRequest job = s.describeRequest job := by
  unfold describeRequest
  rw [getElem?_attended, Option.map_map]
  rfl

/-- Every operation but a leaving client. -/
theorem answers_apply (op : Operation) (h : ∀ number, op ≠ .disconnect number) :
    Answers (attended left) ((s.attended left).apply op) (s.apply op) := by
  cases op with
  | register m handler => exact ⟨rfl, rfl, rfl⟩
  | unregister m =>
      have hremoved := answers_unregister left s m
      exact ⟨hremoved.state, congrArg Answer.removed hremoved.answer, hremoved.figures⟩
  | request head body =>
      have hhandled := agrees_handle left (s.openExchange head body).1 (s.openExchange head body).2
      simp only [apply, openExchange_attended]
      exact ⟨hhandled.state, rfl, hhandled.figures⟩
  | disconnect number => exact absurd rfl (h number)
  | run =>
      simp only [apply, take_attended]
      cases htake : s.take with
      | mk taken rest =>
          cases taken with
          | blocked => exact ⟨rfl, rfl, rfl⟩
          | stopped => exact ⟨rfl, rfl, rfl⟩
          | item job queue =>
              have hrun := answers_runJob left rest job
              refine ⟨hrun.state, ?_, hrun.figures⟩
              simp only [describeJob_attended, hrun.answer]
  | takeBack reply =>
      simp only [apply, take_attended]
      cases htake : s.take with
      | mk taken rest =>
          cases taken with
          | blocked => exact ⟨rfl, rfl, rfl⟩
          | stopped => exact ⟨rfl, rfl, rfl⟩
          | item job queue =>
              simp only [describeRequest_attended]
              cases reply with
              | none =>
                  have hgiven := agrees_giveUp left rest job.exchange
                  exact ⟨hgiven.state, rfl, hgiven.figures⟩
              | some text =>
                  have hanswered := agrees_answer left rest job.exchange text.1 text.2
                  exact ⟨hanswered.state, rfl, hanswered.figures⟩
  | stopAdmitting => exact ⟨rfl, rfl, rfl⟩
  | stopQueue => exact ⟨rfl, rfl, rfl⟩
  | requestShutdown => exact ⟨rfl, rfl, rfl⟩
  | release =>
      have hreleased := answers_release left s
      exact ⟨hreleased.state, congrArg Answer.released hreleased.answer, hreleased.figures⟩

/-- A turn of a worker. What it tells of a fault is an event. -/
theorem answers_turn (worker : Nat) :
    Answers (attended left) (Worker.turn worker (s.attended left)) (Worker.turn worker s) := by
  have hevent : ∀ subpath fault, figures [Worker.faultEvent worker subpath fault] = [] := by
    intro subpath fault
    cases fault <;> rfl
  simp only [Worker.turn, take_attended]
  cases htake : s.take with
  | mk taken rest =>
      cases taken with
      | blocked => exact ⟨rfl, rfl, rfl⟩
      | stopped => exact ⟨rfl, rfl, rfl⟩
      | item job queue =>
          have hrun := answers_runJob left rest job
          simp only [hrun.answer, queue_attended]
          cases (rest.runJob job).2.1 with
          | none =>
              refine ⟨hrun.state, rfl, ?_⟩
              simp only [Telemetry.figures_set, hrun.figures]
          | some fault =>
              refine ⟨hrun.state, rfl, ?_⟩
              simp only [Telemetry.figures_set, Telemetry.figures_append, hevent, hrun.figures]

/-! ### Handlers -/

theorem invocation_attended (job : Job) :
    (s.attended left).invocation job = s.invocation job := by
  unfold invocation
  rw [getElem?_attended, Option.map_map]
  rfl

theorem readings_attended (job : Job) (actions : List Action) :
    (s.attended left).readings job actions = s.readings job actions := by
  unfold readings
  rw [getElem?_attended]
  cases s.exchanges[job.exchange]? with
  | none => rfl
  | some x =>
      exact congrArg (List.map (Deed.read job.exchange))
        (Exchange.readings_attended _ s.conditions job.subpath x actions)

theorem begins_attended : (s.attended left).begins = s.begins := by
  unfold begins
  rw [take_attended]
  cases htake : s.take with
  | mk taken rest =>
      cases taken with
      | blocked => rfl
      | stopped => rfl
      | item job queue => simp only [invocation_attended]

/-- Handlers are given the same, read the same and fail in the same way. -/
theorem deeds_attended : (s.attended left).deeds = s.deeds := by
  unfold deeds
  rw [take_attended]
  cases htake : s.take with
  | mk taken rest =>
      cases taken with
      | blocked => rfl
      | stopped => rfl
      | item job queue => simp only [invocation_attended, readings_attended, (answers_runJob left rest job).answer]

end Service

end ControlPlane
