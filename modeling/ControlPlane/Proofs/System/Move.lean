import ControlPlane.Proofs.Service.Screening
import ControlPlane.System

/-!
# Moves of the System

What an atomic step can do, said once. `System.step` looks at who moves, where
that one stands and what the service answers; `Move` lists the ways in which
this can come out, one constructor for each, with the guard that lets it happen
and the state it leads to. An invariant of the system is then a case analysis on
moves, in which no step is unfolded any more.

Five moves may be the ones by which the last holder lets go of the queue: a
request that leaves the reactor, either way, a worker that exits, and the owner
who withdraws the callback or lets go itself. Their result is wrapped in `letGo`,
so that an invariant has to deal with the abandoned queue in one place.

## Main definitions

* `System.letGo`: A move after which nobody may hold the queue any more.
* `System.Move`: What a step does.

## Theorems

* `move_of_step`: Every step that can be taken is one of the moves.
* `run_cons`: A run is a step and a run, or the step is passed over.
* `run_append`, `run_append_cons`: A run goes on where another one has ended.
-/

namespace ControlPlane

open Telemetry (Observation replies)

namespace System

variable {y : System} {s : Step} {out : System × List Observation}

/-- A move after which the queue is given up if nobody holds it any more. -/
def letGo (y : System) (told : List Observation) : System × List Observation :=
  (y.dropUnheld.1, told ++ y.dropUnheld.2)

/-- The system with a request turned away at a gate. -/
def turnAway (y : System) (number : Nat) (status : Http.Status) (body : ByteArray) : System :=
  { y with service := (y.service.answer number status body).1, reactor := .idle }

/-- The system with other items in the queue. -/
def setItems (y : System) (items : List Job) : System :=
  { y with service := { y.service with queue := { y.service.queue with items := items } } }

/-- What a step does. -/
inductive Move (y : System) : Step → System × List Observation → Prop
  /-- A request arrives at a reactor that has none in its hands. -/
  | arrive (head : RequestHead) (body : ByteArray) (stage : y.reactor = .idle) :
      Move y (.arrive head body)
        ({ y with
            service := (y.service.openExchange head body).1
            reactor := .opened y.service.exchanges.length }, [])
  | load (number : Nat) (stage : y.reactor = .opened number) :
      Move y .load ({ y with reactor := .loaded number y.service.callback }, [])
  /-- The request to be screened does not exist. -/
  | lose (number : Nat) (callback : Callback) (stage : y.reactor = .loaded number callback)
      (unknown : y.service.exchanges[number]? = none) :
      Move y .screen (letGo { y with reactor := .idle } [])
  /-- Screening turns the request away. -/
  | refuse (number : Nat) (callback : Callback) (x : Exchange) (status : Http.Status)
      (first : List Observation) (stage : y.reactor = .loaded number callback)
      (opened : y.service.exchanges[number]? = some x)
      (away : y.service.TurnsAway x status callback) (silent : replies first = 0) :
      Move y .screen
        (letGo (y.turnAway number status ByteArray.empty)
          (first ++ (y.service.answer number status ByteArray.empty).2))
  /-- Screening makes a job of the request. -/
  | accept (number : Nat) (allow : AllowList) (x : Exchange) (handler : Handler) (subpath : String)
      (first : List Observation) (stage : y.reactor = .loaded number (.dispatch allow))
      (opened : y.service.exchanges[number]? = some x)
      (passes : Verdict.ofHead allow y.service.routes x.head = .admitted handler subpath)
      (silent : replies first = 0) :
      Move y .screen (letGo { y with reactor := .routed ⟨number, handler, subpath⟩ } first)
  | enqueue (job : Job) (stage : y.reactor = .routed job)
      (room : y.service.queue.size < y.service.queue.depth) :
      Move y .enqueue
        (letGo { y.setItems (y.service.queue.items ++ [job]) with reactor := .idle }
          [.set .queueDepth (y.service.queue.items ++ [job]).length])
  /-- The queue is full, and the request is answered instead. -/
  | overload (job : Job) (stage : y.reactor = .routed job)
      (full : y.service.queue.depth ≤ y.service.queue.size) :
      Move y .enqueue
        (letGo (y.turnAway job.exchange .internalError Service.overloadBody)
          ([Service.overloadEvent, .count .rejected] ++
            (y.service.answer job.exchange .internalError Service.overloadBody).2))
  | exit (worker : Nat) (stage : y.workers[worker]? = some .waiting)
      (idle : y.service.queue.running = false) :
      Move y (.take worker) (letGo (y.setWorker worker .exited) [Worker.exitEvent worker])
  | begin (worker : Nat) (job : Job) (rest : List Job) (stage : y.workers[worker]? = some .waiting)
      (runs : y.service.queue.running = true) (items : y.service.queue.items = job :: rest) :
      Move y (.take worker)
        ({ y.setItems rest with begun := y.begun ++ [job] }.setWorker worker
          (.serving job job.handler), [.set .queueDepth rest.length])
  | perform (worker : Nat) (job : Job) (action : Action) (rest : List Action)
      (stage : y.workers[worker]? = some (.serving job (action :: rest)))
      (sound : (y.service.act job action).2.1 = none) :
      Move y (.act worker)
        ({ y with service := (y.service.act job action).1 }.setWorker worker (.serving job rest),
          (y.service.act job action).2.2)
  /-- The action fails, and the request is given up. -/
  | fail (worker : Nat) (job : Job) (action : Action) (rest : List Action) (fault : Fault)
      (stage : y.workers[worker]? = some (.serving job (action :: rest)))
      (failed : (y.service.act job action).2.1 = some fault) :
      Move y (.act worker)
        (({ y with service := (y.service.act job action).1 }.conclude worker job (some fault)).1,
          (y.service.act job action).2.2 ++
            ({ y with service := (y.service.act job action).1 }.conclude worker job
              (some fault)).2)
  | finish (worker : Nat) (job : Job) (stage : y.workers[worker]? = some (.serving job [])) :
      Move y (.act worker) (y.conclude worker job none)
  | refuseAll (stage : y.owner = .running) :
      Move y .advance
        (letGo { y with service := y.service.stopAdmitting, owner := .refusing } [])
  | stopQueue (stage : y.owner = .refusing) :
      Move y .advance ({ y with service := y.service.stopQueue, owner := .stopping }, [])
  | requestShutdown (stage : y.owner = .stopping) :
      Move y .advance
        ({ y with service := y.service.requestShutdown.1, owner := .interrupted },
          y.service.requestShutdown.2)
  | joinWorkers (stage : y.owner = .interrupted) (exited : ∀ w ∈ y.workers, w = .exited) :
      Move y .advance ({ y with owner := .joined }, [])
  /-- The owner takes everything out of the queue. -/
  | empty (stage : y.owner = .joined) :
      Move y .advance ({ y.setItems [] with owner := .releasing y.service.queue.items }, [])
  | giveUp (job : Job) (rest : List Job) (stage : y.owner = .releasing (job :: rest)) :
      Move y .advance
        ({ y with service := (y.service.giveUp job.exchange).1, owner := .releasing rest },
          (y.service.giveUp job.exchange).2)
  | drop (stage : y.owner = .releasing []) : Move y .advance (letGo { y with owner := .dropped } [])
  | joinReactor (stage : y.owner = .dropped) (idle : y.reactor = .idle) :
      Move y .advance ({ y with reactor := .joined, owner := .stopped }, [])
  | leave (number : Nat) : Move y (.leave number) ({ y with service := y.service.disconnect number }, [])
  | register (m : Matcher) (handler : Handler) :
      Move y (.register m handler)
        ({ y with service := { y.service with routes := y.service.routes.register m handler } },
          [RouteTable.registered m])
  | unregister (m : Matcher) :
      Move y (.unregister m)
        ({ y with service := { y.service with routes := y.service.routes.unregister m } },
          (y.service.unregister m).2.2)

theorem move_of_stepReactor (h : y.stepReactor s = some out) : Move y s out := by
  cases s with
  | arrive head body =>
      cases hr : y.reactor with
      | idle =>
          simp only [stepReactor, hr, Option.some.injEq] at h
          rw [← h]
          exact .arrive head body hr
      | _ => simp only [stepReactor, hr, reduceCtorEq] at h
  | load =>
      cases hr : y.reactor with
      | opened number =>
          simp only [stepReactor, hr, Option.some.injEq] at h
          rw [← h]
          exact .load number hr
      | _ => simp only [stepReactor, hr, reduceCtorEq] at h
  | screen =>
      cases hr : y.reactor with
      | loaded number callback =>
          -- The three ways in which screening comes out are three moves.
          rcases y.service.screen_cases callback number with
            ⟨unknown, hs⟩ | ⟨x, first, opened, silent,
              ⟨status, away, hs⟩ | ⟨allow, handler, subpath, hc, passes, hs⟩⟩
          · simp only [stepReactor, hr, hs, Option.some.injEq] at h
            rw [← h]
            exact .lose number callback hr unknown
          · simp only [stepReactor, hr, hs, Option.some.injEq] at h
            rw [← h]
            exact .refuse number callback x status first hr opened away silent
          · simp only [stepReactor, hr, hs, Option.some.injEq] at h
            rw [← h]
            exact .accept number allow x handler subpath first (hc ▸ hr) opened passes silent
      | _ => simp only [stepReactor, hr, reduceCtorEq] at h
  | enqueue =>
      cases hr : y.reactor with
      | routed job =>
          rcases y.service.enqueue_cases job with ⟨room, hs⟩ | ⟨full, hs⟩
          · simp only [stepReactor, hr, hs, Option.some.injEq] at h
            rw [← h]
            exact .enqueue job hr room
          · simp only [stepReactor, hr, hs, Option.some.injEq] at h
            rw [← h]
            exact .overload job hr full
      | _ => simp only [stepReactor, hr, reduceCtorEq] at h
  | _ => simp only [stepReactor, reduceCtorEq] at h

/-- A worker that looks at the queue exits, begins a job, or has to wait. -/
theorem move_of_take (worker : Nat) (stage : y.workers[worker]? = some .waiting)
    (h : y.take worker = some out) : Move y (.take worker) out := by
  rcases y.service.queue.dequeue_cases with
    ⟨idle, hd⟩ | ⟨_, _, hd⟩ | ⟨job, rest, runs, items, hd⟩
  · simp only [take, Service.take, hd, Option.some.injEq] at h
    rw [← h]
    exact .exit worker stage idle
  · -- The queue runs and is empty, so there is no step.
    simp only [take, Service.take, hd, reduceCtorEq] at h
  · simp only [take, Service.take, hd, Option.some.injEq] at h
    rw [← h]
    exact .begin worker job rest stage runs items

theorem move_of_stepWorker (h : y.stepWorker s = some out) : Move y s out := by
  cases s with
  | take worker =>
      rcases hw : y.workers[worker]? with _ | now
      · simp only [stepWorker, hw, reduceCtorEq] at h
      · cases now with
        | waiting =>
            simp only [stepWorker, hw] at h
            exact move_of_take worker hw h
        | serving job rest => simp only [stepWorker, hw, reduceCtorEq] at h
        | exited => simp only [stepWorker, hw, reduceCtorEq] at h
  | act worker =>
      rcases hw : y.workers[worker]? with _ | now
      · simp only [stepWorker, hw, reduceCtorEq] at h
      · cases now with
        | waiting => simp only [stepWorker, hw, reduceCtorEq] at h
        | exited => simp only [stepWorker, hw, reduceCtorEq] at h
        | serving job actions =>
            cases actions with
            | nil =>
                simp only [stepWorker, hw, Option.some.injEq] at h
                rw [← h]
                exact .finish worker job hw
            | cons action rest =>
                -- Whether the action fails decides what becomes of the request.
                rcases hf : (y.service.act job action).2.1 with _ | fault
                · simp only [stepWorker, hw, hf, Option.some.injEq] at h
                  rw [← h]
                  exact .perform worker job action rest hw hf
                · simp only [stepWorker, hw, hf, Option.some.injEq] at h
                  rw [← h]
                  exact .fail worker job action rest fault hw hf
  | _ => simp only [stepWorker, reduceCtorEq] at h

/-- The owner has one move in each stage, and none in the last. -/
theorem move_of_advance (h : y.advance = some out) : Move y .advance out := by
  cases ho : y.owner with
  | running =>
      simp only [advance, ho, Option.some.injEq] at h
      rw [← h]
      exact .refuseAll ho
  | refusing =>
      simp only [advance, ho, Option.some.injEq] at h
      rw [← h]
      exact .stopQueue ho
  | stopping =>
      simp only [advance, ho, Option.some.injEq] at h
      rw [← h]
      exact .requestShutdown ho
  | interrupted =>
      -- This stage lasts until all workers have exited, and only that of the reactor waits too.
      by_cases hall : y.workers.all (· = .exited) = true
      · simp only [advance, ho, if_pos hall, Option.some.injEq] at h
        rw [← h]
        refine .joinWorkers ho fun w hmem => ?_
        exact of_decide_eq_true (List.all_eq_true.mp hall w hmem)
      · simp only [advance, ho, if_neg hall, reduceCtorEq] at h
  | joined =>
      simp only [advance, ho, WorkQueue.release, Option.some.injEq] at h
      rw [← h]
      exact .empty ho
  | releasing jobs =>
      cases jobs with
      | nil =>
          simp only [advance, ho, Option.some.injEq] at h
          rw [← h]
          exact .drop ho
      | cons job rest =>
          simp only [advance, ho, Option.some.injEq] at h
          rw [← h]
          exact .giveUp job rest ho
  | dropped =>
      cases hr : y.reactor with
      | idle =>
          simp only [advance, ho, hr, Option.some.injEq] at h
          rw [← h]
          exact .joinReactor ho hr
      | _ => simp only [advance, ho, hr, reduceCtorEq] at h
  | stopped => simp only [advance, ho, reduceCtorEq] at h

/-- Every step that can be taken is one of the moves, and none is taken after an
    abort. -/
theorem move_of_step (h : y.step s = some out) : y.aborted = false ∧ Move y s out := by
  cases ha : y.aborted with
  | true => simp only [step, ha, if_true, reduceCtorEq] at h
  | false =>
      refine ⟨rfl, ?_⟩
      unfold step at h
      rw [if_neg (by rw [ha]; exact Bool.false_ne_true)] at h
      cases s with
      | arrive head body => exact move_of_stepReactor h
      | load => exact move_of_stepReactor h
      | screen => exact move_of_stepReactor h
      | enqueue => exact move_of_stepReactor h
      | take worker => exact move_of_stepWorker h
      | act worker => exact move_of_stepWorker h
      | advance => exact move_of_advance h
      | leave number =>
          rw [← Option.some.inj h]
          exact .leave number
      | register m handler =>
          rw [← Option.some.inj h]
          exact .register m handler
      | unregister m =>
          simp only [Service.unregister_frame, Option.some.injEq] at h
          rw [← h]
          exact .unregister m

/-- A run takes its first step or passes it over, and goes on from there. -/
theorem run_cons (y : System) (s : Step) (rest : List Step) :
    (y.step s = none ∧ y.run (s :: rest) = y.run rest) ∨
      ∃ out, y.step s = some out ∧
        y.run (s :: rest) = ((out.1.run rest).1, out.2 ++ (out.1.run rest).2) := by
  rcases hs : y.step s with _ | out
  · left
    exact ⟨rfl, by simp only [run, hs]⟩
  · right
    exact ⟨out, rfl, by simp only [run, hs]⟩

/-- A run goes on where another one has ended. -/
theorem run_append (steps later : List Step) :
    ∀ y : System, y.run (steps ++ later) =
      (((y.run steps).1.run later).1, (y.run steps).2 ++ ((y.run steps).1.run later).2) := by
  induction steps with
  | nil => exact fun y => rfl
  | cons s rest ih =>
      intro y
      rw [List.cons_append]
      rcases run_cons y s rest with ⟨hs, hrun⟩ | ⟨out, hs, hrun⟩
      · rw [hrun]
        simp only [run, hs, ih]
      · rw [hrun]
        simp only [run, hs, ih, List.append_assoc]

theorem run_append_cons (steps later : List Step) {y : System} {s : Step}
    {out : System × List Observation} (h : (y.run steps).1.step s = some out) :
    (y.run (steps ++ s :: later)).1 = (out.1.run later).1 := by
  rw [run_append]
  simp only [run, h]

end System

end ControlPlane
