import ControlPlane.Proofs.System.Stages

/-!
# Custody

Who has a request in hand. A request that was not given up yet is in exactly one
place: with the reactor, in the queue, with a worker, or among the jobs that the
owner has taken out of the queue. `places` lists all of these with repetition,
and `Custodial` says that each request that is held occurs there once and no
other request occurs at all.

Counting makes the proof short. A move that hands a request on leaves the count
of every number as it was, and a move that gives requests up takes exactly
theirs away; `count_of_released` turns the second into a statement about who is
still held. The one request that comes anew was not held before, since its
number did not exist.

That no request is lost follows from the other invariants together. In a stopped
server nobody stands anywhere, and nobody holds the queue, so nothing waits in
it either.

## Main definitions

* `System.places`: Where requests are, with repetition.
* `System.Custodial`: A request that is held is in one place.

## Theorems

* `count_flatMap_set`: How counting changes with one element of a list.
* `count_of_released`: Who is held after requests were given up.
* `custodial_of_move`: Every move keeps requests in one place.
* `places_of_stopped`: Nothing is left in a stopped server.
-/

namespace ControlPlane

open Telemetry (Observation)

/-- The request in the hands of the reactor. -/
def ReactorStage.places : ReactorStage → List Nat
  | .opened number | .loaded number _ => [number]
  | .routed job => [job.exchange]
  | .idle | .joined => []

/-- The request in the hands of a worker. -/
def WorkerStage.places : WorkerStage → List Nat
  | .serving job _ => [job.exchange]
  | .waiting | .exited => []

/-- The requests in the hands of the owner. -/
def OwnerStage.places : OwnerStage → List Nat
  | .releasing jobs => jobs.map (·.exchange)
  | _ => []

namespace System

variable {y : System} {s : Step} {out : System × List Observation}

/-- The numbers of the requests in the queue. -/
def queued (y : System) : List Nat :=
  y.service.queue.items.map (·.exchange)

/-- The numbers of the requests that workers serve. -/
def served (y : System) : List Nat :=
  y.workers.flatMap WorkerStage.places

/-- Where requests are, with repetition. -/
def places (y : System) : List Nat :=
  y.reactor.places ++ y.queued ++ y.served ++ y.owner.places

/-- A request that is held is in exactly one place, and no other request is in
    any. -/
def Custodial (y : System) : Prop :=
  ∀ number, y.places.count number = (y.service.isHeld number).toNat

theorem count_places (y : System) (number : Nat) :
    y.places.count number =
      y.reactor.places.count number + y.queued.count number + y.served.count number +
        y.owner.places.count number := by
  simp only [places, List.count_append]

theorem queued_of_frame {y' : System} (h : y'.service.queue = y.service.queue) :
    y'.queued = y.queued := by
  simp only [queued, h]

/-- The reactor puts its job behind the others. -/
theorem queued_enqueue (y : System) (job : Job) (stage : ReactorStage) :
    ({ y.setItems (y.service.queue.items ++ [job]) with reactor := stage } : System).queued =
      y.queued ++ [job.exchange] :=
  List.map_append

/-- Replacing one element of a list changes a count by what the two elements
    contribute. -/
theorem count_flatMap_set {α : Type} (f : α → List Nat) (number : Nat) (before after : α)
    (xs : List α) :
    ∀ i : Nat, xs[i]? = some before →
      ((xs.set i after).flatMap f).count number + (f before).count number =
        (xs.flatMap f).count number + (f after).count number := by
  induction xs with
  | nil => exact fun i h => absurd h (by simp only [List.getElem?_nil, reduceCtorEq, not_false_eq_true])
  | cons x rest ih =>
      intro i h
      cases i with
      | zero =>
          simp only [List.getElem?_cons_zero, Option.some.injEq] at h
          simp only [List.set_cons_zero, List.flatMap_cons, List.count_append, h]
          omega
      | succ i =>
          simp only [List.getElem?_cons_succ] at h
          have hrest := ih i h
          simp only [List.set_cons_succ, List.flatMap_cons, List.count_append]
          omega

/-- A worker that moves on leaves one place for another. -/
theorem count_setWorker (y : System) (worker : Nat) (before after : WorkerStage)
    (hw : y.workers[worker]? = some before) (number : Nat) :
    (y.setWorker worker after).places.count number + before.places.count number =
      y.places.count number + after.places.count number := by
  have hset : (y.setWorker worker after).served.count number + before.places.count number =
      y.served.count number + after.places.count number :=
    count_flatMap_set WorkerStage.places number before after y.workers worker hw
  have hqueued : (y.setWorker worker after).queued = y.queued := rfl
  have hreactor : (y.setWorker worker after).reactor = y.reactor := rfl
  have howner : (y.setWorker worker after).owner = y.owner := rfl
  rw [count_places, count_places, hqueued, hreactor, howner]
  omega

/-- Who is held after requests were given up: those that were, except these. No
    request is in two places, so none of these is anywhere else. -/
theorem count_of_released (given : List Nat) (number others : Nat) (held : Bool)
    (h : others + given.count number = held.toNat) :
    others = (!decide (number ∈ given) && held).toNat := by
  by_cases hmem : number ∈ given
  · -- It is counted among the given ones already, and a request counts once at most.
    have hpos := List.count_pos_iff.mpr hmem
    have hle := Bool.toNat_le held
    rw [decide_eq_true hmem]
    simp only [Bool.not_true, Bool.false_and, Bool.toNat_false]
    omega
  · rw [List.count_eq_zero.mpr hmem] at h
    rw [decide_eq_false hmem]
    exact h

/-- A move that hands requests on keeps them in one place. -/
theorem custodial_of_same {y' : System} (hy : Custodial y)
    (hplaces : ∀ number, y'.places.count number = y.places.count number)
    (hheld : ∀ number, y'.service.isHeld number = y.service.isHeld number) : Custodial y' :=
  fun number => by rw [hplaces, hheld]; exact hy number

/-- A move that gives requests up takes them from where they were. -/
theorem custodial_of_released {y' : System} (given : List Nat) (hy : Custodial y)
    (hplaces : ∀ number,
      y'.places.count number + given.count number = y.places.count number)
    (hheld : ∀ number, y'.service.isHeld number =
      (!decide (number ∈ given) && y.service.isHeld number)) : Custodial y' :=
  fun number => by
    rw [hheld]
    exact count_of_released given number _ _ ((hplaces number).trans (hy number))

/-- A move after which everybody has the same requests in hand, whatever else it
    changes. -/
theorem custodial_of_parts {y' : System} (hy : Custodial y)
    (hreactor : y'.reactor.places = y.reactor.places) (hqueued : y'.queued = y.queued)
    (hserved : y'.served = y.served) (howner : y'.owner.places = y.owner.places)
    (hheld : ∀ number, y'.service.isHeld number = y.service.isHeld number) : Custodial y' := by
  refine custodial_of_same hy (fun number => ?_) hheld
  rw [count_places, count_places, hreactor, hqueued, hserved, howner]

/-- A move that changes the service only, and there neither the queue nor who is
    held. -/
theorem custodial_of_service (hy : Custodial y) (service : Service)
    (hqueue : service.queue = y.service.queue)
    (hheld : ∀ number, service.isHeld number = y.service.isHeld number) :
    Custodial { y with service := service } :=
  custodial_of_parts hy rfl (queued_of_frame hqueue) rfl rfl hheld

/-- A worker that goes from one place to the same place. -/
theorem custodial_setWorker (hy : Custodial y) (worker : Nat) (before after : WorkerStage)
    (hw : y.workers[worker]? = some before) (hsame : after.places = before.places) :
    Custodial (y.setWorker worker after) := by
  refine custodial_of_same hy (fun number => ?_) fun _ => rfl
  have hset := count_setWorker y worker before after hw number
  rw [hsame] at hset
  omega

theorem custodial_letGo (hy : Custodial y) (told : List Observation) :
    Custodial (letGo y told).1 := by
  rcases dropUnheld_cases y with ⟨_, hd⟩ | ⟨_, hd⟩
  · simp only [letGo, hd]
    exact hy
  · -- What is given up here is what was queued, and nobody else has it in hand.
    simp only [letGo, hd]
    refine custodial_of_released y.queued hy (fun number => ?_) (fun number => ?_)
    · have hnone : ({ y with service := y.service.release.1 } : System).queued = [] := by
        rcases y.service.release_frame with ⟨xs, hr⟩
        simp only [queued, hr, List.map_nil]
      have hserved : ({ y with service := y.service.release.1 } : System).served = y.served := rfl
      rw [count_places, count_places, hnone, hserved, List.count_nil]
      simp only []
      omega
    · exact Service.isHeld_giveUpAll y.service.queue.items number _

/-- Turning a request away takes it from the reactor. -/
theorem custodial_turnAway (hy : Custodial y) (number : Nat) (status : Http.Status)
    (body : ByteArray) (hreactor : y.reactor.places = [number]) :
    Custodial (y.turnAway number status body) := by
  have hqueued : (y.turnAway number status body).queued = y.queued :=
    queued_of_frame (Service.queue_of_frame (y.service.answer_frame number status body))
  have hidle : (y.turnAway number status body).reactor.places = [] := rfl
  have hserved : (y.turnAway number status body).served = y.served := rfl
  have howner : (y.turnAway number status body).owner = y.owner := rfl
  refine custodial_of_released [number] hy (fun other => ?_) (fun other => ?_)
  · rw [count_places, count_places, hidle, hqueued, hserved, howner, hreactor, List.count_nil]
    omega
  · simp only [turnAway, Service.isHeld_answer, List.mem_singleton]

/-- A worker that gives its request up has nothing in hand any more. -/
theorem custodial_conclude (hy : Custodial y) (worker : Nat) (job : Job) (rest : List Action)
    (fault : Option Fault) (hw : y.workers[worker]? = some (.serving job rest)) :
    Custodial (y.conclude worker job fault).1 := by
  have hqueued : (y.conclude worker job fault).1.queued = (y.setWorker worker .waiting).queued :=
    queued_of_frame (Service.queue_of_frame (y.service.giveUp_frame job.exchange))
  refine custodial_of_released [job.exchange] hy (fun other => ?_) (fun other => ?_)
  · have hset := count_setWorker y worker _ .waiting hw other
    have hsame : (y.conclude worker job fault).1.places.count other =
        (y.setWorker worker .waiting).places.count other := by
      rw [count_places, count_places, hqueued]
      rfl
    have hserving : (WorkerStage.serving job rest).places = [job.exchange] := rfl
    have hwaiting : WorkerStage.waiting.places = [] := rfl
    rw [hserving, hwaiting, List.count_nil] at hset
    rw [hsame]
    exact hset
  · simp only [conclude, setWorker, Service.isHeld_giveUp, List.mem_singleton]

/-- A request that has just arrived was in no place before. -/
theorem custodial_arrive (hy : Custodial y) (head : RequestHead) (body : ByteArray)
    (stage : y.reactor = .idle) :
    Custodial { y with
      service := (y.service.openExchange head body).1
      reactor := .opened y.service.exchanges.length } := by
  intro number
  have hfree : y.service.isHeld y.service.exchanges.length = false := by
    rw [Service.isHeld, List.getElem?_eq_none (Nat.le_refl _)]
    rfl
  have hcount := hy number
  have hafter : ({ y with
      service := (y.service.openExchange head body).1
      reactor := .opened y.service.exchanges.length } : System).places.count number =
        [y.service.exchanges.length].count number + y.places.count number := by
    rw [count_places, count_places, stage]
    have hidle : ReactorStage.idle.places = [] := rfl
    rw [hidle, List.count_nil, Nat.zero_add, ← Nat.add_assoc, ← Nat.add_assoc]
    rfl
  rw [hafter, hcount]
  simp only [Service.isHeld_openExchange]
  by_cases heq : number = y.service.exchanges.length
  · -- The new request is with the reactor and nowhere else.
    rw [heq, hfree, List.count_singleton_self, decide_eq_true rfl]
    rfl
  · rw [List.count_eq_zero.mpr (fun hmem => heq (List.mem_singleton.mp hmem)),
      decide_eq_false heq, Bool.false_or, Nat.zero_add]

/-- Every move keeps requests in one place. -/
theorem custodial_of_move (h : Move y s out) (hy : Custodial y) : Custodial out.1 := by
  cases h with
  | arrive head body stage => exact custodial_arrive hy head body stage
  | load number stage =>
      exact custodial_of_parts hy (by rw [stage]; rfl) rfl rfl rfl fun _ => rfl
  | lose number callback stage unknown =>
      -- The reactor only has requests in hand that were opened.
      have hcount := hy number
      have hplaces : (ReactorStage.loaded number callback).places = [number] := rfl
      rw [count_places, stage, hplaces, List.count_singleton_self, Service.isHeld, unknown] at hcount
      simp only [Option.any_none, Bool.toNat_false] at hcount
      omega
  | refuse number callback x status first stage opened away silent =>
      exact custodial_letGo (custodial_turnAway hy number status _ (by rw [stage]; rfl)) _
  | accept number allow x handler subpath first stage opened passes silent =>
      have hrouted : Custodial { y with reactor := .routed ⟨number, handler, subpath⟩ } :=
        custodial_of_parts hy (by rw [stage]; rfl) rfl rfl rfl fun _ => rfl
      exact custodial_letGo hrouted _
  | enqueue job stage room =>
      have hqueued : Custodial
          { y.setItems (y.service.queue.items ++ [job]) with reactor := .idle } := by
        refine custodial_of_same hy (fun other => ?_) fun _ => rfl
        have hrouted : (ReactorStage.routed job).places = [job.exchange] := rfl
        rw [count_places, count_places, queued_enqueue, stage, hrouted, List.count_append]
        simp only [ReactorStage.places, List.count_nil, served, setItems]
        omega
      exact custodial_letGo hqueued _
  | overload job stage full =>
      exact custodial_letGo (custodial_turnAway hy job.exchange _ _ (by rw [stage]; rfl)) _
  | exit worker stage idle =>
      exact custodial_letGo (custodial_setWorker hy worker .waiting .exited stage rfl) _
  | begin worker job rest stage runs items =>
      refine custodial_of_same hy (fun other => ?_) fun _ => rfl
      have hset := count_setWorker { y.setItems rest with begun := y.begun ++ [job] } worker
        .waiting (.serving job job.handler) stage other
      -- The head of the queue turns into the place of the worker.
      have hcons : y.queued.count other =
          [job.exchange].count other + (rest.map (·.exchange)).count other := by
        rw [← List.count_append, queued, items]
        rfl
      have hbefore := count_places y other
      have hbetween := count_places { y.setItems rest with begun := y.begun ++ [job] } other
      simp only [setItems, queued, served, WorkerStage.places, List.count_nil] at *
      omega
  | perform worker job action rest stage sound =>
      have hacted := custodial_of_service hy (y.service.act job action).1
        (Service.queue_of_frame (y.service.act_frame job action))
        (Service.isHeld_act y.service job action)
      exact custodial_setWorker hacted worker _ _ stage rfl
  | fail worker job action rest fault stage failed =>
      have hacted := custodial_of_service hy (y.service.act job action).1
        (Service.queue_of_frame (y.service.act_frame job action))
        (Service.isHeld_act y.service job action)
      exact custodial_conclude hacted worker job (action :: rest) (some fault) stage
  | finish worker job stage => exact custodial_conclude hy worker job [] none stage
  | refuseAll stage =>
      have hrefusing : Custodial
          { y with service := y.service.stopAdmitting, owner := .refusing } :=
        custodial_of_parts hy rfl rfl rfl (by rw [stage]; rfl) fun _ => rfl
      exact custodial_letGo hrefusing _
  | stopQueue stage =>
      exact custodial_of_parts hy rfl rfl rfl (by rw [stage]; rfl) fun _ => rfl
  | requestShutdown stage =>
      exact custodial_of_parts hy rfl rfl rfl (by rw [stage]; rfl) fun _ => rfl
  | joinWorkers stage exited =>
      exact custodial_of_parts hy rfl rfl rfl (by rw [stage]; rfl) fun _ => rfl
  | empty stage =>
      -- What was queued is now what the owner still has to give up.
      refine custodial_of_same hy (fun other => ?_) fun _ => rfl
      rw [count_places, count_places, stage]
      simp only [setItems, queued, served, OwnerStage.places, List.map_nil, List.count_nil]
      omega
  | giveUp job rest stage =>
      have hqueue := Service.queue_of_frame (y.service.giveUp_frame job.exchange)
      refine custodial_of_released [job.exchange] hy (fun other => ?_) (fun other => ?_)
      · -- The owner gives up the first of the jobs that it has taken out.
        have hcons : (OwnerStage.releasing (job :: rest)).places.count other =
            [job.exchange].count other + (OwnerStage.releasing rest).places.count other := by
          rw [← List.count_append]
          rfl
        rw [count_places, count_places, stage, hcons, queued_of_frame (y := y) hqueue]
        simp only [served]
        omega
      · simp only [Service.isHeld_giveUp, List.mem_singleton]
  | drop stage =>
      have hdropped : Custodial { y with owner := .dropped } :=
        custodial_of_parts hy rfl rfl rfl (by rw [stage]; rfl) fun _ => rfl
      exact custodial_letGo hdropped _
  | joinReactor stage idle =>
      exact custodial_of_parts hy (by rw [idle]; rfl) rfl rfl (by rw [stage]; rfl) fun _ => rfl
  | leave number =>
      exact custodial_of_service hy _
        (Service.queue_of_frame (y.service.disconnect_frame number))
        (Service.isHeld_disconnect y.service number)
  | register m handler => exact hy
  | unregister m => exact hy

/-- Nothing is left in a stopped server: nobody stands anywhere, and nobody holds
    the queue, so that it is empty. -/
theorem places_of_stopped (hstaged : Staged y) (htidy : Tidy y) (ho : y.owner = .stopped) :
    y.places = [] := by
  have hitems := htidy (holders_of_stopped hstaged ho)
  have hserved : y.served = [] := by
    rw [served, List.flatMap_eq_nil_iff]
    intro w hw
    rw [hstaged.exited (by rw [ho]; rfl) w hw]
    rfl
  simp only [places, queued, hitems, hserved, ho, hstaged.joined ho, ReactorStage.places,
    OwnerStage.places, List.map_nil, List.append_nil]

end System

end ControlPlane
