import ControlPlane.Proofs.Service.Gate
import ControlPlane.Proofs.System.Answering
import Mathlib.Data.List.Perm.Subperm

/-!
# Bounded Backlog

However many requests arrive, only so many of them are waiting for an answer at any
moment: as many as the queue has places, one for each worker, and one more.

An unanswered request is somewhere, so it is enough to bound the places. While the
server runs the bound is plain: the queue keeps within its depth, a worker serves one
request at a time, and the one more is with the reactor. It is less plain while the
server stops, since the owner takes everything out of the queue at once and gives it up
piece by piece, and the reactor may still come with a job for the emptied queue and then
take another request in. But the callback refuses by then, so the reactor has a single
job of that kind, and by then the workers have gone home, whose share pays for it.

That a request is refused for a full queue is the reply of one step only. It is told
apart from a handler that replies with the same words by looking at who moves.

## Main definitions

* `OwnerStage.hasEmptied`: The owner has taken everything out of the queue.
* `System.Bounded`: The invariant.
* `System.pending`: The requests that were not answered yet, by number.
* `System.Limited`: What runs of a server come to.

## Theorems

* `bounded_of_move`, `bounded_run`: Every move and every run keep the invariant.
* `unanswered_le_places`: Each unanswered request has a place.
* `length_places_le`: The places are bounded.
* `delivers_overloaded_of_move`: Which moves refuse for a full queue.
* `limited_of_run`: The backlog of a started server is bounded.
* `limited_while_releasing`: The bound is reached while the server stops.
-/

namespace ControlPlane

open Telemetry (Observation)

/-- The owner has taken everything out of the queue. -/
def OwnerStage.hasEmptied : OwnerStage → Bool
  | .releasing _ | .dropped | .stopped => true
  | _ => false

/-- Whoever has emptied the queue has waited for the workers before. -/
theorem OwnerStage.hasJoined_of_hasEmptied {o : OwnerStage} (h : o.hasEmptied = true) :
    o.hasJoined = true := by
  cases o with
  | releasing jobs => rfl
  | dropped => rfl
  | stopped => rfl
  | _ => exact absurd h nofun

namespace System

variable {y y' : System} {s : Step} {out : System × List Observation} {depth workers : Nat}

/-- What bounds the places of a server with so many places in the queue and so many
    workers. -/
structure Bounded (depth workers : Nat) (y : System) : Prop where
  sameDepth : y.service.queue.depth = depth
  within : y.service.queue.size ≤ depth
  sameWorkers : y.workers.length = workers
  /-- The owner has taken no more out of the queue than it has places. -/
  released : y.owner.places.length ≤ depth
  /-- Once the queue was emptied, at most one job is in it or on its way. -/
  late : y.owner.hasEmptied = true → y.service.queue.size + (reactorHolds y.reactor).toNat ≤ 1

/-- A move that neither adds to the queue nor sends the reactor on its way to it. -/
theorem bounded_of_parts (hy : Bounded depth workers y)
    (hdepth : y'.service.queue.depth = y.service.queue.depth)
    (hsize : y'.service.queue.size ≤ y.service.queue.size)
    (hworkers : y'.workers.length = y.workers.length) (howner : y'.owner = y.owner)
    (hreactor : reactorHolds y'.reactor = true → reactorHolds y.reactor = true) :
    Bounded depth workers y' := by
  refine ⟨hdepth.trans hy.sameDepth, Nat.le_trans hsize hy.within,
    hworkers.trans hy.sameWorkers, ?_, ?_⟩
  · rw [howner]
    exact hy.released
  · rw [howner]
    intro hemptied
    have hlate := hy.late hemptied
    have hle : (reactorHolds y'.reactor).toNat ≤ (reactorHolds y.reactor).toNat := by
      by_cases hholds : reactorHolds y'.reactor = true
      · exact Nat.le_of_eq (congrArg Bool.toNat (hholds.trans (hreactor hholds).symm))
      · rw [Bool.eq_false_iff.mpr hholds]
        exact Nat.zero_le _
    omega

/-- A move that changes the service only, and not the queue. -/
theorem bounded_of_service (hy : Bounded depth workers y) (service : Service)
    (hqueue : service.queue = y.service.queue) :
    Bounded depth workers { y with service := service } := by
  refine bounded_of_parts hy ?_ ?_ rfl rfl fun h => h
  · exact congrArg WorkQueue.depth hqueue
  · exact Nat.le_of_eq (congrArg WorkQueue.size hqueue)

theorem bounded_setWorker (hy : Bounded depth workers y) (worker : Nat) (stage : WorkerStage) :
    Bounded depth workers (y.setWorker worker stage) :=
  bounded_of_parts hy rfl (Nat.le_refl _) List.length_set rfl fun h => h

theorem bounded_letGo (hy : Bounded depth workers y) (told : List Observation) :
    Bounded depth workers (letGo y told).1 := by
  rcases dropUnheld_cases y with ⟨_, hd⟩ | ⟨_, hd⟩
  · simp only [letGo, hd]
    exact hy
  · -- A queue that is given up is empty afterwards.
    simp only [letGo, hd]
    rcases y.service.release_frame with ⟨xs, hr⟩
    refine bounded_of_parts hy ?_ ?_ rfl rfl fun h => h
    · simp only [hr]
    · simp only [hr, WorkQueue.size, List.length_nil, Nat.zero_le]

/-- A reactor that turns a request away has nothing for the queue. -/
theorem bounded_turnAway (hy : Bounded depth workers y) (number : Nat) (status : Http.Status)
    (body : ByteArray) : Bounded depth workers (y.turnAway number status body) := by
  have hqueue := Service.queue_of_frame (y.service.answer_frame number status body)
  refine bounded_of_parts (bounded_of_service hy _ hqueue) rfl (Nat.le_refl _) rfl rfl ?_
  exact fun h => absurd h nofun

theorem bounded_conclude (hy : Bounded depth workers y) (worker : Nat) (job : Job)
    (fault : Option Fault) : Bounded depth workers (y.conclude worker job fault).1 := by
  have hqueue := Service.queue_of_frame (y.service.giveUp_frame job.exchange)
  have hset := bounded_setWorker (bounded_of_service hy _ hqueue) worker .waiting
  exact bounded_of_parts hset rfl (Nat.le_refl _) rfl rfl fun h => h

/-- The owner goes on without having emptied the queue. -/
theorem bounded_of_owner (hy : Bounded depth workers y) (owner : OwnerStage)
    (hplaces : owner.places.length ≤ y.owner.places.length)
    (hemptied : owner.hasEmptied = true → y.owner.hasEmptied = true) :
    Bounded depth workers { y with owner := owner } :=
  ⟨hy.sameDepth, hy.within, hy.sameWorkers, Nat.le_trans hplaces hy.released,
    fun h => hy.late (hemptied h)⟩

/-- Every move keeps the bounds. -/
theorem bounded_of_move (h : Move y s out) (hstaged : Staged y) (hy : Bounded depth workers y) :
    Bounded depth workers out.1 := by
  cases h with
  | arrive head body stage => exact bounded_of_parts hy rfl (Nat.le_refl _) rfl rfl Bool.noConfusion
  | load number stage =>
      refine ⟨hy.sameDepth, hy.within, hy.sameWorkers, hy.released, fun hemptied => ?_⟩
      -- The callback refuses by now, so the reactor does not get hold of the queue.
      have hrefuses : y.service.callback = .reject := by
        refine hstaged.refusing fun hrunning => ?_
        rw [hrunning] at hemptied
        exact absurd hemptied nofun
      have hfree : reactorHolds (.loaded number y.service.callback) = false := by
        rw [hrefuses]
        rfl
      have hlate := hy.late hemptied
      simp only [hfree, Bool.toNat_false]
      omega
  | lose number callback stage unknown =>
      have hidle : Bounded depth workers { y with reactor := .idle } :=
        bounded_of_parts hy rfl (Nat.le_refl _) rfl rfl Bool.noConfusion
      exact bounded_letGo hidle _
  | refuse number callback x status first stage opened away silent =>
      exact bounded_letGo (bounded_turnAway hy number status _) _
  | accept number allow x handler subpath first stage opened passes silent =>
      have hrouted : Bounded depth workers
          { y with reactor := .routed ⟨number, handler, subpath⟩ } := by
        refine bounded_of_parts hy rfl (Nat.le_refl _) rfl rfl fun _ => ?_
        rw [stage]
        rfl
      exact bounded_letGo hrouted _
  | enqueue job stage room =>
      have hqueued : Bounded depth workers
          { y.setItems (y.service.queue.items ++ [job]) with reactor := .idle } := by
        have hsize : (y.setItems (y.service.queue.items ++ [job])).service.queue.size =
            y.service.queue.size + 1 := List.length_append
        refine ⟨hy.sameDepth, ?_, hy.sameWorkers, hy.released, fun hemptied => ?_⟩
        · rw [hy.sameDepth] at room
          exact Nat.le_trans (Nat.le_of_eq hsize) room
        · -- The job was the one on its way, and is now the one in the queue.
          have hlate := hy.late hemptied
          rw [stage] at hlate
          exact Nat.le_trans (Nat.le_of_eq hsize) hlate
      exact bounded_letGo hqueued _
  | overload job stage full => exact bounded_letGo (bounded_turnAway hy job.exchange _ _) _
  | exit worker stage idle => exact bounded_letGo (bounded_setWorker hy worker .exited) _
  | begin worker job rest stage runs items =>
      have hshorter : rest.length ≤ y.service.queue.size := by
        rw [WorkQueue.size, items, List.length_cons]
        omega
      have hbegun : Bounded depth workers { y.setItems rest with begun := y.begun ++ [job] } :=
        bounded_of_parts hy rfl hshorter rfl rfl fun h => h
      exact bounded_setWorker hbegun worker _
  | perform worker job action rest stage sound =>
      have hqueue := Service.queue_of_frame (y.service.act_frame job action)
      exact bounded_setWorker (bounded_of_service hy _ hqueue) worker _
  | fail worker job action rest fault stage failed =>
      have hqueue := Service.queue_of_frame (y.service.act_frame job action)
      exact bounded_conclude (bounded_of_service hy _ hqueue) worker job (some fault)
  | finish worker job stage => exact bounded_conclude hy worker job none
  | refuseAll stage =>
      have hrefusing := bounded_of_service hy y.service.stopAdmitting rfl
      exact bounded_letGo (bounded_of_owner hrefusing .refusing (Nat.zero_le _) Bool.noConfusion) _
  | stopQueue stage =>
      have hstopped : Bounded depth workers { y with service := y.service.stopQueue } :=
        bounded_of_parts hy rfl (Nat.le_refl _) rfl rfl fun h => h
      exact bounded_of_owner hstopped .stopping (Nat.zero_le _) Bool.noConfusion
  | requestShutdown stage =>
      have hclosing := bounded_of_service hy y.service.requestShutdown.1 rfl
      exact bounded_of_owner hclosing .interrupted (Nat.zero_le _) Bool.noConfusion
  | joinWorkers stage exited => exact bounded_of_owner hy .joined (Nat.zero_le _) Bool.noConfusion
  | empty stage =>
      refine ⟨hy.sameDepth, Nat.zero_le _, hy.sameWorkers, ?_, fun _ => ?_⟩
      · rw [OwnerStage.places, List.length_map]
        exact hy.within
      · have hle := Bool.toNat_le (reactorHolds y.reactor)
        simp only [setItems, WorkQueue.size, List.length_nil]
        omega
  | giveUp job rest stage =>
      have hqueue := Service.queue_of_frame (y.service.giveUp_frame job.exchange)
      refine bounded_of_owner (bounded_of_service hy _ hqueue) (.releasing rest) ?_ fun _ => ?_
      · simp only [stage, OwnerStage.places, List.length_map, List.length_cons]
        omega
      · simp only [stage, OwnerStage.hasEmptied]
  | drop stage =>
      refine bounded_letGo (bounded_of_owner hy .dropped (Nat.zero_le _) fun _ => ?_) _
      rw [stage]
      rfl
  | joinReactor stage idle =>
      have hjoined : Bounded depth workers { y with reactor := .joined } :=
        bounded_of_parts hy rfl (Nat.le_refl _) rfl rfl Bool.noConfusion
      refine bounded_of_owner hjoined .stopped (Nat.zero_le _) fun _ => ?_
      simp only [stage, OwnerStage.hasEmptied]
  | leave number =>
      exact bounded_of_service hy _
        (Service.queue_of_frame (y.service.disconnect_frame number))
  | register m handler => exact bounded_of_service hy _ rfl
  | unregister m => exact bounded_of_service hy _ rfl

/-- Every run keeps the bounds, by induction along its steps. -/
theorem bounded_run (steps : List Step) :
    ∀ y : System, Sound y → Bounded depth workers y → Bounded depth workers (y.run steps).1 := by
  induction steps with
  | nil => exact fun y _ hy => hy
  | cons s rest ih =>
      intro y hsound hy
      rcases run_cons y s rest with ⟨_, hrun⟩ | ⟨out, hstep, hrun⟩
      · rw [hrun]
        exact ih y hsound hy
      · have hmove := (move_of_step hstep).2
        rw [hrun]
        exact ih out.1 (sound_of_move hmove hsound) (bounded_of_move hmove hsound.staged hy)

/-! ### Counting -/

/-- The requests that were not answered yet, by number. -/
def pending (y : System) : List Nat :=
  (y.service.exchanges.zipIdx.filter fun e => e.1.slot.isReady).map Prod.snd

theorem length_pending (y : System) : y.pending.length = y.unanswered := by
  calc y.pending.length
      = (y.service.exchanges.zipIdx.map Prod.fst).countP fun x => x.slot.isReady := by
        rw [pending, List.length_map, ← List.countP_eq_length_filter, List.countP_map]
        rfl
    _ = y.unanswered := by
        rw [List.zipIdx_map_fst]
        rfl

theorem nodup_pending (y : System) : y.pending.Nodup := by
  have hnumbers : (y.service.exchanges.zipIdx.map Prod.snd).Nodup := by
    rw [List.zipIdx_map_snd]
    exact List.nodup_range'
  exact (List.filter_sublist.map Prod.snd).nodup hnumbers

/-- Each unanswered request has a place of its own. -/
theorem unanswered_le_places (hy : Sound y) : y.unanswered ≤ y.places.length := by
  rw [← length_pending]
  refine ((nodup_pending y).subperm fun number hmem => ?_).length_le
  rcases List.mem_map.mp hmem with ⟨⟨x, i⟩, hfilter, hnumber⟩
  rcases List.mem_filter.mp hfilter with ⟨hentry, hready⟩
  have hget := List.mem_zipIdx_iff_getElem?.mp hentry
  rw [← hnumber]
  -- It was opened and has no reply, so it is in one place.
  have hopened := (List.getElem?_eq_some_iff.mp hget).1
  have hnone : y.service.reply? i = none := by
    have htrigger := (Exchange.isPending_iff x).mp hready
    simp only [Service.reply?, hget, Option.bind_some, ReplySlot.sent?, htrigger]
  have hone := pending_of_sound hy i hopened hnone
  exact List.count_pos_iff.mp (hone ▸ Nat.one_pos)

theorem length_reactor_places (stage : ReactorStage) : stage.places.length ≤ 1 := by
  cases stage <;> simp only [ReactorStage.places, List.length_nil, List.length_singleton,
    Nat.le_refl, Nat.zero_le]

/-- Each worker serves one request at most. -/
theorem length_served_le (y : System) : y.served.length ≤ y.workers.length := by
  unfold served
  induction y.workers with
  | nil => exact Nat.le_refl 0
  | cons w rest ih =>
      have hone : w.places.length ≤ 1 := by
        cases w <;> simp only [WorkerStage.places, List.length_nil, List.length_singleton,
          Nat.le_refl, Nat.zero_le]
      rw [List.flatMap_cons, List.length_append, List.length_cons]
      omega

/-- The places are bounded. As long as the owner has not emptied the queue it has nothing
    in hand, and afterwards the workers have nothing in hand. -/
theorem length_places_le (hstaged : Staged y) (hy : Bounded depth workers y)
    (hworkers : 0 < workers) : y.places.length ≤ depth + workers + 1 := by
  have hreactor := length_reactor_places y.reactor
  have hserved := length_served_le y
  have hsum : y.places.length =
      y.reactor.places.length + y.service.queue.size + y.served.length + y.owner.places.length := by
    simp only [places, queued, List.length_append, List.length_map, WorkQueue.size]
  rw [hy.sameWorkers] at hserved
  by_cases hemptied : y.owner.hasEmptied = true
  · have hnobody : y.served = [] := by
      rw [served, List.flatMap_eq_nil_iff]
      intro w hw
      rw [hstaged.exited (OwnerStage.hasJoined_of_hasEmptied hemptied) w hw]
      rfl
    have hlate := hy.late hemptied
    have hreleased := hy.released
    rw [hnobody, List.length_nil] at hsum
    omega
  · have hnothing : y.owner.places = [] := by
      cases ho : y.owner with
      | releasing jobs =>
          rw [ho] at hemptied
          exact absurd rfl hemptied
      | _ => rfl
    have hwithin := hy.within
    rw [hnothing, List.length_nil] at hsum
    omega

/-! ### Refusals -/

/-- No other reply of the server says that the queue is full. -/
theorem overloadBody_ne :
    ByteArray.empty ≠ Service.overloadBody ∧ Exchange.fallbackBody ≠ Service.overloadBody := by
  decide

/-- The queue is full for the job that the reactor has for it. -/
def Overflows (y : System) (s : Step) (number : Nat) : Prop :=
  s = .enqueue ∧ y.service.queue.depth ≤ y.service.queue.size ∧
    ∃ job, y.reactor = .routed job ∧ job.exchange = number

/-- A worker performs an action on a request that replies with this. -/
def Replies (y : System) (s : Step) (number : Nat) (status : Http.Status) (body : ByteArray) :
    Prop :=
  ∃ worker job action rest x, s = .act worker ∧
    y.workers[worker]? = some (.serving job (action :: rest)) ∧ job.exchange = number ∧
      action.reply? job.subpath x = some (status, body)

/-- A request that is told that the queue is full was told so by a handler, or the queue is
    full. -/
theorem delivers_overloaded_of_move (h : Move y s out) :
    Service.Delivers (fun number reply => reply.body = Service.overloadBody →
      Replies y s number reply.status reply.body ∨ Overflows y s number)
      y.service out.1.service out.2 := by
  refine delivers_writes_of_move h fun number x status body hwrites hbody => ?_
  cases hwrites with
  | gate number callback z status stage away => exact absurd hbody overloadBody_ne.1
  | overload job stage full => exact Or.inr ⟨rfl, full, job, stage, rfl⟩
  | action worker job action rest z status body stage hreply =>
      exact Or.inl ⟨worker, job, action, rest, z, rfl, stage, rfl, hreply⟩
  | fallback s number => exact absurd hbody overloadBody_ne.2

/-! ### Runs of a started server -/

theorem bounded_started (routes : RouteTable Handler) (allow : AllowList) (depth : Nat)
    (dumps : Bool) (workers : Nat) :
    Bounded depth workers (started routes allow depth dumps workers) :=
  ⟨rfl, Nat.zero_le _, List.length_replicate, Nat.zero_le _, nofun⟩

/-- What a run of a server with so many places in the queue and so many workers comes
    to. -/
structure Limited (start : System) (depth workers : Nat) (steps : List Step) : Prop where
  /-- Only so many requests wait for an answer. -/
  outstanding : (start.run steps).1.unanswered ≤ depth + workers + 1
  queued : (start.run steps).1.service.queue.size ≤ depth
  /-- If a step tells a request that the queue is full, then exactly as many jobs are queued
      as there are places, and the reactor has one more for this request. Or else it is a
      handler that says so. -/
  refused : let before := (start.run steps).1
    ∀ (s : Step) (out : System × List Observation) (number : Nat) (reply : Reply),
      before.step s = some out → before.service.reply? number = none →
        out.1.service.reply? number = some reply → reply.body = Service.overloadBody →
          Replies before s number reply.status reply.body ∨
            s = .enqueue ∧ before.service.queue.size = depth ∧
              ∃ job, before.reactor = .routed job ∧ job.exchange = number

/-- The backlog is bounded, for all routes, allow lists, queues and numbers of workers, and
    for every order of steps. There is at least one worker (`Serving.workerThreads`), and
    without one the late jobs would exceed the bound. -/
theorem limited_of_run (routes : RouteTable Handler) (allow : AllowList) (depth : Nat)
    (dumps : Bool) (workers : Nat) (hworkers : 0 < workers) (steps : List Step) :
    Limited (started routes allow depth dumps workers) depth workers steps := by
  have hstart := sound_started routes allow depth dumps workers
  have hsound := (sound_run steps _ hstart).1
  have hbounded := bounded_run steps _ hstart (bounded_started routes allow depth dumps workers)
  constructor
  case outstanding =>
    exact Nat.le_trans (unanswered_le_places hsound)
      (length_places_le hsound.staged hbounded hworkers)
  case queued => exact hbounded.within
  case refused =>
    intro before s out number reply hstep hnone hreply hbody
    have hmove := (move_of_step hstep).2
    rcases (delivers_overloaded_of_move hmove).fresh number reply hnone hreply hbody with
      hhandler | ⟨hs, hfull, hjob⟩
    · exact Or.inl hhandler
    · rw [hbounded.sameDepth] at hfull
      exact Or.inr ⟨hs, Nat.le_antisymm hbounded.within hfull, hjob⟩

/-- One request is queued and another one screened before the server is interrupted. The
    owner empties the queue, the other job is queued then, and a third request arrives. -/
def lateBacklog : List Step :=
  [.arrive ⟨⟨.v4 Address.loopback4, 4000, 0⟩, .get, "/", []⟩ ByteArray.empty, .load, .screen,
    .enqueue, .arrive ⟨⟨.v4 Address.loopback4, 4001, 0⟩, .get, "/", []⟩ ByteArray.empty, .load,
    .screen, .advance, .advance, .advance, .take 0, .advance, .advance, .enqueue,
    .arrive ⟨⟨.v4 Address.loopback4, 4002, 0⟩, .get, "/", []⟩ ByteArray.empty]

/-- With one place and one worker, three requests are waiting then: the bound is reached
    while the owner gives the first one up. -/
theorem limited_while_releasing :
    (∃ job, ((started ⟨[(⟨"/", .leading⟩, [])]⟩ .standard 1 false 1).run
        lateBacklog).1.owner = .releasing [job]) ∧
      ((started ⟨[(⟨"/", .leading⟩, [])]⟩ .standard 1 false 1).run lateBacklog).1.unanswered = 3 ∧
      Limited (started ⟨[(⟨"/", .leading⟩, [])]⟩ .standard 1 false 1) 1 1 lateBacklog := by
  have hreleasing : ((started ⟨[(⟨"/", .leading⟩, [])]⟩ .standard 1 false 1).run
      lateBacklog).1.owner = .releasing [⟨0, [], ""⟩] := by
    rfl
  have hthree : ((started ⟨[(⟨"/", .leading⟩, [])]⟩ .standard 1 false 1).run
      lateBacklog).1.unanswered = 3 := by
    rfl
  have hlimited :=
    limited_of_run ⟨[(⟨"/", .leading⟩, [])]⟩ .standard 1 false 1 Nat.one_pos lateBacklog
  exact ⟨⟨_, hreleasing⟩, hthree, hlimited⟩

end System

end ControlPlane
