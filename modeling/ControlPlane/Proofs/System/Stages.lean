import ControlPlane.Proofs.System.Move

/-!
# Stages

Where everybody can stand at the same time. The owner goes through its stages in
one direction and waits for the others on the way, so its stage says something
about them: once it has begun to interrupt, the callback refuses; once it has
joined the workers, none of them is left; and once it has stopped, the reactor
has ended (`Staged`). A worker only ever serves a job that it has begun, and
what it still has to do is the end of that job's handler.

The queue lives as long as somebody holds it. `holders_eq_zero_iff` spells out
what it takes that nobody does, and `Tidy` says that a queue that nobody holds
has nothing in it. A move by which somebody may let go restores this at once,
and no other move makes the last holder disappear.

## Main definitions

* `OwnerStage.hasJoined`: The owner has waited for the workers.
* `System.Staged`: The owner's stage agrees with the others'.
* `System.Tidy`: Nothing waits in a queue that nobody holds.

## Theorems

* `holders_eq_zero_iff`: When nobody holds the queue.
* `dropUnheld_cases`: What is left after the last holder has let go.
* `staged_of_move`: Every move keeps the stages in agreement.
* `tidy_of_move`: Every move leaves the system tidy.
* `holders_of_stopped`: Nobody holds the queue of a stopped server.
-/

namespace ControlPlane

open Telemetry (Observation)

/-- The owner has waited for the workers to exit. -/
def OwnerStage.hasJoined : OwnerStage → Bool
  | .joined | .releasing _ | .dropped | .stopped => true
  | _ => false

namespace System

variable {y : System} {s : Step} {out : System × List Observation}

/-- The stage of the owner agrees with those of the others. -/
structure Staged (y : System) : Prop where
  refusing : y.owner ≠ .running → y.service.callback = .reject
  exited : y.owner.hasJoined = true → ∀ w ∈ y.workers, w = .exited
  joined : y.owner = .stopped → y.reactor = .joined
  serving : ∀ job rest, .serving job rest ∈ y.workers → job ∈ y.begun ∧ rest <:+ job.handler

/-- Nothing waits in a queue that nobody holds. -/
def Tidy (y : System) : Prop :=
  y.holders = 0 → y.service.queue.items = []

/-! ### Holders -/

theorem holders_eq_zero_iff (y : System) :
    y.holders = 0 ↔
      y.owner.holds = false ∧ callbackHolds y.service.callback = false ∧
        reactorHolds y.reactor = false ∧ ∀ w ∈ y.workers, w = .exited := by
  have hworkers : y.workers.countP (· ≠ .exited) = 0 ↔ ∀ w ∈ y.workers, w = .exited := by
    rw [List.countP_eq_zero]
    simp only [ne_eq, decide_not, Bool.not_eq_true', decide_eq_false_iff_not, Decidable.not_not]
  unfold holders
  rw [Nat.add_eq_zero_iff, Nat.add_eq_zero_iff, Nat.add_eq_zero_iff, Bool.toNat_eq_zero,
    Bool.toNat_eq_zero, Bool.toNat_eq_zero, hworkers, and_assoc, and_assoc]

/-- Either somebody holds the queue and nothing happens, or it is given up. -/
theorem dropUnheld_cases (y : System) :
    (y.holders ≠ 0 ∧ y.dropUnheld = (y, [])) ∨
      (y.holders = 0 ∧
        y.dropUnheld = ({ y with service := y.service.release.1 }, y.service.release.2.2)) := by
  by_cases hz : y.holders = 0
  · exact Or.inr ⟨hz, by simp only [dropUnheld, if_pos hz]⟩
  · exact Or.inl ⟨hz, by simp only [dropUnheld, if_neg hz]⟩

/-- Giving the queue up leaves everything but the service as it was. -/
theorem dropUnheld_frame (y : System) :
    ∃ service, y.dropUnheld.1 = { y with service := service } ∧
      service.callback = y.service.callback := by
  rcases dropUnheld_cases y with ⟨_, h⟩ | ⟨_, h⟩
  · exact ⟨y.service, by rw [h], rfl⟩
  · refine ⟨y.service.release.1, by rw [h], ?_⟩
    rcases y.service.release_frame with ⟨xs, hr⟩
    rw [hr]

theorem holders_of_owner (h : y.owner.holds = true) : y.holders ≠ 0 := fun hz => by
  have hfree := ((holders_eq_zero_iff y).mp hz).1
  exact Bool.false_ne_true (hfree.symm.trans h)

theorem holders_of_worker (worker : Nat) (w : WorkerStage) (hw : y.workers[worker]? = some w)
    (hne : w ≠ .exited) : y.holders ≠ 0 := fun hz =>
  hne (((holders_eq_zero_iff y).mp hz).2.2.2 w (List.mem_of_getElem? hw))

/-! ### Agreement of the stages -/

theorem staged_of_service (h : Staged y) (service : Service)
    (hc : service.callback = y.service.callback) : Staged { y with service := service } :=
  ⟨fun ho => hc.trans (h.refusing ho), h.exited, h.joined, h.serving⟩

/-- A reactor that has not ended moves on. Then the owner has not stopped either. -/
theorem staged_of_reactor (h : Staged y) (stage : ReactorStage) (hne : y.reactor ≠ .joined) :
    Staged { y with reactor := stage } :=
  ⟨h.refusing, h.exited, fun ho => absurd (h.joined ho) hne, h.serving⟩

/-- A worker that has not exited moves on. Then the owner has not joined the
    workers either. -/
theorem staged_of_worker (h : Staged y) (worker : Nat) (before after : WorkerStage)
    (hw : y.workers[worker]? = some before) (hne : before ≠ .exited)
    (hserving : ∀ job rest, after = .serving job rest → job ∈ y.begun ∧ rest <:+ job.handler) :
    Staged (y.setWorker worker after) := by
  refine ⟨h.refusing, fun ho => ?_, h.joined, fun job rest hmem => ?_⟩
  · -- All workers would have exited, this one too.
    exact absurd (h.exited ho before (List.mem_of_getElem? hw)) hne
  · rcases List.mem_or_eq_of_mem_set hmem with hold | hnew
    · exact h.serving job rest hold
    · exact hserving job rest hnew.symm

theorem staged_letGo (h : Staged y) (told : List Observation) : Staged (letGo y told).1 := by
  rcases dropUnheld_frame y with ⟨service, hd, hc⟩
  simp only [letGo, hd]
  exact staged_of_service h service hc

/-- A job that a worker serves goes on with what is left of its handler. -/
theorem staged_conclude (h : Staged y) (worker : Nat) (job : Job) (rest : List Action)
    (fault : Option Fault) (hw : y.workers[worker]? = some (.serving job rest)) :
    Staged (y.conclude worker job fault).1 := by
  have hgiven := staged_of_service h (y.service.giveUp job.exchange).1
    (Service.callback_of_frame (y.service.giveUp_frame job.exchange))
  have hset := staged_of_worker hgiven worker _ .waiting hw nofun nofun
  exact ⟨hset.refusing, hset.exited, hset.joined, hset.serving⟩

/-- Every move keeps the stages in agreement. -/
theorem staged_of_move (h : Move y s out) (hy : Staged y) : Staged out.1 := by
  cases h with
  | arrive head body stage =>
      exact staged_of_reactor (staged_of_service hy (y.service.openExchange head body).1 rfl) _
        (by rw [stage]; nofun)
  | load number stage => exact staged_of_reactor hy _ (by rw [stage]; nofun)
  | lose number callback stage unknown =>
      exact staged_letGo (staged_of_reactor hy .idle (by rw [stage]; nofun)) _
  | refuse number callback x status first stage opened away silent =>
      refine staged_letGo (staged_of_reactor (staged_of_service hy _ ?_) .idle ?_) _
      · exact Service.callback_of_frame (y.service.answer_frame number status _)
      · rw [stage]
        nofun
  | accept number allow x handler subpath first stage opened passes silent =>
      exact staged_letGo (staged_of_reactor hy _ (by rw [stage]; nofun)) _
  | enqueue job stage room =>
      refine staged_letGo (staged_of_reactor (staged_of_service hy { y.service with
        queue := { y.service.queue with items := y.service.queue.items ++ [job] } } rfl) .idle ?_) _
      rw [stage]
      nofun
  | overload job stage full =>
      refine staged_letGo (staged_of_reactor (staged_of_service hy _ ?_) .idle ?_) _
      · exact Service.callback_of_frame (y.service.answer_frame job.exchange _ _)
      · rw [stage]
        nofun
  | exit worker stage idle =>
      exact staged_letGo (staged_of_worker hy worker _ .exited stage nofun nofun) _
  | begin worker job rest stage runs items =>
      -- The job joins the begun ones in the same move.
      have hbegun : Staged { y.setItems rest with begun := y.begun ++ [job] } :=
        ⟨hy.refusing, hy.exited, hy.joined, fun other rest hmem =>
          ⟨List.mem_append_left _ (hy.serving other rest hmem).1, (hy.serving other rest hmem).2⟩⟩
      refine staged_of_worker hbegun worker _ _ stage nofun fun other actions heq => ?_
      simp only [WorkerStage.serving.injEq] at heq
      rw [← heq.1, ← heq.2]
      exact ⟨List.mem_append_right _ (List.mem_singleton.mpr rfl), List.suffix_refl _⟩
  | perform worker job action rest stage sound =>
      have hacted := staged_of_service hy (y.service.act job action).1
        (Service.callback_of_frame (y.service.act_frame job action))
      refine staged_of_worker hacted worker _ _ stage nofun fun other actions heq => ?_
      simp only [WorkerStage.serving.injEq] at heq
      rw [← heq.1, ← heq.2]
      -- One action less is to go, and the job is the same.
      rcases hy.serving job _ (List.mem_of_getElem? stage) with ⟨hmem, hsuffix⟩
      exact ⟨hmem, (List.suffix_cons action rest).trans hsuffix⟩
  | fail worker job action rest fault stage failed =>
      have hacted := staged_of_service hy (y.service.act job action).1
        (Service.callback_of_frame (y.service.act_frame job action))
      exact staged_conclude hacted worker job (action :: rest) (some fault) stage
  | finish worker job stage => exact staged_conclude hy worker job [] none stage
  | refuseAll stage =>
      have hrefusing : Staged { y with service := y.service.stopAdmitting, owner := .refusing } :=
        ⟨fun _ => rfl, nofun, nofun, hy.serving⟩
      exact staged_letGo hrefusing _
  | stopQueue stage =>
      exact ⟨fun _ => hy.refusing (by rw [stage]; nofun), nofun, nofun, hy.serving⟩
  | requestShutdown stage =>
      exact ⟨fun _ => hy.refusing (by rw [stage]; nofun), nofun, nofun, hy.serving⟩
  | joinWorkers stage exited =>
      exact ⟨fun _ => hy.refusing (by rw [stage]; nofun), fun _ => exited, nofun, hy.serving⟩
  | empty stage =>
      exact ⟨fun _ => hy.refusing (by rw [stage]; nofun),
        fun _ => hy.exited (by rw [stage]; rfl), nofun, hy.serving⟩
  | giveUp job rest stage =>
      refine ⟨fun _ => ?_, fun _ => hy.exited (by rw [stage]; rfl), nofun, hy.serving⟩
      exact (Service.callback_of_frame (y.service.giveUp_frame job.exchange)).trans
        (hy.refusing (by rw [stage]; nofun))
  | drop stage =>
      have hdropped : Staged { y with owner := .dropped } :=
        ⟨fun _ => hy.refusing (by rw [stage]; nofun),
          fun _ => hy.exited (by rw [stage]; rfl), nofun, hy.serving⟩
      exact staged_letGo hdropped _
  | joinReactor stage idle =>
      exact ⟨fun _ => hy.refusing (by rw [stage]; nofun),
        fun _ => hy.exited (by rw [stage]; rfl), fun _ => rfl, hy.serving⟩
  | leave number =>
      exact staged_of_service hy _
        (Service.callback_of_frame (y.service.disconnect_frame number))
  | register m handler => exact staged_of_service hy _ rfl
  | unregister m => exact staged_of_service hy _ rfl

/-! ### An abandoned queue -/

theorem tidy_letGo (y : System) (told : List Observation) : Tidy (letGo y told).1 := by
  rcases dropUnheld_cases y with ⟨hheld, hd⟩ | ⟨_, hd⟩
  · simp only [letGo, hd]
    exact fun hz => absurd hz hheld
  · simp only [letGo, hd]
    rcases y.service.release_frame with ⟨xs, hr⟩
    rw [hr]
    exact fun _ => rfl

/-- A worker that has not exited keeps the queue alive. -/
theorem tidy_of_worker (worker : Nat) (before after : WorkerStage)
    (hw : y.workers[worker]? = some before) (hne : after ≠ .exited) :
    Tidy (y.setWorker worker after) := by
  intro hz
  have hlt : worker < y.workers.length := (List.getElem?_eq_some_iff.mp hw).1
  exact absurd hz (holders_of_worker worker after (List.getElem?_set_self hlt) hne)

/-- A move that changes the service only, and there neither the callback nor the
    queue. -/
theorem tidy_of_service (hy : Tidy y) (service : Service)
    (hcallback : service.callback = y.service.callback)
    (hqueue : service.queue = y.service.queue) : Tidy { y with service := service } := by
  intro hz
  rcases (holders_eq_zero_iff _).mp hz with ⟨howner, hrefuses, hreactor, hworkers⟩
  have hbefore : callbackHolds y.service.callback = false := by
    rw [← hcallback]
    exact hrefuses
  have hempty := hy ((holders_eq_zero_iff y).mpr ⟨howner, hbefore, hreactor, hworkers⟩)
  rw [← hqueue] at hempty
  exact hempty

/-- A reactor that did not hold the queue moves on. -/
theorem tidy_of_reactor (hy : Tidy y) (stage : ReactorStage)
    (hfree : reactorHolds y.reactor = false) : Tidy { y with reactor := stage } := by
  intro hz
  rcases (holders_eq_zero_iff _).mp hz with ⟨howner, hcallback, _, hworkers⟩
  exact hy ((holders_eq_zero_iff y).mpr ⟨howner, hcallback, hfree, hworkers⟩)

/-- Every move leaves the system tidy. Where the move is not one by which somebody
    lets go, either somebody still holds the queue afterwards, or nobody did
    before. -/
theorem tidy_of_move (h : Move y s out) (hy : Tidy y) : Tidy out.1 := by
  cases h with
  | arrive head body stage =>
      have hopened := tidy_of_service hy (y.service.openExchange head body).1 rfl rfl
      exact tidy_of_reactor hopened _ (by rw [stage]; rfl)
  | load number stage =>
      -- The callback may add a holder, and takes none away.
      exact tidy_of_reactor hy _ (by rw [stage]; rfl)
  | lose number callback stage unknown => exact tidy_letGo _ _
  | refuse number callback x status first stage opened away silent => exact tidy_letGo _ _
  | accept number allow x handler subpath first stage opened passes silent => exact tidy_letGo _ _
  | enqueue job stage room => exact tidy_letGo _ _
  | overload job stage full => exact tidy_letGo _ _
  | exit worker stage idle => exact tidy_letGo _ _
  | begin worker job rest stage runs items => exact tidy_of_worker worker .waiting _ stage nofun
  | perform worker job action rest stage sound => exact tidy_of_worker worker _ _ stage nofun
  | fail worker job action rest fault stage failed =>
      exact tidy_of_worker worker (.serving job (action :: rest)) .waiting stage nofun
  | finish worker job stage => exact tidy_of_worker worker (.serving job []) .waiting stage nofun
  | refuseAll stage => exact tidy_letGo _ _
  | stopQueue stage => exact fun hz => absurd hz (holders_of_owner rfl)
  | requestShutdown stage => exact fun hz => absurd hz (holders_of_owner rfl)
  | joinWorkers stage exited => exact fun hz => absurd hz (holders_of_owner rfl)
  | empty stage => exact fun _ => rfl
  | giveUp job rest stage => exact fun hz => absurd hz (holders_of_owner rfl)
  | drop stage => exact tidy_letGo _ _
  | joinReactor stage idle =>
      -- Neither an idle reactor nor one that has ended holds the queue.
      intro hz
      rcases (holders_eq_zero_iff _).mp hz with ⟨_, hcallback, _, hworkers⟩
      exact hy ((holders_eq_zero_iff y).mpr
        ⟨by rw [stage]; rfl, hcallback, by rw [idle]; rfl, hworkers⟩)
  | leave number =>
      exact tidy_of_service hy _
        (Service.callback_of_frame (y.service.disconnect_frame number))
        (Service.queue_of_frame (y.service.disconnect_frame number))
  | register m handler => exact hy
  | unregister m => exact hy

/-- Nobody holds the queue of a stopped server. -/
theorem holders_of_stopped (h : Staged y) (ho : y.owner = .stopped) : y.holders = 0 := by
  refine (holders_eq_zero_iff y).mpr ⟨by rw [ho]; rfl, ?_, ?_, h.exited (by rw [ho]; rfl)⟩
  · rw [h.refusing (by rw [ho]; nofun)]
    rfl
  · rw [h.joined ho]
    rfl

end System

end ControlPlane
