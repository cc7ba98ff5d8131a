import ControlPlane.Proofs.System.Intact
import ControlPlane.Proofs.System.Ledger

/-!
# Interrupting Step by Step

An interrupt is three steps, and others move between them: the callback is withdrawn,
the queue is stopped, shutdown is requested. `Switched` says what each of the last two
leaves behind for good. Once the owner has come that far, the queue is stopped, and
later every reply asks to close the connection. Neither is ever taken back.

A stopped queue gives out no job, so the list of jobs that were begun does not change
any more. And since an interrupt is complete before the owner lets go of the queue,
whatever is given up with the queue is given up while the server is closing.

`Firm` collects everything that holds along a run of a started server, so that what
later steps cannot undo needs a case analysis on one move only.

## Main definitions

* `OwnerStage.hasStopped`, `OwnerStage.hasInterrupted`: How far the owner has come.
* `System.Switched`: What the steps of an interrupt leave behind.
* `System.Firm`: The invariants of a started server together.

## Theorems

* `switched_of_move`: Nothing is switched back.
* `stage_of_move`: The owner does not go back.
* `begun_of_stopped`: A stopped queue gives out no job.
* `firm_of_move`, `firm_run`: The invariants hold along every run.
* `run_preserves`: What every move keeps holds at the end of a run.
* `closes_of_closing`, `closes_run`: Every reply sent while the server is closing asks to close
  the connection.
-/

namespace ControlPlane

open Telemetry (Observation)

namespace OwnerStage

/-- The owner has stopped the queue. -/
def hasStopped : OwnerStage → Bool
  | .running | .refusing => false
  | _ => true

/-- The owner has completed the interrupt. -/
def hasInterrupted : OwnerStage → Bool
  | .running | .refusing | .stopping => false
  | _ => true

/-- The owner lets go of the queue after the interrupt only. -/
theorem hasInterrupted_of_holds {stage : OwnerStage} (h : stage.holds = false) :
    stage.hasInterrupted = true := by
  cases stage with
  | dropped => rfl
  | stopped => rfl
  | _ => exact absurd h.symm Bool.false_ne_true

end OwnerStage

namespace System

variable {y y' : System} {s : Step} {out : System × List Observation}

/-- What the steps of an interrupt leave behind. -/
structure Switched (y : System) : Prop where
  halted : y.owner.hasStopped = true → y.service.queue.running = false
  closing : y.owner.hasInterrupted = true → y.service.closing = true

/-- A move that leaves the owner and the two switches where they are. -/
theorem switched_of_same (hy : Switched y) (howner : y'.owner = y.owner)
    (hrunning : y'.service.queue.running = y.service.queue.running)
    (hclosing : y'.service.closing = y.service.closing) : Switched y' := by
  refine ⟨fun h => ?_, fun h => ?_⟩
  · rw [howner] at h
    exact hrunning.trans (hy.halted h)
  · rw [howner] at h
    exact hclosing.trans (hy.closing h)

/-- A move that changes exchanges only. -/
theorem switched_of_frame (hy : Switched y) (howner : y'.owner = y.owner)
    (hframe : ∃ xs, y'.service = { y.service with exchanges := xs }) : Switched y' :=
  switched_of_same hy howner
    (congrArg WorkQueue.running (Service.queue_of_frame hframe))
    (congrArg Conditions.closing (Service.conditions_of_frame hframe))

theorem switched_letGo {mid : System} (h : Switched mid) (told : List Observation) :
    Switched (letGo mid told).1 := by
  rcases dropUnheld_cases mid with ⟨_, hd⟩ | ⟨_, hd⟩
  · simp only [letGo, hd]
    exact h
  · simp only [letGo, hd]
    rcases mid.service.release_frame with ⟨xs, hr⟩
    refine switched_of_same h rfl ?_ ?_
    · simp only [hr]
    · simp only [hr]

/-- Nothing is switched back. -/
theorem switched_of_move (h : Move y s out) (hy : Switched y) : Switched out.1 := by
  cases h with
  | refuse number callback x status first stage opened away silent =>
      refine switched_letGo ?_ _
      exact switched_of_frame hy rfl (y.service.answer_frame number status _)
  | overload job stage full =>
      refine switched_letGo ?_ _
      exact switched_of_frame hy rfl (y.service.answer_frame job.exchange _ _)
  | lose number callback stage unknown =>
      refine switched_letGo ?_ _
      exact switched_of_same hy rfl rfl rfl
  | accept number allow x handler subpath first stage opened passes silent =>
      refine switched_letGo ?_ _
      exact switched_of_same hy rfl rfl rfl
  | enqueue job stage room =>
      refine switched_letGo ?_ _
      exact switched_of_same hy rfl rfl rfl
  | exit worker stage idle =>
      refine switched_letGo ?_ _
      exact switched_of_same hy rfl rfl rfl
  | perform worker job action rest stage sound =>
      exact switched_of_frame hy rfl (y.service.act_frame job action)
  | fail worker job action rest fault stage failed =>
      have hacted : Switched { y with service := (y.service.act job action).1 } :=
        switched_of_frame hy rfl (y.service.act_frame job action)
      exact switched_of_frame hacted rfl (Service.giveUp_frame _ job.exchange)
  | finish worker job stage => exact switched_of_frame hy rfl (y.service.giveUp_frame job.exchange)
  | refuseAll stage =>
      -- Neither step has been taken yet.
      have hfirst : Switched { y with service := y.service.stopAdmitting, owner := .refusing } :=
        ⟨nofun, nofun⟩
      exact switched_letGo hfirst _
  | stopQueue stage => exact ⟨fun _ => rfl, nofun⟩
  | requestShutdown stage => exact ⟨fun _ => hy.halted (by rw [stage]; rfl), fun _ => rfl⟩
  | joinWorkers stage exited =>
      exact ⟨fun _ => hy.halted (by rw [stage]; rfl), fun _ => hy.closing (by rw [stage]; rfl)⟩
  | empty stage =>
      exact ⟨fun _ => hy.halted (by rw [stage]; rfl), fun _ => hy.closing (by rw [stage]; rfl)⟩
  | giveUp job rest stage =>
      have hgiven : Switched { y with service := (y.service.giveUp job.exchange).1 } :=
        switched_of_frame hy rfl (y.service.giveUp_frame job.exchange)
      exact ⟨fun _ => hgiven.halted (by rw [stage]; rfl), fun _ => hgiven.closing (by rw [stage]; rfl)⟩
  | drop stage =>
      have hdropped : Switched { y with owner := .dropped } :=
        ⟨fun _ => hy.halted (by rw [stage]; rfl), fun _ => hy.closing (by rw [stage]; rfl)⟩
      exact switched_letGo hdropped _
  | joinReactor stage idle =>
      exact ⟨fun _ => hy.halted (by rw [stage]; rfl), fun _ => hy.closing (by rw [stage]; rfl)⟩
  | leave number => exact switched_of_frame hy rfl (y.service.disconnect_frame number)
  | _ => exact switched_of_same hy rfl rfl rfl

theorem letGo_owner (mid : System) (told : List Observation) :
    (letGo mid told).1.owner = mid.owner := by
  rcases dropUnheld_frame mid with ⟨service, hd, _⟩
  simp only [letGo, hd]

/-- A move of somebody else. -/
theorem stage_of_same (h : y'.owner = y.owner) :
    (y.owner.hasStopped = true → y'.owner.hasStopped = true) ∧
      (y.owner.hasInterrupted = true → y'.owner.hasInterrupted = true) := by
  rw [h]
  exact ⟨id, id⟩

/-- The owner does not go back. -/
theorem stage_of_move (h : Move y s out) :
    (y.owner.hasStopped = true → out.1.owner.hasStopped = true) ∧
      (y.owner.hasInterrupted = true → out.1.owner.hasInterrupted = true) := by
  cases h with
  | lose number callback stage unknown => exact stage_of_same (letGo_owner _ _)
  | refuse number callback x status first stage opened away silent => exact stage_of_same (letGo_owner _ _)
  | accept number allow x handler subpath first stage opened passes silent => exact stage_of_same (letGo_owner _ _)
  | enqueue job stage room => exact stage_of_same (letGo_owner _ _)
  | overload job stage full => exact stage_of_same (letGo_owner _ _)
  | exit worker stage idle => exact stage_of_same (letGo_owner _ _)
  | refuseAll stage =>
      rw [stage]
      exact ⟨nofun, nofun⟩
  | stopQueue stage =>
      rw [stage]
      exact ⟨nofun, nofun⟩
  | requestShutdown stage => exact ⟨fun _ => rfl, fun _ => rfl⟩
  | joinWorkers stage exited => exact ⟨fun _ => rfl, fun _ => rfl⟩
  | empty stage => exact ⟨fun _ => rfl, fun _ => rfl⟩
  | giveUp job rest stage => exact ⟨fun _ => rfl, fun _ => rfl⟩
  | drop stage =>
      rw [letGo_owner]
      exact ⟨fun _ => rfl, fun _ => rfl⟩
  | joinReactor stage idle => exact ⟨fun _ => rfl, fun _ => rfl⟩
  | _ => exact stage_of_same rfl

/-- A stopped queue gives out no job. -/
theorem begun_of_stopped (h : Move y s out) (halted : y.service.queue.running = false) :
    out.1.begun = y.begun := by
  cases h with
  | begin worker job rest stage runs items => exact absurd (halted.symm.trans runs) Bool.false_ne_true
  | lose number callback stage unknown => exact letGo_begun _ _
  | refuse number callback x status first stage opened away silent => exact letGo_begun _ _
  | accept number allow x handler subpath first stage opened passes silent => exact letGo_begun _ _
  | enqueue job stage room => exact letGo_begun _ _
  | overload job stage full => exact letGo_begun _ _
  | exit worker stage idle => exact letGo_begun _ _
  | refuseAll stage => exact letGo_begun _ _
  | drop stage => exact letGo_begun _ _
  | _ => rfl

/-! ### Runs -/

/-- The invariants of a started server. -/
structure Firm (y : System) : Prop where
  sound : Sound y
  switched : Switched y
  intact : Intact y

theorem firm_of_move (h : Move y s out) (hy : Firm y) : Firm out.1 :=
  ⟨sound_of_move h hy.sound, switched_of_move h hy.switched,
    intact_of_move h hy.intact hy.sound.staged hy.sound.custodial⟩

theorem firm_started (routes : RouteTable Handler) (allow : AllowList) (depth : Nat) (dumps : Bool)
    (workers : Nat) : Firm (started routes allow depth dumps workers) := by
  refine ⟨sound_started routes allow depth dumps workers, ⟨nofun, nofun⟩, ?_, ?_, ?_⟩
  · exact fun job hmem => absurd hmem List.not_mem_nil
  · exact fun job hmem => absurd hmem List.not_mem_nil
  · intro number x hx
    exact absurd hx (by simp only [started, ofService, List.getElem?_nil, reduceCtorEq,
      not_false_eq_true])

/-- What every move keeps holds at the end of a run, by induction along its steps. -/
theorem run_preserves {P : System → Prop}
    (hP : ∀ (y : System) (s : Step) (out : System × List Observation),
      Firm y → Move y s out → P y → P out.1) (steps : List Step) :
    ∀ y : System, Firm y → P y → Firm (y.run steps).1 ∧ P (y.run steps).1 := by
  induction steps with
  | nil => exact fun y hy h => ⟨hy, h⟩
  | cons s rest ih =>
      intro y hy h
      rcases run_cons y s rest with ⟨_, hrun⟩ | ⟨out, hstep, hrun⟩
      · rw [hrun]
        exact ih y hy h
      · rw [hrun]
        have hmove := (move_of_step hstep).2
        exact ih out.1 (firm_of_move hmove hy) (hP y s out hy hmove h)

theorem firm_run (steps : List Step) (hy : Firm y) : Firm (y.run steps).1 :=
  (run_preserves (P := fun _ => True) (fun _ _ _ _ _ _ => trivial) steps y hy trivial).1

/-! ### Replies while the server is closing -/

/-- The reply asks to close the connection after everything else. -/
def asksToClose (reply : Reply) : Prop :=
  reply.headers.getLast? = some Http.closeField

theorem asksToClose_replyWith {c : Conditions} (closing : c.closing = true) (status : Http.Status)
    (body : ByteArray) (x : Exchange) : asksToClose (x.replyWith c status body) := by
  unfold asksToClose Exchange.replyWith
  rw [if_pos closing]
  exact List.getLast?_concat

/-- Every reply sent in a run that begins after shutdown was requested asks to close the
    connection, however the flag came to be raised. -/
theorem closes_of_closing (steps : List Step) :
    ∀ y : System, y.service.closing = true →
      Service.Delivers (fun _ reply => asksToClose reply) y.service (y.run steps).1.service
        (y.run steps).2 := by
  induction steps with
  | nil => exact fun y _ => Service.delivers_of_same rfl rfl
  | cons s rest ih =>
      intro y closing
      rcases run_cons y s rest with ⟨_, hrun⟩ | ⟨out, hstep, hrun⟩
      · rw [hrun]
        exact ih y closing
      · have hmove := (move_of_step hstep).2
        have hfirst : Service.Delivers (fun _ reply => asksToClose reply) y.service
            out.1.service out.2 :=
          delivers_writes_of_move hmove fun _ x status body _ =>
            asksToClose_replyWith closing status body x
        rw [hrun]
        exact Service.delivers_trans hfirst (ih out.1 (closing_of_move hmove closing))

/-- Every reply sent after the interrupt asks to close the connection. -/
theorem closes_run (steps : List Step) (y : System) (hy : Firm y)
    (interrupted : y.owner.hasInterrupted = true) :
    Service.Delivers (fun _ reply => asksToClose reply) y.service (y.run steps).1.service
      (y.run steps).2 :=
  closes_of_closing steps y (hy.switched.closing interrupted)

end System

end ControlPlane
