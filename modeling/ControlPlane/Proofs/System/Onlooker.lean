import ControlPlane.Proofs.Service.Onlooker
import ControlPlane.System

/-!
# Onlookers of the System

Every step of the system comes to the same whether clients have left and whether whole
requests and replies are dumped. Steps look at the stages of reactor, workers and owner, at
the queue and at the callback, and all of these are the same when seen with clients that have
stayed. So a step that can be taken in one can be taken in the other.

## Main definitions

* `System.attended`: A system whose clients have stayed.

## Theorems

* `agrees_dropUnheld`: A queue that nobody holds is given up in both.
* `agrees_stepReactor`, `agrees_stepWorker`, `agrees_advance`: Steps of the reactor, of a
  worker, and of the owner.
* `agrees_step`: Every step but a leaving client.
-/

namespace ControlPlane

open Telemetry (Observation figures)

namespace System

/-- The system as it would be if these clients had stayed and nothing were dumped. -/
def attended (left : List Nat) (y : System) : System :=
  { y with service := y.service.attended left }

section

variable (left : List Nat) (y : System)

@[simp] theorem service_attended : (y.attended left).service = y.service.attended left := rfl

@[simp] theorem reactor_attended : (y.attended left).reactor = y.reactor := rfl

@[simp] theorem workers_attended : (y.attended left).workers = y.workers := rfl

@[simp] theorem owner_attended : (y.attended left).owner = y.owner := rfl

@[simp] theorem aborted_attended : (y.attended left).aborted = y.aborted := rfl

@[simp] theorem holders_attended : (y.attended left).holders = y.holders := rfl

/-! ### Single steps -/

theorem agrees_dropUnheld : Agrees (attended left) (y.attended left).dropUnheld y.dropUnheld := by
  have hreleased := Service.answers_release left y.service
  unfold dropUnheld
  rw [holders_attended, service_attended]
  by_cases hnone : y.holders = 0
  · rw [if_pos hnone, if_pos hnone]
    exact ⟨congrArg (fun s => { y with service := s }) hreleased.state, hreleased.figures⟩
  · rw [if_neg hnone, if_neg hnone]
    exact ⟨rfl, rfl⟩

/-- What the reactor does. -/
theorem agrees_stepReactor (s : Step) :
    Option.Rel (Agrees (attended left)) ((y.attended left).stepReactor s) (y.stepReactor s) := by
  cases s with
  | arrive head body =>
      simp only [stepReactor, reactor_attended, service_attended, Service.openExchange_attended]
      cases y.reactor with
      | idle => exact .some ⟨rfl, rfl⟩
      | _ => exact .none
  | load =>
      simp only [stepReactor, reactor_attended]
      cases y.reactor with
      | opened number => exact .some ⟨rfl, rfl⟩
      | _ => exact .none
  | screen =>
      simp only [stepReactor, reactor_attended, service_attended]
      cases y.reactor with
      | loaded number callback =>
          -- Two operations follow each other here, and what they tell is put together.
          have hscreened := Service.answers_screen left y.service number callback
          have hdropped := fun stage => agrees_dropUnheld left
            { y with service := (y.service.screen callback number).1, reactor := stage }
          simp only [hscreened.state, hscreened.answer]
          refine .some ⟨(hdropped _).state, ?_⟩
          simp only [Telemetry.figures_append, hscreened.figures]
          exact congrArg _ (hdropped _).figures
      | _ => exact .none
  | enqueue =>
      simp only [stepReactor, reactor_attended, service_attended]
      cases y.reactor with
      | routed job =>
          have hqueued := Service.agrees_enqueue left y.service job
          have hdropped := agrees_dropUnheld left
            { y with service := (y.service.enqueue job).1, reactor := .idle }
          simp only [hqueued.state]
          refine .some ⟨hdropped.state, ?_⟩
          simp only [Telemetry.figures_append, hqueued.figures]
          exact congrArg _ hdropped.figures
      | _ => exact .none
  | _ => exact .none

theorem agrees_conclude (worker : Nat) (job : Job) (fault : Option Fault) :
    Agrees (attended left) ((y.attended left).conclude worker job fault) (y.conclude worker job fault) := by
  have hgiven := Service.agrees_giveUp left y.service job.exchange
  simp only [conclude, service_attended, hgiven.state]
  refine ⟨rfl, ?_⟩
  simp only [Telemetry.figures_append, hgiven.figures]

theorem agrees_take (worker : Nat) :
    Option.Rel (Agrees (attended left)) ((y.attended left).take worker) (y.take worker) := by
  simp only [take, service_attended, Service.take_attended]
  cases htake : y.service.take with
  | mk taken rest =>
      cases taken with
      | blocked => exact .none
      | stopped =>
          have hdropped := agrees_dropUnheld left (y.setWorker worker .exited)
          refine .some ⟨hdropped.state, ?_⟩
          simp only [Worker.exitEvent, Telemetry.figures_log]
          exact hdropped.figures
      | item job queue => exact .some ⟨rfl, rfl⟩

/-- What a worker does. -/
theorem agrees_stepWorker (s : Step) :
    Option.Rel (Agrees (attended left)) ((y.attended left).stepWorker s) (y.stepWorker s) := by
  cases s with
  | take worker =>
      simp only [stepWorker, workers_attended]
      cases y.workers[worker]? with
      | none => exact .none
      | some stage =>
          cases stage with
          | waiting => exact agrees_take left y worker
          | serving job rest => exact .none
          | exited => exact .none
  | act worker =>
      simp only [stepWorker, workers_attended, service_attended]
      cases y.workers[worker]? with
      | none => exact .none
      | some stage =>
          cases stage with
          | waiting => exact .none
          | exited => exact .none
          | serving job actions =>
              cases actions with
              | nil => exact .some (agrees_conclude left y worker job none)
              | cons action rest =>
                  have hacted := Service.answers_act left y.service job action
                  simp only [hacted.state, hacted.answer]
                  cases (y.service.act job action).2.1 with
                  | none => exact .some ⟨rfl, hacted.figures⟩
                  | some fault =>
                      -- After the fault the request is given up in the same step.
                      have hgiven := agrees_conclude left
                        { y with service := (y.service.act job action).1 } worker job (some fault)
                      refine .some ⟨hgiven.state, ?_⟩
                      simp only [Telemetry.figures_append, hacted.figures]
                      exact congrArg _ hgiven.figures
  | _ => exact .none

/-- What the owner does next. -/
theorem agrees_advance : Option.Rel (Agrees (attended left)) (y.attended left).advance y.advance := by
  simp only [advance, owner_attended, service_attended, reactor_attended]
  cases y.owner with
  | running =>
      have hdropped := agrees_dropUnheld left
        { y with service := y.service.stopAdmitting, owner := .refusing }
      exact .some ⟨hdropped.state, hdropped.figures⟩
  | refusing => exact .some ⟨rfl, rfl⟩
  | stopping => exact .some ⟨rfl, rfl⟩
  | interrupted =>
      rw [workers_attended]
      by_cases hexited : y.workers.all (· = .exited) = true
      · rw [if_pos hexited, if_pos hexited]
        exact .some ⟨rfl, rfl⟩
      · rw [if_neg hexited, if_neg hexited]
        exact .none
  | joined => exact .some ⟨rfl, rfl⟩
  | releasing jobs =>
      cases jobs with
      | nil =>
          have hdropped := agrees_dropUnheld left { y with owner := .dropped }
          exact .some ⟨hdropped.state, hdropped.figures⟩
      | cons job rest =>
          have hgiven := Service.agrees_giveUp left y.service job.exchange
          simp only [hgiven.state]
          exact .some ⟨rfl, hgiven.figures⟩
  | dropped =>
      cases y.reactor with
      | idle => exact .some ⟨rfl, rfl⟩
      | _ => exact .none
  | stopped => exact .none

/-- Every step but a leaving client. -/
theorem agrees_step (s : Step) (h : ∀ number, s ≠ .leave number) :
    Option.Rel (Agrees (attended left)) ((y.attended left).step s) (y.step s) := by
  unfold step
  rw [aborted_attended]
  by_cases hdone : y.aborted = true
  · rw [if_pos hdone, if_pos hdone]
    exact .none
  · rw [if_neg hdone, if_neg hdone]
    cases s with
    | arrive head body => exact agrees_stepReactor left y (.arrive head body)
    | load => exact agrees_stepReactor left y .load
    | screen => exact agrees_stepReactor left y .screen
    | enqueue => exact agrees_stepReactor left y .enqueue
    | take worker => exact agrees_stepWorker left y (.take worker)
    | act worker => exact agrees_stepWorker left y (.act worker)
    | advance => exact agrees_advance left y
    | leave number => exact absurd rfl (h number)
    | register m handler => exact .some ⟨rfl, rfl⟩
    | unregister m =>
        have hremoved := Service.answers_unregister left y.service m
        simp only [service_attended, hremoved.state]
        exact .some ⟨rfl, hremoved.figures⟩

end

end System

end ControlPlane
