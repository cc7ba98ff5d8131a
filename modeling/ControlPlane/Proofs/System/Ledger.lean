import ControlPlane.Proofs.Service.Ledger
import ControlPlane.Proofs.System.Stages

/-!
# The Ledger of a System

Every move of a system adds to the ledger of its service what it counts. This needs nothing of the
system: not that it was started in any way, nor that its parts fit together. So it holds from
wherever a request finds the server, and until the client of the exchange that is followed leaves.

## Theorems

* `books_of_move`, `books_run`: What every move, and every run, adds to the ledger.
* `closing_of_move`: No move takes shutdown back.
-/

namespace ControlPlane

open Telemetry (Observation)

namespace System

variable {number : Nat} {y : System} {s : Step} {out : System × List Observation}

/-- Where a move lets go of the queue, it adds the entries of those that are given up. -/
theorem books_letGo {mid : System} {told : List Observation} {service : Service}
    (h : Service.Books number service mid.service told) :
    Service.Books number service (letGo mid told).1.service (letGo mid told).2 := by
  unfold letGo
  refine Service.books_trans h ?_
  rcases dropUnheld_cases mid with ⟨_, hd⟩ | ⟨_, hd⟩
  · simp only [hd]
    exact Service.books_of_same rfl id rfl
  · simp only [hd]
    exact Service.books_release mid.service

/-- Giving up the request of a job adds one entry at most. What is told of a fault is none. -/
theorem books_conclude (y : System) (worker : Nat) (job : Job) (fault : Option Fault) :
    Service.Books number y.service (y.conclude worker job fault).1.service
      (y.conclude worker job fault).2 :=
  Service.books_trans (Service.books_giveUp y.service job.exchange)
    (Service.books_of_same rfl id (Service.replies_fault worker job.subpath fault))

/-- Every move adds to the ledger what it counts, and follows the exchange unless its client
    leaves. -/
theorem books_of_move (h : Move y s out) (hstays : s ≠ .leave number) :
    Service.Books number y.service out.1.service out.2 := by
  cases h with
  | arrive head body stage => exact Service.books_openExchange y.service head body
  | refuse other callback x status first stage opened away silent =>
      exact books_letGo
        (Service.books_append_left (Service.books_answer y.service other status _) silent)
  | accept other allow x handler subpath first stage opened passes silent =>
      exact books_letGo (Service.books_of_same rfl id silent)
  | overload job stage full =>
      exact books_letGo
        (Service.books_append_left (Service.books_answer y.service job.exchange _ _) rfl)
  | perform worker job action rest stage sound => exact Service.books_act y.service job action
  | fail worker job action rest fault stage failed =>
      exact Service.books_trans (Service.books_act y.service job action)
        (books_conclude { y with service := (y.service.act job action).1 } worker job (some fault))
  | finish worker job stage => exact books_conclude y worker job none
  | requestShutdown stage =>
      exact Service.books_of_same rfl (fun _ => rfl) (Service.replies_requestShutdown y.service)
  | giveUp job rest stage => exact Service.books_giveUp y.service job.exchange
  | leave other =>
      exact Service.books_disconnect y.service fun heq => hstays (congrArg Step.leave heq)
  | unregister m => exact Service.books_of_same rfl id (Service.replies_unregister y.service m)
  | lose other callback stage unknown => exact books_letGo (Service.books_of_same rfl id rfl)
  | enqueue job stage room => exact books_letGo (Service.books_of_same rfl id rfl)
  | exit worker stage idle => exact books_letGo (Service.books_of_same rfl id rfl)
  | refuseAll stage => exact books_letGo (Service.books_of_same rfl id rfl)
  | drop stage => exact books_letGo (Service.books_of_same rfl id rfl)
  | _ => exact Service.books_of_same rfl id rfl

/-- No move takes shutdown back. -/
theorem closing_of_move (h : Move y s out) (closing : y.service.closing = true) :
    out.1.service.closing = true := by
  -- Some exchange is not the one whose client leaves, and the flag is the same for all.
  have hother : ∃ number, s ≠ .leave number := by
    cases s with
    | leave other => exact ⟨other + 1, fun heq => Nat.succ_ne_self other (Step.leave.inj heq).symm⟩
    | _ => exact ⟨0, nofun⟩
  rcases hother with ⟨number, hne⟩
  have hbooks : Service.Books number y.service out.1.service out.2 := books_of_move h hne
  exact hbooks.closing closing

/-- Every run adds to the ledger what it counts, by induction along its steps. -/
theorem books_run (steps : List Step) :
    ∀ y : System, .leave number ∉ steps →
      Service.Books number y.service (y.run steps).1.service (y.run steps).2 := by
  induction steps with
  | nil => exact fun y _ => Service.books_of_same rfl id rfl
  | cons s rest ih =>
      intro y hstays
      rw [List.mem_cons, not_or] at hstays
      rcases run_cons y s rest with ⟨_, hrun⟩ | ⟨out, hstep, hrun⟩
      · rw [hrun]
        exact ih y hstays.2
      · have hmove := (move_of_step hstep).2
        rw [hrun]
        exact Service.books_trans (books_of_move hmove (Ne.symm hstays.1)) (ih out.1 hstays.2)

end System

end ControlPlane
