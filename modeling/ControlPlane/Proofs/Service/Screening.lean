import ControlPlane.Proofs.Service.Delivery
import ControlPlane.Worker

/-!
# Gates

What a request meets on its way into the queue, case by case. Screening either
turns it away with a status or makes a job of it, and queueing the job either
appends it or answers the request because there is no room. Whatever else is
told on the way tells of no reply.

Being turned away depends on the callback that was loaded for the request, not
on the one of the moment, and on the table of the moment.

## Main definitions

* `Service.TurnsAway`: A callback refuses a request with a status.
* `Reply.Gated`: A reply that only a gate gives.

## Theorems

* `screen_cases`: What screening comes to.
* `enqueue_cases`: What queueing comes to.
* `gated_of_turnsAway`: Who is turned away gets the reply of a gate.
-/

namespace ControlPlane

open Telemetry (Observation replies)

/-- A reply that only a gate gives: it says nothing, or that the queue is full. -/
def Reply.Gated (reply : Reply) : Prop :=
  (reply.status ∈ [Http.Status.unavailable, .forbidden, .badRequest, .notFound] ∧
      reply.body = ByteArray.empty) ∨
    (reply.status = .internalError ∧ reply.body = Service.overloadBody)

namespace Service

/-- The callback refuses the request of an exchange with a status. -/
def TurnsAway (s : Service) (x : Exchange) (status : Http.Status) : Callback → Prop
  | .reject => status = .unavailable
  | .dispatch allow => (Verdict.ofHead allow s.routes x.head).refusal? = some status

theorem replies_told (head : RequestHead) (verdict : Verdict) :
    replies [verdict.told head] = 0 := by
  cases verdict <;> rfl

theorem replies_unregister (s : Service) (m : Matcher) : replies (s.unregister m).2.2 = 0 := by
  unfold unregister
  by_cases hm : s.routes.has m = true
  · rw [if_pos hm]
    rfl
  · rw [if_neg hm]
    rfl

theorem replies_requestShutdown (s : Service) : replies s.requestShutdown.2 = 0 := by
  unfold requestShutdown
  cases s.closing <;> rfl

/-- What a worker tells of a fault is no reply. -/
theorem replies_fault (worker : Nat) (subpath : String) (fault : Option Fault) :
    replies (fault.map (Worker.faultEvent worker subpath)).toList = 0 := by
  cases fault with
  | none => rfl
  | some fault => cases fault <;> rfl

/-- Screening finds no request, turns the request away, or makes a job of it. -/
theorem screen_cases (s : Service) (callback : Callback) (number : Nat) :
    (s.exchanges[number]? = none ∧ s.screen callback number = (s, none, [])) ∨
      ∃ x first, s.exchanges[number]? = some x ∧ replies first = 0 ∧
        ((∃ status, s.TurnsAway x status callback ∧
            s.screen callback number =
              ((s.answer number status ByteArray.empty).1, none,
                first ++ (s.answer number status ByteArray.empty).2)) ∨
          ∃ allow handler subpath, callback = .dispatch allow ∧
            Verdict.ofHead allow s.routes x.head = .admitted handler subpath ∧
            s.screen callback number = (s, some ⟨number, handler, subpath⟩, first)) := by
  rcases hx : s.exchanges[number]? with _ | x
  · left
    exact ⟨rfl, by simp only [screen, hx]⟩
  · right
    -- The callback decides first. Only one that dispatches looks at the request.
    cases callback with
    | reject =>
        refine ⟨x, [Telemetry.log .debug .dispatcher "Rejecting request while shutting down"], rfl,
          rfl, Or.inl ⟨.unavailable, rfl, ?_⟩⟩
        simp only [screen, hx, List.singleton_append]
    | dispatch allow =>
        have hdump : replies (if s.dumps then [Dump.request x.head x.body] else []) = 0 := by
          cases s.dumps <;> rfl
        refine ⟨x, (if s.dumps then [Dump.request x.head x.body] else []) ++
          [(Verdict.ofHead allow s.routes x.head).told x.head], rfl, ?_, ?_⟩
        · rw [Telemetry.replies_append, hdump, replies_told]
        · cases hv : Verdict.ofHead allow s.routes x.head with
          | admitted handler subpath =>
              refine Or.inr ⟨allow, handler, subpath, rfl, hv, ?_⟩
              simp only [screen, hx, hv]
          | forbidden =>
              refine Or.inl ⟨.forbidden, by simp only [TurnsAway, hv, Verdict.refusal?], ?_⟩
              simp only [screen, hx, hv, Verdict.refusal?, Option.getD_some]
          | unknownMethod =>
              refine Or.inl ⟨.badRequest, by simp only [TurnsAway, hv, Verdict.refusal?], ?_⟩
              simp only [screen, hx, hv, Verdict.refusal?, Option.getD_some]
          | unrouted =>
              refine Or.inl ⟨.notFound, by simp only [TurnsAway, hv, Verdict.refusal?], ?_⟩
              simp only [screen, hx, hv, Verdict.refusal?, Option.getD_some]

/-- Queueing appends the job, or answers its request if the queue is full. -/
theorem enqueue_cases (s : Service) (job : Job) :
    (s.queue.size < s.queue.depth ∧
        s.enqueue job =
          ({ s with queue := { s.queue with items := s.queue.items ++ [job] } },
            [.set .queueDepth (s.queue.items ++ [job]).length])) ∨
      (s.queue.depth ≤ s.queue.size ∧
        s.enqueue job =
          ((s.answer job.exchange .internalError overloadBody).1,
            [overloadEvent, .count .rejected] ++
              (s.answer job.exchange .internalError overloadBody).2)) := by
  by_cases hroom : s.queue.size < s.queue.depth
  · left
    refine ⟨hroom, ?_⟩
    simp only [enqueue, WorkQueue.enqueue_eq, if_pos hroom]
    rfl
  · right
    refine ⟨Nat.le_of_not_lt hroom, ?_⟩
    simp only [enqueue, WorkQueue.enqueue_eq, if_neg hroom]
    rfl

theorem gated_of_turnsAway (s : Service) (c : Conditions) (callback : Callback) (x y : Exchange)
    (status : Http.Status) (h : s.TurnsAway x status callback) :
    (y.replyWith c status ByteArray.empty).Gated := by
  left
  refine ⟨?_, rfl⟩
  cases callback with
  | reject =>
      have hs : status = .unavailable := h
      simp only [Exchange.replyWith, hs, List.mem_cons, true_or]
  | dispatch allow =>
      have hv : (Verdict.ofHead allow s.routes x.head).refusal? = some status := h
      cases hw : Verdict.ofHead allow s.routes x.head with
      | admitted handler subpath =>
          simp only [hw, Verdict.refusal?, reduceCtorEq] at hv
      | forbidden =>
          simp only [hw, Verdict.refusal?, Option.some.injEq] at hv
          simp only [Exchange.replyWith, ← hv, List.mem_cons, true_or, or_true]
      | unknownMethod =>
          simp only [hw, Verdict.refusal?, Option.some.injEq] at hv
          simp only [Exchange.replyWith, ← hv, List.mem_cons, true_or, or_true]
      | unrouted =>
          simp only [hw, Verdict.refusal?, Option.some.injEq] at hv
          simp only [Exchange.replyWith, ← hv, List.mem_cons, true_or, or_true]

end Service

end ControlPlane
