import ControlPlane.WorkQueue.Operation

/-!
# Effects on a Work Queue

What an operation can do to a queue, said once. The operations are functions that
look at the depth, at whether the queue runs and at whether it is empty, in that
order; `Effect` lists the seven ways in which these looks can come out, each with
the queue afterwards and the answer. Everything that is kept along runs is a
short case analysis on it.

A stopped queue may still accept items and may still be released. That no taker
gets one of them, and that nothing starts the queue again, is `stopped_of_effect`.

## Main definitions

* `Effect`: What an operation does to a queue and what it answers.

## Theorems

* `enqueue_eq`: A queue accepts an item exactly if it has room.
* `dequeue_cases`: What taking comes to.
* `effect_apply`: Every operation has one of the effects.
* `depth_of_effect`: The depth of a queue never changes.
* `size_of_effect`: An operation keeps the queue within its depth.
* `stopped_of_effect`: A stopped queue stays stopped and gives no item away.
-/

namespace ControlPlane

namespace WorkQueue

variable {α : Type} {q q' : WorkQueue α} {op : Operation α} {answer : Answer α}

/-- What an operation does to a queue and what it answers. -/
inductive Effect (q : WorkQueue α) : Operation α → WorkQueue α → Answer α → Prop
  | accepted (a : α) (room : q.size < q.depth) :
      Effect q (.enqueue a) { q with items := q.items ++ [a] } (.accepted a)
  | refused (a : α) (full : q.depth ≤ q.size) : Effect q (.enqueue a) q (.refused a)
  | stopped (idle : q.running = false) : Effect q .dequeue q .stopped
  | blocked (runs : q.running = true) (empty : q.items = []) : Effect q .dequeue q .blocked
  | taken (a : α) (rest : List α) (runs : q.running = true) (items : q.items = a :: rest) :
      Effect q .dequeue { q with items := rest } (.taken a)
  | interrupted : Effect q .interrupt { q with running := false } .interrupted
  | released : Effect q .release { q with items := [] } (.released q.items)

/-- A queue accepts an item exactly if it has room; otherwise it hands it back. -/
theorem enqueue_eq (q : WorkQueue α) (a : α) :
    q.enqueue a =
      if q.size < q.depth then .ok { q with items := q.items ++ [a] } else .error a := by
  -- The queue asks whether it is full, so the branches change places.
  by_cases h : q.depth ≤ q.size
  · rw [if_neg (by omega), enqueue, if_pos h]
  · rw [if_pos (by omega), enqueue, if_neg h]

/-- What taking comes to: the queue was stopped, or it is empty, or its oldest item
    leaves it. -/
theorem dequeue_cases (q : WorkQueue α) :
    (q.running = false ∧ q.dequeue = .stopped) ∨
      (q.running = true ∧ q.items = [] ∧ q.dequeue = .blocked) ∨
      ∃ a rest, q.running = true ∧ q.items = a :: rest ∧
        q.dequeue = .item a { q with items := rest } := by
  cases runs : q.running with
  | false =>
      left
      refine ⟨rfl, ?_⟩
      simp only [dequeue, runs, Bool.false_eq_true, if_false]
  | true =>
      right
      cases items : q.items with
      | nil =>
          left
          refine ⟨rfl, rfl, ?_⟩
          simp only [dequeue, runs, items, if_true]
      | cons a rest =>
          right
          refine ⟨a, rest, rfl, rfl, ?_⟩
          simp only [dequeue, runs, items, if_true]

theorem apply_enqueue (q : WorkQueue α) (a : α) :
    q.apply (.enqueue a) =
      if q.size < q.depth then ({ q with items := q.items ++ [a] }, .accepted a)
      else (q, .refused a) := by
  by_cases h : q.size < q.depth
  · rw [if_pos h]
    simp only [apply, enqueue_eq, if_pos h]
  · rw [if_neg h]
    simp only [apply, enqueue_eq, if_neg h]

/-- Every operation has one of the effects. -/
theorem effect_apply (q : WorkQueue α) (op : Operation α) :
    Effect q op (q.apply op).1 (q.apply op).2 := by
  cases op with
  | enqueue a =>
      rw [apply_enqueue]
      by_cases room : q.size < q.depth
      · rw [if_pos room]
        exact .accepted a room
      · rw [if_neg room]
        exact .refused a (by omega)
  | dequeue =>
      rcases dequeue_cases q with ⟨idle, h⟩ | ⟨runs, empty, h⟩ | ⟨a, rest, runs, items, h⟩
      · simp only [apply, h]
        exact .stopped idle
      · simp only [apply, h]
        exact .blocked runs empty
      · simp only [apply, h]
        exact .taken a rest runs items
  | interrupt => exact .interrupted
  | release => exact .released

/-- No operation changes how many items a queue may hold. -/
theorem depth_of_effect (h : Effect q op q' answer) : q'.depth = q.depth := by
  cases h <;> rfl

/-- An operation keeps a queue within its depth. -/
theorem size_of_effect (h : Effect q op q' answer) (hq : q.size ≤ q.depth) :
    q'.size ≤ q'.depth := by
  cases h with
  | accepted a room =>
      simp only [size, List.length_append, List.length_singleton] at room ⊢
      omega
  | refused a full => exact hq
  | stopped idle => exact hq
  | blocked runs empty => exact hq
  | taken a rest runs items =>
      simp only [size, items, List.length_cons] at hq ⊢
      omega
  | interrupted => exact hq
  | released => exact Nat.zero_le _

/-- No operation starts a stopped queue again, and none gives an item of it to a
    taker. -/
theorem stopped_of_effect (h : Effect q op q' answer) (hq : q.running = false) :
    q'.running = false ∧ (∀ a, answer ≠ .taken a) ∧ (op = .dequeue → answer = .stopped) := by
  cases h with
  | accepted a room => exact ⟨hq, nofun, nofun⟩
  | refused a full => exact ⟨hq, nofun, nofun⟩
  | stopped idle => exact ⟨hq, nofun, fun _ => rfl⟩
  | blocked runs empty => exact absurd (hq.symm.trans runs) Bool.false_ne_true
  | taken a rest runs items => exact absurd (hq.symm.trans runs) Bool.false_ne_true
  | interrupted => exact ⟨rfl, nofun, nofun⟩
  | released => exact ⟨hq, nofun, nofun⟩

end WorkQueue

end ControlPlane
