import ControlPlane.Proofs.WorkQueue.Effect

/-!
# The History of a Work Queue

What a queue has given away and what it still holds, put together, is what it
has accepted, in the order in which it accepted it.

The answers of a run are the only record of what happened, and two lists are
read off them: the items accepted and the items removed. One operation keeps the
balance between these lists and the contents of the queue, whatever the
operation and whatever the state, so a run keeps it by induction. Enqueueing on
a stopped queue, releasing a running one or stopping a queue twice need no case
of their own.

The balance is an equation between lists and not only between numbers. It says
where each single item is: the first so many accepted items are the removed
ones, in the same order, and the others are the contents, oldest first.

## Main definitions

* `IsFifo`: What a queue keeps along every run, with the answers it gave.

## Theorems

* `history_of_effect`, `history_run`: The balance of accepted and removed items.
* `size_run_le`: A run keeps the queue within its depth.
* `run_stopped`: Nobody takes anything from a stopped queue.
* `count_removals`: An item was removed as often as it was taken and released.
* `fifo_of_run`: A fresh queue is a bounded first-in first-out queue along every
  run.
-/

namespace ControlPlane

namespace WorkQueue

variable {α : Type} {q q' : WorkQueue α} {op : Operation α} {answer : Answer α}

theorem accepted_cons (answer : Answer α) (answers : List (Answer α)) :
    accepted (answer :: answers) = accepted [answer] ++ accepted answers := by
  simp only [accepted]
  rw [← List.filterMap_append]
  rfl

theorem removals_cons (answer : Answer α) (answers : List (Answer α)) :
    removals (answer :: answers) = answer.removals ++ removals answers := rfl

/-- Items that were released together are these items, each removed once. -/
theorem map_item_released (items : List α) :
    (items.map Removal.released).map Removal.item = items := by
  rw [List.map_map]
  exact List.map_id _

/-- One operation keeps the balance: what a queue held and now accepts is what it
    now removes and still holds, in this order. -/
theorem history_of_effect (h : Effect q op q' answer) :
    q.items ++ accepted [answer] = answer.removals.map Removal.item ++ q'.items := by
  cases h with
  | accepted a room => rfl
  | refused a full => exact List.append_nil _
  | stopped idle => exact List.append_nil _
  | blocked runs none => exact List.append_nil _
  | taken a rest runs some =>
      rw [some]
      exact List.append_nil _
  | interrupted => exact List.append_nil _
  | released =>
      simp only [Answer.removals, map_item_released]
      rfl

theorem run_cons (q : WorkQueue α) (op : Operation α) (rest : List (Operation α)) :
    q.run (op :: rest) =
      (((q.apply op).1.run rest).1, (q.apply op).2 :: ((q.apply op).1.run rest).2) := rfl

/-- A run keeps the balance, by induction along its operations. -/
theorem history_run (q : WorkQueue α) (ops : List (Operation α)) :
    q.items ++ accepted (q.run ops).2 =
      (removals (q.run ops).2).map Removal.item ++ (q.run ops).1.items := by
  induction ops generalizing q with
  | nil => exact List.append_nil _
  | cons op rest ih =>
      rw [run_cons]
      simp only []
      -- The first operation's balance, and then that of the others.
      calc q.items ++ accepted ((q.apply op).2 :: ((q.apply op).1.run rest).2)
          = (q.items ++ accepted [(q.apply op).2]) ++ accepted ((q.apply op).1.run rest).2 := by
            rw [accepted_cons, List.append_assoc]
        _ = (q.apply op).2.removals.map Removal.item ++
              ((q.apply op).1.items ++ accepted ((q.apply op).1.run rest).2) := by
            rw [history_of_effect (effect_apply q op), List.append_assoc]
        _ = (removals ((q.apply op).2 :: ((q.apply op).1.run rest).2)).map Removal.item ++
              ((q.apply op).1.run rest).1.items := by
            rw [ih, removals_cons, List.map_append, List.append_assoc]

/-- A run keeps a queue within its depth, and the depth as it was. -/
theorem size_run_le (q : WorkQueue α) (ops : List (Operation α)) (hq : q.size ≤ q.depth) :
    (q.run ops).1.size ≤ q.depth ∧ (q.run ops).1.depth = q.depth := by
  induction ops generalizing q with
  | nil => exact ⟨hq, rfl⟩
  | cons op rest ih =>
      have hrest := ih (q.apply op).1 (size_of_effect (effect_apply q op) hq)
      rw [depth_of_effect (effect_apply q op)] at hrest
      exact hrest

/-- Nobody takes anything from a stopped queue during a whole run, and it is still
    stopped in the end. -/
theorem run_stopped (q : WorkQueue α) (ops : List (Operation α)) (hq : q.running = false) :
    (q.run ops).1.running = false ∧ (∀ a, Answer.taken a ∉ (q.run ops).2) ∧
      ∀ i : Nat, ops[i]? = some .dequeue → (q.run ops).2[i]? = some .stopped := by
  induction ops generalizing q with
  | nil =>
      refine ⟨hq, fun a => List.not_mem_nil, fun i hi => ?_⟩
      simp only [List.getElem?_nil, reduceCtorEq] at hi
  | cons op rest ih =>
      rcases stopped_of_effect (effect_apply q op) hq with ⟨hstop, hnone, hanswer⟩
      rcases ih (q.apply op).1 hstop with ⟨hrun, htaken, htakers⟩
      rw [run_cons]
      refine ⟨hrun, fun a hmem => ?_, fun i hi => ?_⟩
      · rcases List.mem_cons.mp hmem with heq | hrest
        · exact hnone a heq.symm
        · exact htaken a hrest
      · -- The first of the takers is this operation, or it comes later.
        cases i with
        | zero =>
            have hop : op = .dequeue := Option.some.inj hi
            rw [List.getElem?_cons_zero, hanswer hop]
        | succ k => exact htakers k hi

/-- How often an item was removed is how often it was taken and how often it was
    released. -/
theorem count_removals [DecidableEq α] (rs : List (Removal α)) (a : α) :
    (rs.map Removal.item).count a = rs.count (.taken a) + rs.count (.released a) := by
  induction rs with
  | nil => rfl
  | cons r rest ih =>
      rw [List.map_cons, List.count_cons, List.count_cons, List.count_cons, ih]
      cases r with
      | taken b =>
          simp only [Removal.item, beq_iff_eq, Removal.taken.injEq, reduceCtorEq, if_false]
          omega
      | released b =>
          simp only [Removal.item, beq_iff_eq, Removal.released.injEq, reduceCtorEq, if_false]
          omega

/-- What a queue of some depth keeps along every run, with the answers that it gave
    so far. -/
structure IsFifo [DecidableEq α] (depth : Nat) (q : WorkQueue α) (answers : List (Answer α)) :
    Prop where
  size_le : q.size ≤ depth
  /-- There is room for an item exactly while fewer than `depth` wait. A queue
      without room hands the item back and stays as it was. -/
  enqueue : ∀ a, q.apply (.enqueue a) =
    if q.size < depth then ({ q with items := q.items ++ [a] }, .accepted a) else (q, .refused a)
  /-- The items removed and those still there are the accepted ones, in order. -/
  order : (removals answers).map Removal.item ++ q.items = accepted answers
  /-- An item is taken, released or still there, once for each time it was accepted. -/
  place : ∀ a, (accepted answers).count a =
    (removals answers).count (.taken a) + (removals answers).count (.released a) +
      q.items.count a
  /-- A release removes everything, and answers as many items as it removes. -/
  release : ∀ items, (q.apply .release).2 = .released items →
    (q.apply .release).1.items = [] ∧ items = q.items ∧
      items.length = q.size - (q.apply .release).1.size
  /-- After an interrupt the queue never runs again and every taker is sent away
      without an item, whatever else is done. -/
  interrupt : ∀ later : List (Operation α),
    ((q.apply .interrupt).1.run later).1.running = false ∧
      (∀ a, Answer.taken a ∉ ((q.apply .interrupt).1.run later).2) ∧
      ∀ i : Nat, later[i]? = some .dequeue →
        ((q.apply .interrupt).1.run later).2[i]? = some .stopped

/-- A fresh queue is a bounded first-in first-out queue along every run of
    operations, in whatever order producers, takers and the owner come. A taker
    that finds nothing waits and looks again, and each look is an operation of its
    own. -/
theorem fifo_of_run [DecidableEq α] (depth : Nat) (ops : List (Operation α)) :
    IsFifo depth ((ofDepth depth).run ops).1 ((ofDepth depth).run ops).2 := by
  rcases size_run_le (ofDepth depth : WorkQueue α) ops (Nat.zero_le _) with ⟨hsize, hdepth⟩
  have horder : (removals ((ofDepth depth).run ops).2).map Removal.item ++
      ((ofDepth depth).run ops).1.items = accepted ((ofDepth depth).run ops).2 :=
    (history_run (ofDepth depth) ops).symm
  refine ⟨hsize, fun a => ?_, horder, fun a => ?_, fun items hitems => ?_, fun later => ?_⟩
  · rw [apply_enqueue, hdepth]
    rfl
  · rw [← horder, List.count_append, count_removals]
  · have hall : items = ((ofDepth depth).run ops).1.items := (Answer.released.inj hitems).symm
    exact ⟨rfl, hall, by rw [hall]; rfl⟩
  · exact run_stopped _ later rfl

end WorkQueue

end ControlPlane
