import ControlPlane.Proofs.WorkQueue.Effect
import ControlPlane.WorkQueue.Waiting

/-!
# No Lost Wakeups

An item never waits while there are only sleepers to take it.

Bringing an item wakes one sleeper, not all of them, and a consumer that comes
by may take an item without having slept. So a woken consumer can find nothing
left and go back to sleep, and the worry is that it takes a wakeup with it that
was meant for an item still there.

The invariant counts. While the queue runs, either nobody sleeps or there are at
least as many woken consumers as items (`Attended`). An item that is brought
adds one to both sides as long as somebody sleeps. A consumer that looks takes
an item away, and is then one less among the woken, or it finds nothing, and
then the number of items is zero and the bound holds whatever the other side is.
Waking for no reason only helps. The two sides never have to be equal: a faster
consumer leaves more woken than items.

`attended_look` is the one place where the argument is. It covers consumers that
come anew and consumers that look again, and so it starts from the weaker bound
in which the consumer that looks is not counted among the woken any more.

Stopping wakes everybody, and a stopped queue lets nobody sleep again.

## Main definitions

* `Effect`: What a step does to a room and what it answers.
* `Attended`: Items that wait have somebody awake for them.

## Theorems

* `effect_of_step`: Every step has one of the effects.
* `look_cases`: What a look at the queue comes to.
* `attended_look`: A look keeps the items attended.
* `attended_of_effect`, `attended_run`: So does every step, and every run.
* `stopped_of_effect`, `stopped_run`: A stopped queue stays stopped.
* `no_lost_wakeup`: No wakeup is lost, and everybody leaves a stopped queue.
* `no_lost_wakeup_overtaken`: A run in which a woken consumer is overtaken.
-/

namespace ControlPlane

namespace WaitingRoom

variable {α : Type} {room room' : WaitingRoom α} {s : Step α} {answer : Answer α}

/-- What a step does to a room and what it answers. -/
inductive Effect (room : WaitingRoom α) : Step α → WaitingRoom α → Answer α → Prop
  | refused (a : α) : Effect room (.enqueue a) room (.refused a)
  | accepted (a : α) :
      Effect room (.enqueue a)
        (wakeOne { room with queue := { room.queue with items := room.queue.items ++ [a] } })
        .accepted
  | entered : Effect room .enter room.look.1 room.look.2
  | rechecked (woken : room.woken ≠ 0) :
      Effect room .recheck (look { room with woken := room.woken - 1 }).1
        (look { room with woken := room.woken - 1 }).2
  | stirred (asleep : room.asleep ≠ 0) :
      Effect room .stir { room with asleep := room.asleep - 1, woken := room.woken + 1 } .done
  | interrupted :
      Effect room .interrupt
        (wakeAll { room with queue := { room.queue with running := false } }) .done
  | released :
      Effect room .release { room with queue := { room.queue with items := [] } }
        (.released room.queue.items)

/-- Every step that can be taken has one of the effects. -/
theorem effect_of_step (h : room.step s = some (room', answer)) : Effect room s room' answer := by
  cases s with
  | enqueue a =>
      simp only [step, WorkQueue.enqueue_eq] at h
      by_cases hroom : room.queue.size < room.queue.depth
      · simp only [if_pos hroom, Option.some.injEq, Prod.mk.injEq] at h
        rw [← h.1, ← h.2]
        exact .accepted a
      · simp only [if_neg hroom, Option.some.injEq, Prod.mk.injEq] at h
        rw [← h.1, ← h.2]
        exact .refused a
  | enter =>
      -- What a consumer finds is left to `look`, which the two kinds of arrival share.
      have hlook : room.look = (room', answer) := Option.some.inj h
      have heff : Effect room .enter room.look.1 room.look.2 := .entered
      rw [hlook] at heff
      exact heff
  | recheck =>
      by_cases hnone : room.woken = 0
      · simp only [step, if_pos hnone, reduceCtorEq] at h
      · have hlook : look { room with woken := room.woken - 1 } = (room', answer) := by
          simpa only [step, if_neg hnone, Option.some.injEq] using h
        have heff : Effect room .recheck (look { room with woken := room.woken - 1 }).1
            (look { room with woken := room.woken - 1 }).2 := .rechecked hnone
        rw [hlook] at heff
        exact heff
  | stir =>
      by_cases hnone : room.asleep = 0
      · simp only [step, if_pos hnone, reduceCtorEq] at h
      · simp only [step, if_neg hnone, Option.some.injEq, Prod.mk.injEq] at h
        rw [← h.1, ← h.2]
        exact .stirred hnone
  | interrupt =>
      simp only [step, Option.some.injEq, Prod.mk.injEq] at h
      rw [← h.1, ← h.2]
      exact .interrupted
  | release =>
      simp only [step, WorkQueue.release, Option.some.injEq, Prod.mk.injEq] at h
      rw [← h.1, ← h.2]
      exact .released

/-- While the queue runs, either nobody sleeps or each item that waits has a woken
    consumer of its own. Nobody sleeps at a queue that was stopped. -/
structure Attended (room : WaitingRoom α) : Prop where
  running : room.queue.running = true → room.asleep = 0 ∨ room.queue.size ≤ room.woken
  stopped : room.queue.running = false → room.asleep = 0

/-- What a look at the queue comes to: the consumer leaves a stopped queue with
    nothing, goes to sleep at an empty one, or leaves with the oldest item. -/
theorem look_cases (room : WaitingRoom α) :
    (room.queue.running = false ∧ room.look = (room, .left none)) ∨
      (room.queue.running = true ∧ room.queue.items = [] ∧
        room.look = ({ room with asleep := room.asleep + 1 }, .slept)) ∨
      ∃ a rest, room.queue.running = true ∧ room.queue.items = a :: rest ∧
        room.look = ({ room with queue := { room.queue with items := rest } }, .left (some a)) := by
  rcases WorkQueue.dequeue_cases room.queue with
    ⟨idle, h⟩ | ⟨runs, empty, h⟩ | ⟨a, rest, runs, items, h⟩
  · left
    exact ⟨idle, by simp only [look, h]⟩
  · right; left
    exact ⟨runs, empty, by simp only [look, h]⟩
  · right; right
    exact ⟨a, rest, runs, items, by simp only [look, h]⟩

/-- A look keeps the items attended. The consumer that looks is not counted among
    the woken, so one item more than there are woken consumers may wait before it. -/
theorem attended_look (room : WaitingRoom α)
    (hrun : room.queue.running = true → room.asleep = 0 ∨ room.queue.size ≤ room.woken + 1)
    (hstop : room.queue.running = false → room.asleep = 0) : Attended room.look.1 := by
  rcases look_cases room with ⟨idle, h⟩ | ⟨runs, empty, h⟩ | ⟨a, rest, runs, items, h⟩
  · rw [h]
    refine ⟨fun hr => ?_, hstop⟩
    exact absurd (idle.symm.trans hr) Bool.false_ne_true
  · -- One sleeper more, but nothing to take.
    rw [h]
    refine ⟨fun _ => Or.inr ?_, fun hs => ?_⟩
    · simp only [WorkQueue.size, empty, List.length_nil]
      omega
    · exact absurd (hs.symm.trans runs) Bool.false_ne_true
  · rw [h]
    refine ⟨fun _ => ?_, fun hs => ?_⟩
    · rcases hrun runs with hnone | hle
      · exact Or.inl hnone
      · right
        simp only [WorkQueue.size, items, List.length_cons] at hle ⊢
        omega
    · exact absurd (hs.symm.trans runs) Bool.false_ne_true

/-- Waking one sleeper makes up for an item that is brought. -/
theorem attended_wakeOne (room : WaitingRoom α) (a : α) (h : Attended room) :
    Attended (wakeOne { room with
      queue := { room.queue with items := room.queue.items ++ [a] } }) := by
  unfold wakeOne
  by_cases hnone : room.asleep = 0
  · rw [if_pos hnone]
    exact ⟨fun _ => Or.inl hnone, fun _ => hnone⟩
  · rw [if_neg hnone]
    refine ⟨fun hr => Or.inr ?_, fun hs => ?_⟩
    · rcases h.running hr with hz | hle
      · exact absurd hz hnone
      · simp only [WorkQueue.size, List.length_append, List.length_singleton] at hle ⊢
        omega
    · exact absurd (h.stopped hs) hnone

/-- Every step keeps the items attended. -/
theorem attended_of_effect (h : Effect room s room' answer) (hr : Attended room) :
    Attended room' := by
  cases h with
  | refused a => exact hr
  | accepted a => exact attended_wakeOne room a hr
  | entered =>
      refine attended_look room (fun hrun => ?_) hr.stopped
      rcases hr.running hrun with hz | hle
      · exact Or.inl hz
      · exact Or.inr (by omega)
  | rechecked woken =>
      -- The consumer that looks is one of the woken, so the bound was one higher.
      refine attended_look { room with woken := room.woken - 1 } (fun hrun => ?_) hr.stopped
      rcases hr.running hrun with hz | hle
      · exact Or.inl hz
      · right
        simp only []
        omega
  | stirred asleep =>
      refine ⟨fun hrun => ?_, fun hstop => absurd (hr.stopped hstop) asleep⟩
      rcases hr.running hrun with hz | hle
      · exact absurd hz asleep
      · right
        simp only []
        omega
  | interrupted => exact ⟨fun _ => Or.inl rfl, fun _ => rfl⟩
  | released => exact ⟨fun _ => Or.inr (Nat.zero_le _), hr.stopped⟩

/-- Looking changes nothing at a stopped queue, and the consumer leaves with
    nothing. -/
theorem look_of_stopped (room : WaitingRoom α) (hr : room.queue.running = false) :
    room.look = (room, .left none) := by
  rcases look_cases room with ⟨_, h⟩ | ⟨runs, _⟩ | ⟨_, _, runs, _⟩
  · exact h
  · exact absurd (hr.symm.trans runs) Bool.false_ne_true
  · exact absurd (hr.symm.trans runs) Bool.false_ne_true

/-- No step starts a stopped queue again. -/
theorem stopped_of_effect (h : Effect room s room' answer) (hr : room.queue.running = false) :
    room'.queue.running = false := by
  cases h with
  | refused a => exact hr
  | accepted a =>
      unfold wakeOne
      by_cases hnone : room.asleep = 0
      · rw [if_pos hnone]
        exact hr
      · rw [if_neg hnone]
        exact hr
  | entered =>
      rw [look_of_stopped room hr]
      exact hr
  | rechecked woken =>
      rw [look_of_stopped { room with woken := room.woken - 1 } hr]
      exact hr
  | stirred asleep => exact hr
  | interrupted => rfl
  | released => exact hr

theorem run_cons_eq_some (s : Step α) (rest : List (Step α)) (last : WaitingRoom α)
    (answers : List (Answer α)) (h : room.run (s :: rest) = some (last, answers)) :
    ∃ next answer others, Effect room s next answer ∧ next.run rest = some (last, others) := by
  simp only [run] at h
  rcases hstep : room.step s with _ | ⟨next, answer⟩
  · rw [hstep] at h
    exact absurd h (by simp only [reduceCtorEq, not_false_eq_true])
  · rw [hstep] at h
    simp only [Option.map_eq_some_iff, Prod.mk.injEq] at h
    rcases h with ⟨⟨final, others⟩, hrest, hlast, _⟩
    rw [← hlast]
    exact ⟨next, answer, others, effect_of_step hstep, hrest⟩

/-- The items are attended along every run, by induction along its steps. -/
theorem attended_run (steps : List (Step α)) :
    ∀ (room last : WaitingRoom α) (answers : List (Answer α)),
      room.run steps = some (last, answers) → Attended room → Attended last := by
  induction steps with
  | nil =>
      intro room last answers h hr
      simp only [run, Option.some.injEq, Prod.mk.injEq] at h
      rw [← h.1]
      exact hr
  | cons s rest ih =>
      intro room last answers h hr
      rcases run_cons_eq_some s rest last answers h with ⟨next, _, others, heff, hrest⟩
      exact ih next last others hrest (attended_of_effect heff hr)

/-- A queue that was stopped, before the run or by one of its steps, is stopped in
    the end. -/
theorem stopped_run (steps : List (Step α)) :
    ∀ (room last : WaitingRoom α) (answers : List (Answer α)),
      room.run steps = some (last, answers) →
      room.queue.running = false ∨ Step.interrupt ∈ steps → last.queue.running = false := by
  induction steps with
  | nil =>
      intro room last answers h hr
      simp only [run, Option.some.injEq, Prod.mk.injEq] at h
      rw [← h.1]
      rcases hr with hstop | hmem
      · exact hstop
      · exact absurd hmem List.not_mem_nil
  | cons s rest ih =>
      intro room last answers h hr
      rcases run_cons_eq_some s rest last answers h with ⟨next, _, others, heff, hrest⟩
      refine ih next last others hrest ?_
      rcases hr with hstop | hmem
      · exact Or.inl (stopped_of_effect heff hstop)
      · rcases List.mem_cons.mp hmem with heq | hlater
        · -- The step is the interrupt itself.
          rw [← heq] at heff
          cases heff with
          | interrupted => exact Or.inl rfl
        · exact Or.inr hlater

/-- No wakeup is lost, for any number of consumers and any order of steps. While the
    queue runs, either nobody sleeps or there are at least as many woken consumers
    as items, so an item never waits with only sleepers around it. After an
    interrupt nobody sleeps, and each consumer that looks leaves with nothing. -/
theorem no_lost_wakeup (depth : Nat) (steps : List (Step α)) (room : WaitingRoom α)
    (answers : List (Answer α)) (h : run { queue := .ofDepth depth } steps = some (room, answers)) :
    (room.queue.running = true →
      (room.asleep = 0 ∨ room.queue.size ≤ room.woken) ∧
        (0 < room.queue.size → 0 < room.asleep → 0 < room.woken)) ∧
    (Step.interrupt ∈ steps →
      room.queue.running = false ∧ room.asleep = 0 ∧
        (0 < room.woken →
          room.step .recheck = some ({ room with woken := room.woken - 1 }, .left none)) ∧
        room.step .enter = some (room, .left none)) := by
  have hstart : Attended ({ queue := .ofDepth depth } : WaitingRoom α) :=
    ⟨fun _ => Or.inl rfl, fun _ => rfl⟩
  have hatt := attended_run steps _ room answers h hstart
  refine ⟨fun hrun => ⟨hatt.running hrun, fun hitems hsleep => ?_⟩, fun hmem => ?_⟩
  · rcases hatt.running hrun with hz | hle
    · omega
    · omega
  · have hstop := stopped_run steps _ room answers h (Or.inr hmem)
    refine ⟨hstop, hatt.stopped hstop, fun hwoken => ?_, ?_⟩
    · simp only [step, if_neg (show room.woken ≠ 0 by omega)]
      rw [look_of_stopped { room with woken := room.woken - 1 } hstop]
    · simp only [step]
      rw [look_of_stopped room hstop]

/-- Two consumers sleep, an item wakes one of them, and a third consumer takes the
    item before that one looks again. -/
theorem no_lost_wakeup_overtaken :
    run { queue := .ofDepth 2 } [Step.enter, .enter, .enqueue 7, .enter, .interrupt] =
      some (⟨⟨[], false, 2⟩, 0, 2⟩, [.slept, .slept, .accepted, .left (some 7), .done]) ∧
    step (⟨⟨[], false, 2⟩, 0, 2⟩ : WaitingRoom Nat) .recheck =
      some (⟨⟨[], false, 2⟩, 0, 1⟩, .left none) := by
  have hrun : run { queue := .ofDepth 2 } [Step.enter, .enter, .enqueue 7, .enter, .interrupt] =
      some (⟨⟨[], false, 2⟩, 0, 2⟩, [.slept, .slept, .accepted, .left (some 7), .done]) := rfl
  have hmem : Step.interrupt ∈ [Step.enter, .enter, .enqueue 7, .enter, .interrupt] := by
    simp only [List.mem_cons, reduceCtorEq, false_or, true_or]
  exact ⟨hrun, ((no_lost_wakeup 2 _ _ _ hrun).2 hmem).2.2.1 (by decide)⟩

end WaitingRoom

end ControlPlane
