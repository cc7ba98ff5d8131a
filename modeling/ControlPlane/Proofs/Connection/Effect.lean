import ControlPlane.Connection
import Mathlib.Data.List.Induction

/-!
# Effects on a Connection Tracker

What one step can do to a tracker, said once, with what the step found before it (`Effect`).
Connections, drops and waiters take their steps in any order, so a run is any list of steps, and
one that cannot be taken where it stands is passed over. Whatever holds along all runs is a case
analysis on the effects, and `run_concat_cases` is the induction over runs that all of them share.

Two facts need no more than that. The count is the number of guards held, so no drop makes it
negative; and the numbers of connections only go up, so no two connections have the same one. The
numbers are read off the run (`numbers`), so this is also true of connections that have ended.

## Main definitions

* `Effect`: What a step does to a tracker and what it tells.
* `numbers`: The numbers that the connections of a run were given.

## Theorems

* `effect_of_step`: Every step that can be taken has one of the effects.
* `run_concat_cases`: What the last step of a run comes to.
* `active_eq_length_run`: The count is the number of guards.
* `numbers_pairwise_run`: The numbers of connections go up.
* `guards_sublist_run`: Every guard held belongs to one of the connections.
-/

namespace ControlPlane

namespace Tracker

open Telemetry (Observation)

variable {t t' : Tracker} {s : Step} {told : List Observation}

/-- What a step does to a tracker and what it tells. -/
inductive Effect (t : Tracker) : Step → Tracker → List Observation → Prop
  | tracked :
      Effect t .track
        { t with active := t.active + 1, next := t.next + 1, guards := t.guards ++ [t.next] }
        [.set .activeConnections (t.active + 1)]
  | numbered : Effect t .number { t with next := t.next + 1 } []
  | left (number : Nat) (held : number ∈ t.guards) :
      Effect t (.leave number)
        { t with
          active := t.active - 1
          guards := t.guards.erase number
          leaving := t.leaving ++ [⟨number, t.active - 1, false⟩] } []
  | reported (l : Leaving) (mem : l ∈ t.leaving) :
      Effect t (.report l.number)
        { t with
          leaving := t.leaving.map fun other =>
            if other = l then { l with shown := true } else other }
        [.set .activeConnections l.remaining]
  | finished (l : Leaving) (mem : l ∈ t.leaving) (shown : l.shown = true) :
      Effect t (.finish l.number)
        { t with
          leaving := t.leaving.erase l
          wakeups := if l.remaining = 0 then t.wakeups + 1 else t.wakeups }
        [closedEvent l.number]
  | joined : Effect t .join { t with waiters := t.waiters ++ [.starting] } []
  | noted (w : Nat) (starts : t.waiters[w]? = some .starting) :
      Effect t (.note w) { t with waiters := t.waiters.set w (.noted t.wakeups) } []
  | drained (w seen : Nat) (reads : t.waiters[w]? = some (.noted seen)) (none : t.active = 0) :
      Effect t (.read w) { t with waiters := t.waiters.set w .drained } []
  | slept (w seen : Nat) (reads : t.waiters[w]? = some (.noted seen)) (some : t.active ≠ 0) :
      Effect t (.read w) { t with waiters := t.waiters.set w (.sleeping seen) } []
  | woken (w seen : Nat) (sleeps : t.waiters[w]? = some (.sleeping seen))
      (since : t.wakeups ≠ seen) :
      Effect t (.wake w) { t with waiters := t.waiters.set w .starting } []

/-- Every step that can be taken has one of the effects. -/
theorem effect_of_step (h : t.step s = some (t', told)) : Effect t s t' told := by
  cases s with
  | track =>
      cases h
      exact .tracked
  | number =>
      cases h
      exact .numbered
  | leave number =>
      rw [step] at h
      split at h
      case isTrue held =>
          cases h
          exact .left number held
      case isFalse => cases h
  | report number =>
      rw [step] at h
      split at h
      case h_1 => cases h
      case h_2 l hfind =>
          cases h
          have hl := List.find?_some hfind
          rw [decide_eq_true_eq] at hl
          rw [← hl.1]
          exact .reported l (List.mem_of_find?_eq_some hfind)
  | finish number =>
      rw [step] at h
      split at h
      case h_1 => cases h
      case h_2 l hfind =>
          cases h
          have hl := List.find?_some hfind
          rw [decide_eq_true_eq] at hl
          rw [← hl.1]
          exact .finished l (List.mem_of_find?_eq_some hfind) hl.2
  | join =>
      cases h
      exact .joined
  | note w =>
      rw [step] at h
      split at h
      case h_1 starts =>
          cases h
          exact .noted w starts
      case h_2 => cases h
  | read w =>
      rw [step] at h
      split at h
      case h_1 seen reads =>
          cases h
          by_cases hnone : t.active = 0
          · rw [if_pos hnone]
            exact .drained w seen reads hnone
          · rw [if_neg hnone]
            exact .slept w seen reads hnone
      case h_2 => cases h
  | wake w =>
      rw [step] at h
      split at h
      case h_1 seen sleeps =>
          by_cases hsame : t.wakeups = seen
          · rw [if_pos hsame] at h
            cases h
          · rw [if_neg hsame] at h
            cases h
            exact .woken w seen sleeps hsame
      case h_2 => cases h

/-! ### Runs -/

theorem run_append (first others : List Step) :
    ∀ t : Tracker, t.run (first ++ others) =
      (((t.run first).1.run others).1, (t.run first).2 ++ ((t.run first).1.run others).2) := by
  induction first with
  | nil =>
      intro t
      rfl
  | cons s rest ih =>
      intro t
      rw [List.cons_append, run, run]
      cases hstep : t.step s with
      | none => exact ih t
      | some next => simp only [ih, List.append_assoc]

/-- What the last step of a run comes to: it cannot be taken, and nothing changes, or it has
    one of the effects. -/
theorem run_concat_cases (t : Tracker) (before : List Step) (s : Step) :
    ((t.run before).1.step s = none ∧ t.run (before ++ [s]) = t.run before) ∨
      ∃ t' told, Effect (t.run before).1 s t' told ∧
        (t.run before).1.step s = some (t', told) ∧
        t.run (before ++ [s]) = (t', (t.run before).2 ++ told) := by
  rw [run_append]
  cases hstep : (t.run before).1.step s with
  | none =>
      left
      refine ⟨rfl, ?_⟩
      simp only [run, hstep, List.append_nil]
  | some next =>
      right
      refine ⟨next.1, next.2, effect_of_step hstep, rfl, ?_⟩
      simp only [run, hstep, List.append_nil]

/-! ### The count -/

/-- A step keeps the count the number of guards held. -/
theorem active_eq_length_of_effect (h : Effect t s t' told) (ht : t.active = t.guards.length) :
    t'.active = t'.guards.length := by
  cases h with
  | tracked => simp only [ht, List.length_append, List.length_singleton]
  | left number held => simp only [ht, List.length_erase_of_mem held]
  | numbered => exact ht
  | reported l mem => exact ht
  | finished l mem shown => exact ht
  | joined => exact ht
  | noted w starts => exact ht
  | drained w seen reads none => exact ht
  | slept w seen reads some => exact ht
  | woken w seen sleeps since => exact ht

/-- The count is the number of guards held, by induction along the run. -/
theorem active_eq_length_run (ht : t.active = t.guards.length) (steps : List Step) :
    (t.run steps).1.active = (t.run steps).1.guards.length := by
  induction steps using List.reverseRecOn with
  | nil => exact ht
  | append_singleton before s ih =>
      rcases run_concat_cases t before s with ⟨_, hrun⟩ | ⟨next, told, heff, _, hrun⟩
      · rw [hrun]
        exact ih
      · rw [hrun]
        exact active_eq_length_of_effect heff ih

/-- A guard can only be dropped from a count above zero. -/
theorem active_pos_of_leave {number : Nat} (ht : t.active = t.guards.length)
    (h : (t.step (.leave number)).isSome) : 0 < t.active := by
  rcases Option.isSome_iff_exists.mp h with ⟨⟨next, told⟩, hstep⟩
  cases effect_of_step hstep with
  | left number held =>
      rw [ht]
      exact List.length_pos_of_mem held

/-! ### The numbers -/

/-- The numbers that the connections of a run were given, in order. -/
def numbers (t : Tracker) : List Step → List Nat
  | [] => []
  | s :: rest => (if s = .track then [t.next] else []) ++ numbers (t.run [s]).1 rest

theorem numbers_concat (before : List Step) (s : Step) :
    ∀ t : Tracker, t.numbers (before ++ [s]) =
      t.numbers before ++ if s = .track then [(t.run before).1.next] else [] := by
  induction before with
  | nil =>
      intro t
      exact List.append_nil _
  | cons first rest ih =>
      intro t
      have hrun : (t.run (first :: rest)).1 = ((t.run [first]).1.run rest).1 := by
        rw [← List.singleton_append, run_append]
      simp only [List.cons_append, numbers, ih, hrun, List.append_assoc]

/-- A number that is given out is never reached again. -/
theorem next_of_effect (h : Effect t s t' told) :
    t.next ≤ t'.next ∧ (s = .track → t'.next = t.next + 1) := by
  cases h with
  | tracked => exact ⟨Nat.le_succ _, fun _ => rfl⟩
  | numbered => exact ⟨Nat.le_succ _, nofun⟩
  | _ => exact ⟨Nat.le_refl _, nofun⟩

/-- The numbers of a run lie between what the first connection gets and what the next one
    would get. -/
theorem numbers_bounds_run (t : Tracker) (steps : List Step) :
    t.next ≤ (t.run steps).1.next ∧
      ∀ k ∈ t.numbers steps, t.next ≤ k ∧ k < (t.run steps).1.next := by
  induction steps using List.reverseRecOn with
  | nil => exact ⟨Nat.le_refl _, nofun⟩
  | append_singleton before s ih =>
      rcases ih with ⟨hle, hbounds⟩
      rw [numbers_concat]
      rcases run_concat_cases t before s with ⟨hnone, hrun⟩ | ⟨next, told, heff, _, hrun⟩
      · have hother : s ≠ .track := by
          intro heq
          rw [heq] at hnone
          cases hnone
        rw [hrun, if_neg hother, List.append_nil]
        exact ⟨hle, hbounds⟩
      · rw [hrun]
        rcases next_of_effect heff with ⟨hup, htrack⟩
        refine ⟨Nat.le_trans hle hup, fun k hk => ?_⟩
        rcases List.mem_append.mp hk with hearlier | hnew
        · have hk := hbounds k hearlier
          exact ⟨hk.1, Nat.lt_of_lt_of_le hk.2 hup⟩
        · split at hnew
          case isTrue heq =>
              rw [List.mem_singleton] at hnew
              simp only [htrack heq]
              omega
          case isFalse => cases hnew

/-- The numbers of a run go up. -/
theorem numbers_pairwise_run (t : Tracker) (steps : List Step) :
    (t.numbers steps).Pairwise (· < ·) := by
  induction steps using List.reverseRecOn with
  | nil => exact .nil
  | append_singleton before s ih =>
      rw [numbers_concat, List.pairwise_append]
      refine ⟨ih, ?_, fun k hk other hother => ?_⟩
      · split
        · exact List.pairwise_singleton _ _
        · exact .nil
      · split at hother
        case isTrue =>
            rw [List.mem_singleton] at hother
            rw [hother]
            exact ((numbers_bounds_run t before).2 k hk).2
        case isFalse => cases hother

/-- Every guard held was there in the beginning or belongs to a connection of the run. -/
theorem guards_sublist_run (t : Tracker) (steps : List Step) :
    (t.run steps).1.guards.Sublist (t.guards ++ t.numbers steps) := by
  induction steps using List.reverseRecOn with
  | nil =>
      rw [numbers, List.append_nil]
      exact List.Sublist.refl _
  | append_singleton before s ih =>
      rw [numbers_concat, ← List.append_assoc]
      have hmore : ∀ extra, ((t.run before).1.guards).Sublist
          (t.guards ++ t.numbers before ++ extra) :=
        fun extra => ih.trans (List.sublist_append_left _ _)
      rcases run_concat_cases t before s with ⟨_, hrun⟩ | ⟨next, told, heff, _, hrun⟩
      · rw [hrun]
        exact hmore _
      · rw [hrun]
        cases heff with
        | tracked => exact List.Sublist.append ih (List.Sublist.refl _)
        | left number held => exact List.erase_sublist.trans (hmore _)
        | _ => exact hmore _

end Tracker

end ControlPlane
