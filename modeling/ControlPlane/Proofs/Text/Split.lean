import ControlPlane.Text.Split

/-!
# Where a Text Is Cut

Which parts a cut at one separator gives. The parts and the separator make up the text, and
the separator is not in the part that the cut had to pass: the one before the first separator,
and the one after the last. This describes the cuts in full, so nothing that is said of a
notation needs to open them.

## Theorems

* `splitFirst_append`, `splitLast_append`: The separator is found.
* `splitFirst_eq_some_iff`, `splitLast_eq_some_iff`: What the parts are.
* `splitLast_eq_none_iff`: Which texts are not cut.
* `dropFront?_eq_some_iff`: What follows a given beginning.
-/

namespace ControlPlane

namespace Text

variable {separator : Char} {cs front back : List Char}

/-! ### The first separator -/

/-- A text without the separator is not cut. -/
theorem splitFirst_of_not_mem (h : separator ∉ cs) : splitFirst separator cs = none := by
  induction cs with
  | nil => rfl
  | cons c rest ih =>
      rw [List.mem_cons, not_or] at h
      have hother : c ≠ separator := fun heq => h.1 heq.symm
      simp only [splitFirst, if_neg hother, ih h.2, Option.map_none]

/-- The first separator is found after a text without one. -/
theorem splitFirst_append (h : separator ∉ front) (back : List Char) :
    splitFirst separator (front ++ separator :: back) = some (front, back) := by
  induction front with
  | nil => simp only [List.nil_append, splitFirst, if_true]
  | cons c rest ih =>
      rw [List.mem_cons, not_or] at h
      have hother : c ≠ separator := fun heq => h.1 heq.symm
      simp only [List.cons_append, splitFirst, if_neg hother, ih h.2, Option.map_some]

theorem splitFirst_eq_some_iff :
    splitFirst separator cs = some (front, back) ↔
      cs = front ++ separator :: back ∧ separator ∉ front := by
  constructor
  · intro h
    by_cases hmem : separator ∈ cs
    · -- There is a first one, and the cut is known there.
      rcases List.eq_append_cons_of_mem hmem with ⟨before, after, hcs, hbefore⟩
      rw [hcs, splitFirst_append hbefore] at h
      cases h
      exact ⟨hcs, hbefore⟩
    · rw [splitFirst_of_not_mem hmem] at h
      cases h
  · intro h
    rw [h.1]
    exact splitFirst_append h.2 back

/-! ### The last separator -/

/-- A text with the separator has a last one, the first from behind. -/
theorem exists_last (h : separator ∈ cs) :
    ∃ front back, cs = front ++ separator :: back ∧ separator ∉ back := by
  rcases List.eq_append_cons_of_mem (List.mem_reverse.mpr h) with ⟨before, after, hcs, hbefore⟩
  refine ⟨after.reverse, before.reverse, ?_, fun hmem => hbefore (List.mem_reverse.mp hmem)⟩
  rw [← List.reverse_reverse cs, hcs, List.reverse_append, List.reverse_cons, List.append_assoc]
  rfl

/-- A text without the separator is not cut. -/
theorem splitLast_of_not_mem (h : separator ∉ cs) : splitLast separator cs = none := by
  induction cs with
  | nil => rfl
  | cons c rest ih =>
      rw [List.mem_cons, not_or] at h
      have hother : c ≠ separator := fun heq => h.1 heq.symm
      simp only [splitLast, ih h.2, if_neg hother]

/-- The last separator is found before a text without one. -/
theorem splitLast_append (front : List Char) (h : separator ∉ back) :
    splitLast separator (front ++ separator :: back) = some (front, back) := by
  induction front with
  | nil => simp only [List.nil_append, splitLast, splitLast_of_not_mem h, if_true]
  | cons c rest ih => simp only [List.cons_append, splitLast, ih]

theorem splitLast_eq_none_iff : splitLast separator cs = none ↔ separator ∉ cs := by
  constructor
  · intro h hmem
    rcases exists_last hmem with ⟨before, after, hcs, hafter⟩
    rw [hcs, splitLast_append before hafter] at h
    cases h
  · exact splitLast_of_not_mem

theorem splitLast_eq_some_iff :
    splitLast separator cs = some (front, back) ↔
      cs = front ++ separator :: back ∧ separator ∉ back := by
  constructor
  · intro h
    by_cases hmem : separator ∈ cs
    · rcases exists_last hmem with ⟨before, after, hcs, hafter⟩
      rw [hcs, splitLast_append before hafter] at h
      cases h
      exact ⟨hcs, hafter⟩
    · rw [splitLast_of_not_mem hmem] at h
      cases h
  · intro h
    rw [h.1]
    exact splitLast_append front h.2

/-! ### A given beginning -/

theorem dropFront?_eq_some_iff (front rest : List Char) :
    ∀ cs : List Char, dropFront? front cs = some rest ↔ cs = front ++ rest := by
  induction front with
  | nil => exact fun cs => Option.some_inj
  | cons f front ih =>
      intro cs
      cases cs with
      | nil => simp only [dropFront?, reduceCtorEq, List.cons_append]
      | cons c cs =>
          by_cases hfirst : f = c
          · simp only [dropFront?, hfirst, if_true, ih, List.cons_append, List.cons.injEq,
              true_and]
          · simp only [dropFront?, if_neg hfirst, reduceCtorEq, List.cons_append,
              List.cons.injEq, Ne.symm hfirst, false_and]

end Text

end ControlPlane
