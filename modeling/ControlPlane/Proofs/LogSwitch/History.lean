import ControlPlane.Dump
import ControlPlane.LogSwitch
import ControlPlane.Proofs.LogFilter.Added

/-!
# What the Dump Switch Does

The switch stands where it was turned to last, and nothing else that happened to it matters.
The filter in force is that of the base directives, with one more rule if dumps are on. So
what it shows of other sources is what the base shows.

Dumps are another matter, since the base may speak of them too. Turned off, the switch brings
the base back as it is, and a base that shows dumps goes on showing them: one that names their
source, or gives its level to all sources. Turned on, it adds a rule for their source, and a
base with a rule for that source that also asks for fields outranks it. The switch does what
its position says exactly if the base does neither (`Switched.works`).

What a filter is asked about is either an event, or the source of dumps before there is an
event, since a dump is only put together if its source is shown at all. The statements hold
of both.

## Main definitions

* `LogSwitch.after`: The switch after it was turned several times.
* `LogSwitch.Switched`: What is shown after that.

## Theorems

* `after_concat`: Only the last position counts.
* `admits_dumps_iff`: When dumps are shown.
* `switched_of_calls`: What is shown, for all base directives and all positions.
-/

namespace ControlPlane

namespace LogSwitch

open LogFilter (Inquiry)
open Telemetry (Event Level Source)

variable {s : LogSwitch} {calls : List Bool} {q : Inquiry} {level : Level}

/-- The switch after it was turned to one position after the other. -/
def after (s : LogSwitch) (calls : List Bool) : LogSwitch :=
  calls.foldl (fun s dumps => (s.set dumps).1) s

/-- The filter of the base directives alone. -/
abbrev plain (s : LogSwitch) : LogFilter :=
  LogFilter.ofText s.directives

/-- What is shown after the switch was turned. -/
structure Switched (s : LogSwitch) : Prop where
  /-- The switch stands where it was turned to last. -/
  position : ∀ calls b, (s.after (calls ++ [b])).dumps = b
  /-- Neither where it stood first nor where it was turned to in between matters. -/
  last : ∀ calls calls' start b,
    (⟨s.directives, start⟩ : LogSwitch).after (calls' ++ [b]) = s.after (calls ++ [b])
  /-- Of the sources whose names do not begin with that of dumps, all is shown that the base
      directives alone show, and nothing else. -/
  others : ∀ calls b level q, (¬ ∃ rest, q.about = Source.dumps.name ++ rest) →
    (s.after (calls ++ [b])).filter.admits level q = s.plain.admits level q
  /-- Among them are all other sources of the program. -/
  events : ∀ calls b (e : Event), e.source ≠ .dumps →
    (s.after (calls ++ [b])).filter.shows e = s.plain.shows e
  /-- Dumps are shown if the base directives show them, or if the switch is on and no base
      directive asks for fields of theirs. -/
  dumps : ∀ calls b level q, q.about = Source.dumps.name →
    ((s.after (calls ++ [b])).filter.admits level q = true ↔
      s.plain.admits level q = true ∨ b = true ∧ ¬ s.plain.Narrowed Source.dumps.name q)
  /-- It is the same with the level up to which their source is shown. -/
  level : ∀ calls b (level : Level),
    level.verbosity ≤ ((s.after (calls ++ [b])).filter.threshold Source.dumps.name).verbosity ↔
      level.verbosity ≤ (s.plain.threshold Source.dumps.name).verbosity ∨
        b = true ∧ ¬ s.plain.Narrowed Source.dumps.name (.source Source.dumps.name)
  /-- So they are shown exactly while the switch is on if the base directives neither show them
      nor ask for fields of theirs, and with no other base directives. -/
  works : ∀ level q, q.about = Source.dumps.name →
    ((∀ calls b, (s.after (calls ++ [b])).filter.admits level q = b) ↔
      s.plain.admits level q = false ∧ ¬ s.plain.Narrowed Source.dumps.name q)

/-! ### Positions -/

theorem directives_after (s : LogSwitch) (calls : List Bool) :
    (s.after calls).directives = s.directives := by
  induction calls generalizing s with
  | nil => rfl
  | cons b rest ih => exact ih (s.set b).1

/-- Only the last position counts. -/
theorem after_concat (s : LogSwitch) (calls : List Bool) (b : Bool) :
    s.after (calls ++ [b]) = ⟨s.directives, b⟩ := by
  have hset : s.after (calls ++ [b]) = ((s.after calls).set b).1 := by
    rw [after, List.foldl_append]
    rfl
  rw [hset, set, directives_after]

/-! ### Sources -/

/-- No other source has a name that begins with that of dumps. -/
theorem apart_of_ne_dumps {source : Source} (h : source ≠ .dumps) :
    ¬ ∃ rest, source.name = Source.dumps.name ++ rest := by
  have hfirst : source.name.toList.head? = some 'r' := by
    cases source
    case dumps => exact absurd rfl h
    all_goals rfl
  rintro ⟨rest, hname⟩
  rw [hname, String.toList_append] at hfirst
  exact absurd (Option.some.inj hfirst) (by decide)

theorem admits_of_apart (b : Bool) (h : ¬ ∃ rest, q.about = Source.dumps.name ++ rest) :
    (compose s.directives b).admits level q = s.plain.admits level q := by
  cases b with
  | false => rfl
  | true => exact LogFilter.admits_add_of_apart h

/-- When dumps are shown. -/
theorem admits_dumps_iff (b : Bool) (h : q.about = Source.dumps.name) :
    (compose s.directives b).admits level q = true ↔
      s.plain.admits level q = true ∨ b = true ∧ ¬ s.plain.Narrowed Source.dumps.name q := by
  cases b with
  | false => exact ⟨Or.inl, fun hor => hor.resolve_right nofun⟩
  | true =>
      have hadded := LogFilter.admits_add_iff s.plain level q
      rw [h] at hadded
      exact hadded.trans (by rw [eq_self, true_and])

/-- What is shown after the switch was turned. -/
theorem switched_of_calls (s : LogSwitch) : Switched s := by
  constructor
  case position => exact fun calls b => by rw [after_concat]
  case last => exact fun calls calls' start b => by rw [after_concat, after_concat]
  case others =>
    intro calls b level q h
    rw [after_concat]
    exact admits_of_apart b h
  case events =>
    intro calls b e h
    rw [after_concat, LogFilter.shows_eq_admits, LogFilter.shows_eq_admits]
    exact admits_of_apart b (apart_of_ne_dumps h)
  case dumps =>
    intro calls b level q h
    rw [after_concat]
    exact admits_dumps_iff b h
  case level =>
    intro calls b level
    rw [after_concat, LogFilter.le_threshold_iff_admits, LogFilter.le_threshold_iff_admits]
    exact admits_dumps_iff b rfl
  case works =>
    intro level q h
    simp only [after_concat]
    constructor
    · intro hworks
      have hoff : s.plain.admits level q = false := hworks [] false
      refine ⟨hoff, ?_⟩
      rcases (admits_dumps_iff true h).mp (hworks [] true) with hbase | ⟨_, hfree⟩
      · rw [hoff] at hbase
        cases hbase
      · exact hfree
    · rintro ⟨hbase, hfree⟩ _ b
      cases b with
      | false => exact hbase
      | true => exact (admits_dumps_iff true h).mpr (Or.inr ⟨rfl, hfree⟩)

-- The rule for dumps is outranked by one that asks for a field of theirs.
example : (⟨"httptrace[{status}]=off", true⟩ : LogSwitch).filter.threshold "httptrace" = none := by
  decide +kernel

/-- A switch whose base directives show dumps by themselves. -/
def dumping : LogSwitch :=
  ⟨"httptrace=trace", true⟩

/-- A request whose body should not be in the log. -/
def secretive : Telemetry.Observation :=
  Dump.request ⟨⟨.v4 0x7F000001, 4000, 0⟩, .post, "/", []⟩ "secret".toUTF8

/-- The switch is off, and still the whole request is in the log. -/
theorem shown_switched_off :
    (dumping.after [false]).dumps = false ∧
      (dumping.after [false]).filter.admits .trace (.source Source.dumps.name) = true ∧
      ((dumping.after [false]).shown [secretive]).length = 1 := by
  decide +kernel

end LogSwitch

end ControlPlane
