import ControlPlane.LogFilter
import ControlPlane.Proofs.Text.Split

/-!
# One More Rule

What a filter answers after a rule for a whole source was added to it. Of the rules that
concern an inquiry the most specific one decides. So the new rule decides about its source
unless the filter has a rule for the same source that also asks for fields, and about a source
whose name does not begin with that of the rule it says nothing.

Which rule decides is not looked for here. The rules that concern an inquiry are parted into
upper ones and lower ones, such that each upper rule outranks each lower one and none the
other way round; then the lower ones do not count (`deciding?_filter`). With a rule that asks
for fields of the source, such rules are the upper ones, and neither the new rule nor one that
it replaced is among them. Without such a rule, the new one is the upper one by itself.

## Main definitions

* `LogFilter.Inquiry`: What a filter is asked about.
* `LogFilter.admits`: What it answers.
* `LogRule.whole`: The rule for a whole source.
* `LogFilter.Narrowed`: A rule of the filter asks for fields of a source.

## Theorems

* `shows_eq_admits`, `le_threshold_iff_admits`: Both ways of asking a filter are inquiries.
* `deciding?_filter`: Lower rules do not count.
* `admits_add_of_apart`: The new rule says nothing about other sources.
* `admits_add_iff`: What the filter answers about the source of the new rule.
-/

namespace ControlPlane

open Telemetry (Event Level)

variable {source : String} {t : Threshold} {level : Level}

namespace LogFilter

/-- What a filter is asked about. -/
inductive Inquiry where
  /-- An event of a source, with the names of its fields. -/
  | event (source : String) (fields : List String)
  /-- A source by itself, before anything is known about the event. -/
  | source (name : String)

/-- The source that an inquiry is about. -/
def Inquiry.about : Inquiry → String
  | .event source _ => source
  | .source name => name

end LogFilter

open LogFilter (Inquiry)

variable {q : Inquiry}

namespace LogRule

variable {r other : LogRule}

/-- The rule concerns what is asked about. Fields do not count before there is an event. -/
def covers (q : Inquiry) (r : LogRule) : Bool :=
  r.concerns q.about && match q with
    | .event _ fields => r.fields.all fields.contains
    | .source _ => true

/-- The rule that gives a threshold to a whole source. -/
def whole (source : String) (t : Threshold) : LogRule :=
  ⟨some source, [], t⟩

/-- The rule is for just this source, and for events with certain fields. -/
def isNarrow (source : String) (r : LogRule) : Bool :=
  r.target = some source && !r.fields.isEmpty

/-! ### Which sources a rule concerns -/

theorem concerns_some_iff {target : String} (h : r.target = some target) :
    r.concerns source = true ↔ ∃ rest, source = target ++ rest := by
  simp only [concerns, h, Option.isSome_iff_exists, Text.dropFront?_eq_some_iff]
  constructor
  · rintro ⟨rest, hsource⟩
    exact ⟨String.ofList rest, by
      rw [← String.toList_inj, hsource, String.toList_append, String.toList_ofList]⟩
  · rintro ⟨rest, hsource⟩
    exact ⟨rest.toList, by rw [hsource, String.toList_append]⟩

theorem concerns_of_covers (h : r.covers q = true) : r.concerns q.about = true :=
  (Bool.and_eq_true_iff.mp h).1

/-- A rule without fields concerns every event of its sources. -/
theorem covers_whole : (whole q.about t).covers q = true := by
  have hconcerns : (whole q.about t).concerns q.about = true :=
    (concerns_some_iff rfl).mpr ⟨"", by rw [String.append_empty]⟩
  unfold covers
  rw [hconcerns]
  cases q <;> rfl

/-- Only the source's own name makes a rule as specific as it can be. -/
theorem targetLength_lt (h : r.concerns source = true) (hother : r.target ≠ some source) :
    r.targetLength < source.utf8ByteSize + 1 := by
  cases htarget : r.target with
  | none => simp only [targetLength, htarget, Nat.zero_lt_succ]
  | some target =>
      rcases (concerns_some_iff htarget).mp h with ⟨rest, hsource⟩
      have hrest : rest.utf8ByteSize ≠ 0 := by
        rw [ne_eq, String.utf8ByteSize_eq_zero_iff]
        intro hempty
        rw [hempty, String.append_empty] at hsource
        exact hother (by rw [htarget, hsource])
      simp only [targetLength, htarget, hsource, String.utf8ByteSize_append]
      omega

/-! ### Ranks -/

theorem outranks_of_targetLength_lt (h : other.targetLength < r.targetLength) :
    r.outranks other = true ∧ other.outranks r = false := by
  constructor
  · rw [outranks, if_pos (by omega)]
    exact decide_eq_true h
  · rw [outranks, if_pos (by omega)]
    exact decide_eq_false (by omega)

theorem outranks_of_fields_lt (htarget : r.target = other.target)
    (h : other.fields.length < r.fields.length) :
    r.outranks other = true ∧ other.outranks r = false := by
  have hlength : r.targetLength = other.targetLength := by
    rw [targetLength, targetLength, htarget]
  constructor
  · rw [outranks, if_neg (by omega), if_pos (by omega)]
    exact decide_eq_true h
  · rw [outranks, if_neg (by omega), if_pos (by omega)]
    exact decide_eq_false (by omega)

/-- A rule for just this source outranks the rules for other sources as well. -/
theorem outranks_of_target (h : r.target = some source) (hconcerns : other.concerns source = true)
    (hother : other.target ≠ some source) :
    r.outranks other = true ∧ other.outranks r = false := by
  apply outranks_of_targetLength_lt
  simp only [targetLength, h]
  exact targetLength_lt hconcerns hother

/-- A rule that asks for fields of the source outranks all that do not. -/
theorem outranks_of_isNarrow (h : r.isNarrow source = true)
    (hconcerns : other.concerns source = true) (hother : other.isNarrow source = false) :
    r.outranks other = true ∧ other.outranks r = false := by
  simp only [isNarrow, Bool.and_eq_true, decide_eq_true_eq, Bool.not_eq_true',
    List.isEmpty_eq_false_iff] at h
  by_cases htarget : other.target = some source
  · -- Both are for the source alone, and only one of them has fields.
    simp only [isNarrow, htarget, decide_true, Bool.true_and, Bool.not_eq_false',
      List.isEmpty_iff] at hother
    apply outranks_of_fields_lt (h.1.trans htarget.symm)
    rw [hother, List.length_nil]
    exact List.length_pos_iff.mpr h.2
  · exact outranks_of_target h.1 hconcerns htarget

theorem sameScope_whole_iff :
    (whole source t).sameScope r = true ↔ r.target = some source ∧ r.fields = [] := by
  rw [sameScope, Bool.and_eq_true, decide_eq_true_eq, decide_eq_true_eq]
  exact ⟨fun h => ⟨h.1.symm, h.2.symm⟩, fun h => ⟨h.1.symm, h.2.symm⟩⟩

end LogRule

namespace LogFilter

variable {f : LogFilter} {rules : List LogRule} {upper : LogRule → Bool}

/-- What a filter answers: there is a rule that decides, and it shows as much. -/
def admits (f : LogFilter) (level : Level) (q : Inquiry) : Bool :=
  match deciding? (f.rules.filter fun r => r.covers q) with
  | none => false
  | some r => level.verbosity ≤ r.threshold.verbosity

/-- A rule of the filter asks for fields of a source, and the event has them. -/
def Narrowed (f : LogFilter) (source : String) (q : Inquiry) : Prop :=
  ∃ r ∈ f.rules, r.isNarrow source = true ∧ r.covers q = true

/-! ### The two ways of asking -/

theorem shows_eq_admits (f : LogFilter) (e : Event) :
    f.shows e = f.admits e.level (.event e.source.name ("message" :: e.fields.map Prod.fst)) :=
  rfl

theorem le_threshold_iff_admits (f : LogFilter) (source : String) (level : Level) :
    level.verbosity ≤ (f.threshold source).verbosity ↔ f.admits level (.source source) = true := by
  have hsame : (f.rules.filter fun r => r.covers (.source source)) =
      f.rules.filter fun r => r.concerns source :=
    List.filter_congr fun r _ => Bool.and_true _
  rw [threshold, admits, hsame]
  cases deciding? (f.rules.filter fun r => r.concerns source) with
  | none =>
      have hpos : 0 < level.verbosity := by cases level <;> decide
      exact ⟨fun h => absurd hpos (Nat.not_lt.mpr h), nofun⟩
  | some r => exact decide_eq_true_iff.symm

/-! ### The rule that decides -/

theorem mem_of_deciding? {best : LogRule} (h : deciding? rules = some best) : best ∈ rules := by
  induction rules generalizing best with
  | nil => cases h
  | cons r rest ih =>
      unfold deciding? at h
      split at h
      case h_1 => exact List.mem_cons.mpr (.inl (Option.some.inj h).symm)
      case h_2 found hrest =>
        split at h
        case isTrue => exact List.mem_cons_of_mem r (ih (h ▸ hrest))
        case isFalse => exact List.mem_cons.mpr (.inl (Option.some.inj h).symm)

theorem exists_deciding? (h : rules ≠ []) : ∃ best, deciding? rules = some best := by
  cases rules with
  | nil => exact absurd rfl h
  | cons r rest =>
      unfold deciding?
      split
      · exact ⟨r, rfl⟩
      · split
        · exact ⟨_, rfl⟩
        · exact ⟨r, rfl⟩

/-- Each upper rule outranks each lower one, and none the other way round. -/
def Parted (upper : LogRule → Bool) (rules : List LogRule) : Prop :=
  ∀ r ∈ rules, ∀ other ∈ rules, upper r = true → upper other = false →
    r.outranks other = true ∧ other.outranks r = false

/-- If there is an upper rule, the lower ones do not count. -/
theorem deciding?_filter (hparted : Parted upper rules) (hsome : ∃ r ∈ rules, upper r = true) :
    deciding? (rules.filter upper) = deciding? rules := by
  induction rules with
  | nil =>
      rcases hsome with ⟨r, hmem, _⟩
      exact absurd hmem List.not_mem_nil
  | cons r rest ih =>
      have hrest : Parted upper rest := fun s hs other hother =>
        hparted s (List.mem_cons_of_mem r hs) other (List.mem_cons_of_mem r hother)
      by_cases hlater : ∃ s ∈ rest, upper s = true
      · have hsame := ih hrest hlater
        by_cases hr : upper r = true
        · rw [List.filter_cons_of_pos hr, deciding?, deciding?, hsame]
        · -- The best of the later rules is an upper one, and stays.
          rw [List.filter_cons_of_neg hr, hsame]
          rcases hlater with ⟨s, hs, hupper⟩
          rcases exists_deciding? (List.ne_nil_of_mem (List.mem_filter.mpr ⟨hs, hupper⟩)) with
            ⟨best, hbest⟩
          rcases List.mem_filter.mp (mem_of_deciding? hbest) with ⟨hmem, htop⟩
          have hranks := hparted best (List.mem_cons_of_mem r hmem) r List.mem_cons_self htop
            (Bool.eq_false_iff.mpr hr)
          rw [hsame] at hbest
          simp only [deciding?, hbest, hranks.1, if_true]
      · -- Only the first rule is an upper one, and no later one outranks it.
        have hlower : ∀ s ∈ rest, upper s = false := fun s hs =>
          Bool.eq_false_iff.mpr fun h => hlater ⟨s, hs, h⟩
        have hr : upper r = true := by
          rcases hsome with ⟨s, hs, hupper⟩
          rcases List.mem_cons.mp hs with heq | hs
          · rwa [← heq]
          · exact absurd ⟨s, hs, hupper⟩ hlater
        have hnone : rest.filter upper = [] :=
          List.filter_eq_nil_iff.mpr fun s hs => by rw [hlower s hs]; exact Bool.false_ne_true
        rw [List.filter_cons_of_pos hr, hnone]
        cases hbest : deciding? rest with
        | none => simp only [deciding?, hbest]
        | some best =>
            have hmem := mem_of_deciding? hbest
            have hranks := hparted r List.mem_cons_self best (List.mem_cons_of_mem r hmem) hr
              (hlower best hmem)
            simp only [deciding?, hbest, hranks.2, Bool.false_eq_true, if_false]

/-! ### What the new rule changes -/

/-- Nothing is added to or taken from the rules that are not for all events of the source. -/
theorem filter_add {keep : LogRule → Bool}
    (h : ∀ r : LogRule, r.target = some source → r.fields = [] → keep r = false) :
    (f.add (.whole source t)).rules.filter keep = f.rules.filter keep := by
  have hnew : ¬ keep (.whole source t) = true := by
    rw [h _ rfl rfl]
    exact Bool.false_ne_true
  rw [add, List.filter_append, List.filter_cons_of_neg hnew, List.filter_nil, List.append_nil,
    List.filter_filter]
  refine List.filter_congr fun r _ => ?_
  by_cases hscope : (LogRule.whole source t).sameScope r = true
  · rcases LogRule.sameScope_whole_iff.mp hscope with ⟨htarget, hfields⟩
    rw [h r htarget hfields, Bool.false_and]
  · rw [Bool.eq_false_iff.mpr hscope, Bool.not_false, Bool.and_true]

/-- The new rule says nothing about sources whose names do not begin with that of its own. -/
theorem admits_add_of_apart (h : ¬ ∃ rest, q.about = source ++ rest) :
    (f.add (.whole source t)).admits level q = f.admits level q := by
  have hrules : ((f.add (.whole source t)).rules.filter fun r => r.covers q) =
      f.rules.filter fun r => r.covers q := by
    refine filter_add fun r htarget _ => Bool.eq_false_iff.mpr fun hcovers => h ?_
    exact (LogRule.concerns_some_iff htarget).mp (LogRule.concerns_of_covers hcovers)
  rw [admits, admits, hrules]

/-- With rules that ask for fields of the source, only they count. -/
theorem deciding?_of_narrowed (h : f.Narrowed q.about q) :
    deciding? (f.rules.filter fun r => r.isNarrow q.about && r.covers q) =
      deciding? (f.rules.filter fun r => r.covers q) := by
  rcases h with ⟨r, hmem, hnarrow, hcovers⟩
  rw [← List.filter_filter]
  refine deciding?_filter ?_ ⟨r, List.mem_filter.mpr ⟨hmem, hcovers⟩, hnarrow⟩
  intro s _ other hother hs
  exact LogRule.outranks_of_isNarrow hs
    (LogRule.concerns_of_covers (List.mem_filter.mp hother).2)

theorem narrowed_add_iff : (f.add (.whole source t)).Narrowed source q ↔ f.Narrowed source q := by
  have hrules : (f.add (.whole source t)).rules.filter (LogRule.isNarrow source) =
      f.rules.filter (LogRule.isNarrow source) := by
    refine filter_add fun r _ hfields => ?_
    rw [LogRule.isNarrow, hfields, List.isEmpty_nil, Bool.not_true, Bool.and_false]
  have hnarrow : ∀ f : LogFilter, f.Narrowed source q ↔
      ∃ r ∈ f.rules.filter (LogRule.isNarrow source), r.covers q = true := by
    intro f
    simp only [Narrowed, List.mem_filter, and_assoc]
  rw [hnarrow, hnarrow, hrules]

/-- Rules that ask for fields of the source decide about it as before. -/
theorem admits_add_of_narrowed (h : f.Narrowed q.about q) :
    (f.add (.whole q.about t)).admits level q = f.admits level q := by
  rw [admits, admits, ← deciding?_of_narrowed h, ← deciding?_of_narrowed (narrowed_add_iff.mpr h),
    filter_add]
  intro r _ hfields
  rw [LogRule.isNarrow, hfields, List.isEmpty_nil, Bool.not_true, Bool.and_false, Bool.false_and]

/-- Without such rules, the new rule outranks all others. -/
theorem parted_add (h : ¬ f.Narrowed q.about q) :
    Parted (· = .whole q.about t)
      ((f.add (.whole q.about t)).rules.filter fun r => r.covers q) := by
  intro r _ other hother hr hne
  rw [of_decide_eq_true hr]
  rcases List.mem_filter.mp hother with ⟨hmem, hcovers⟩
  rcases List.mem_append.mp hmem with hold | hnew
  · rcases List.mem_filter.mp hold with ⟨hbefore, hscope⟩
    refine LogRule.outranks_of_target rfl (LogRule.concerns_of_covers hcovers) fun htarget => ?_
    -- A rule for the source was replaced unless it has fields.
    by_cases hfields : other.fields = []
    · rw [LogRule.sameScope_whole_iff.mpr ⟨htarget, hfields⟩] at hscope
      cases hscope
    · refine h ⟨other, hbefore, ?_, hcovers⟩
      rw [LogRule.isNarrow, htarget, decide_eq_true rfl, Bool.true_and, Bool.not_eq_true',
        List.isEmpty_eq_false_iff]
      exact hfields
  · exact absurd (List.mem_singleton.mp hnew) (of_decide_eq_false hne)

/-- So it decides. -/
theorem admits_add_of_not_narrowed (h : ¬ f.Narrowed q.about q) :
    (f.add (.whole q.about t)).admits level q = decide (level.verbosity ≤ t.verbosity) := by
  let new := LogRule.whole q.about t
  let rules := (f.add new).rules.filter fun r => r.covers q
  have hnew : new ∈ rules :=
    List.mem_filter.mpr ⟨List.mem_append_right _ List.mem_cons_self, LogRule.covers_whole⟩
  have htop : new ∈ rules.filter (· = new) := List.mem_filter.mpr ⟨hnew, decide_eq_true rfl⟩
  rcases exists_deciding? (List.ne_nil_of_mem htop) with ⟨best, hbest⟩
  have heq : best = new := of_decide_eq_true (List.mem_filter.mp (mem_of_deciding? hbest)).2
  rw [deciding?_filter (parted_add h) ⟨new, hnew, decide_eq_true rfl⟩, heq] at hbest
  rw [admits, hbest]
  rfl

/-- What the filter answers about the source of a rule that shows everything. -/
theorem admits_add_iff (f : LogFilter) (level : Level) (q : Inquiry) :
    (f.add (.whole q.about (some .trace))).admits level q = true ↔
      f.admits level q = true ∨ ¬ f.Narrowed q.about q := by
  by_cases h : f.Narrowed q.about q
  · rw [admits_add_of_narrowed h]
    exact ⟨Or.inl, fun hor => hor.resolve_right fun hnot => hnot h⟩
  · rw [admits_add_of_not_narrowed h]
    refine ⟨fun _ => Or.inr h, fun _ => decide_eq_true ?_⟩
    cases level <;> decide

end LogFilter

end ControlPlane
