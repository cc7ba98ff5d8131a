import ControlPlane.Http.FieldMap
import Mathlib.Data.List.Basic
import Mathlib.Data.List.Triplewise

/-!
# What a Message Keeps of Its Fields

A name is kept if it is a token that is neither empty nor too long, and it is kept in lower
case (`fieldName?_eq_some_iff`).

A message keeps the fields of one name together, so it forgets how the names took turns. This
is all that it forgets. Nothing is lost or added (`perm_gather`), the fields of each name
stay in order among themselves (`named_gather`), and the names stay in the order in which
they came first (`gather_eq_flatMap`). Whoever asks about one name cannot tell the difference,
and whoever reads the whole list can, unless the fields of each name had come together
(`gather_eq_self_iff`).

`gather` takes the first field, moves the others of its name up to it and goes on with what
is left, which is shorter but not a tail of the list. The inductions below follow that
recursion and not the list.

## Main definitions

* `IsFieldName`: The names that are kept.
* `values`: The values of the fields with a name.
* `Clustered`: The fields of each name stand together.

## Theorems

* `fieldName?_eq_some_iff`: Which names are kept, and as what.
* `named_gather`, `values_gather`: What is kept under one name.
* `find?_gather`: What comes first of some names.
* `perm_gather`: Nothing is lost or added.
* `gather_eq_flatMap`: What is kept, name by name.
* `gather_map`: Gathering looks at names only.
* `clustered_gather`: What is kept is clustered.
* `gather_eq_self_iff`: When the order of arrival survives.
-/

namespace ControlPlane

namespace Http

variable {α β : Type} {name other : String} {fields : List (String × α)}

/-- The name is kept: it is a token of some length, up to the longest. -/
structure IsFieldName (name : String) : Prop where
  nonempty : name ≠ ""
  short : name.length ≤ maxNameLength
  token : ∀ c ∈ name.toList, isTokenChar c = true

instance (name : String) : Decidable (IsFieldName name) :=
  decidable_of_iff
    (name ≠ "" ∧ name.length ≤ maxNameLength ∧ name.toList.all isTokenChar = true)
    ⟨fun ⟨nonempty, short, token⟩ => ⟨nonempty, short, List.all_eq_true.mp token⟩,
      fun ⟨nonempty, short, token⟩ => ⟨nonempty, short, List.all_eq_true.mpr token⟩⟩

/-- The values of the fields with a name, in order. -/
def values (name : String) (fields : List (String × α)) : List α :=
  (named name fields).map Prod.snd

/-- The fields of each name stand together: between two fields of one name there are no
    others. -/
def Clustered (fields : List (String × α)) : Prop :=
  fields.Triplewise fun first between last => first.1 = last.1 → between.1 = first.1

/-! ### Names -/

/-- Which names are kept, and as what. -/
theorem fieldName?_eq_some_iff (name kept : String) :
    fieldName? name = some kept ↔ IsFieldName name ∧ Text.lowerCase name = kept := by
  unfold fieldName?
  by_cases h : IsFieldName name
  · have hpass : ¬ (name.isEmpty || decide (maxNameLength < name.length) ||
        !name.toList.all isTokenChar) = true := by
      have hall : name.toList.all isTokenChar = true := List.all_eq_true.mpr h.token
      simp only [Bool.or_eq_true, String.isEmpty_iff, decide_eq_true_eq, hall, Bool.not_true,
        Bool.false_eq_true, or_false, not_or, Nat.not_lt]
      exact ⟨h.nonempty, h.short⟩
    rw [if_neg hpass, Option.some.injEq]
    exact ⟨fun heq => ⟨h, heq⟩, fun ⟨_, heq⟩ => heq⟩
  · have hfail : (name.isEmpty || decide (maxNameLength < name.length) ||
        !name.toList.all isTokenChar) = true := by
      by_contra hpass
      simp only [Bool.or_eq_true, String.isEmpty_iff, decide_eq_true_eq, Bool.not_eq_true',
        not_or, Nat.not_lt, Bool.not_eq_false, List.all_eq_true] at hpass
      exact h ⟨hpass.1.1, hpass.1.2, hpass.2⟩
    rw [if_pos hfail]
    exact ⟨nofun, fun ⟨hname, _⟩ => absurd hname h⟩

/-! ### Fields of a name -/

theorem mem_named {field : String × α} :
    field ∈ named name fields ↔ field ∈ fields ∧ field.1 = name := by
  rw [named, List.mem_filter, beq_iff_eq]

theorem mem_notNamed {field : String × α} :
    field ∈ notNamed name fields ↔ field ∈ fields ∧ field.1 ≠ name := by
  rw [notNamed, List.mem_filter, bne_iff_ne]

theorem named_append (name : String) (front back : List (String × α)) :
    named name (front ++ back) = named name front ++ named name back :=
  List.filter_append front back

theorem named_cons_of_eq {field : String × α} (h : field.1 = name) (rest : List (String × α)) :
    named name (field :: rest) = field :: named name rest :=
  List.filter_cons_of_pos (beq_iff_eq.mpr h)

theorem named_cons_of_ne {field : String × α} (h : field.1 ≠ name) (rest : List (String × α)) :
    named name (field :: rest) = named name rest :=
  List.filter_cons_of_neg fun hname => h (beq_iff_eq.mp hname)

theorem named_named (name : String) (fields : List (String × α)) :
    named name (named name fields) = named name fields :=
  List.filter_eq_self.mpr fun _ hmem => beq_iff_eq.mpr (mem_named.mp hmem).2

theorem named_named_of_ne (h : other ≠ name) (fields : List (String × α)) :
    named name (named other fields) = [] :=
  List.filter_eq_nil_iff.mpr fun _ hmem hname =>
    h ((mem_named.mp hmem).2.symm.trans (beq_iff_eq.mp hname))

theorem named_notNamed (name : String) (fields : List (String × α)) :
    named name (notNamed name fields) = [] :=
  List.filter_eq_nil_iff.mpr fun _ hmem hname => (mem_notNamed.mp hmem).2 (beq_iff_eq.mp hname)

/-- The fields of other names are no concern of the fields of a name. -/
theorem named_notNamed_of_ne (h : name ≠ other) (fields : List (String × α)) :
    named name (notNamed other fields) = named name fields := by
  rw [named, notNamed, List.filter_filter, named]
  congr
  funext field
  by_cases hname : field.1 = name
  · simp only [hname, beq_self_eq_true, Bool.true_and, bne_iff_ne, ne_eq, h, not_false_eq_true]
  · simp only [beq_eq_false_iff_ne.mpr hname, Bool.false_and]

/-! ### What gathering keeps -/

/-- What is kept under one name is what came under that name, in order. -/
theorem named_gather (name : String) (fields : List (String × α)) :
    named name (gather fields) = named name fields := by
  induction fields using gather.induct with
  | case1 => rw [gather]
  | case2 field rest ih =>
      rw [gather, List.cons_append]
      by_cases h : field.1 = name
      · -- The fields of the name have all been moved up, and none is left behind.
        rw [named_cons_of_eq h, named_cons_of_eq h, named_append, ih, h, named_named,
          named_notNamed, List.append_nil]
      · rw [named_cons_of_ne h, named_cons_of_ne h, named_append, ih, named_named_of_ne h,
          named_notNamed_of_ne (Ne.symm h), List.nil_append]

/-- What is asked of names alone is answered by the same first field before and after. The
    fields moved up in front of it have a name that came earlier. -/
theorem find?_gather {p : String × α → Bool} (hp : ∀ a b : String × α, a.1 = b.1 → p a = p b)
    (fields : List (String × α)) : (gather fields).find? p = fields.find? p := by
  induction fields using gather.induct with
  | case1 => rw [gather]
  | case2 field rest ih =>
      rw [gather, List.cons_append]
      by_cases h : p field = true
      · rw [List.find?_cons_of_pos h, List.find?_cons_of_pos h]
      · -- No field of this name is the one, whether it is moved up or not.
        have hsame : ∀ other : String × α, other.1 = field.1 → ¬ p other = true :=
          fun other hname => by rwa [hp other field hname]
        have hmoved : (named field.1 rest).find? p = none :=
          List.find?_eq_none.mpr fun other hmem => hsame other (mem_named.mp hmem).2
        have hrest : (notNamed field.1 rest).find? p = rest.find? p := by
          rw [notNamed, List.find?_filter]
          congr
          funext other
          by_cases hname : other.1 = field.1
          · rw [Bool.eq_false_iff.mpr (hsame other hname), decide_eq_false_iff_not]
            exact fun hboth => Bool.false_ne_true hboth.2
          · simp only [bne_iff_ne.mpr hname, true_and, Bool.decide_eq_true]
        rw [List.find?_cons_of_neg h, List.find?_cons_of_neg h, List.find?_append, hmoved,
          Option.none_or, ih, hrest]

theorem values_gather (name : String) (fields : List (String × α)) :
    values name (gather fields) = values name fields := by
  rw [values, named_gather, values]

/-- Nothing is lost or added. -/
theorem perm_gather (fields : List (String × α)) : (gather fields).Perm fields := by
  induction fields using gather.induct with
  | case1 => rw [gather]
  | case2 field rest ih =>
      rw [gather, List.cons_append]
      have hsplit : (named field.1 rest ++ notNamed field.1 rest).Perm rest :=
        List.filter_append_perm _ rest
      exact ((ih.append_left _).trans hsplit).cons field

/-- Gathering looks at names only. -/
theorem gather_map (f : α → β) (fields : List (String × α)) :
    gather (fields.map fun field => (field.1, f field.2)) =
      (gather fields).map fun field => (field.1, f field.2) := by
  induction fields using gather.induct with
  | case1 => rw [List.map_nil, gather, gather, List.map_nil]
  | case2 field rest ih =>
      have hnamed : named field.1 (rest.map fun field => (field.1, f field.2)) =
          (named field.1 rest).map fun field => (field.1, f field.2) := List.filter_map
      have hothers : notNamed field.1 (rest.map fun field => (field.1, f field.2)) =
          (notNamed field.1 rest).map fun field => (field.1, f field.2) := List.filter_map
      rw [List.map_cons, gather, gather, hnamed, hothers, ih, List.map_append, List.map_cons]

/-- What is kept, name by name: the fields of each name, and the names in the order in which
    they came first. -/
theorem gather_eq_flatMap (fields : List (String × α)) :
    gather fields = (fields.map Prod.fst).eraseDups.flatMap fun name => named name fields := by
  induction fields using gather.induct with
  | case1 => rw [gather]; rfl
  | case2 field rest ih =>
      have hnames : (rest.map Prod.fst).filter (fun name => !name == field.1) =
          (notNamed field.1 rest).map Prod.fst := List.filter_map
      rw [gather, ih, List.map_cons, List.eraseDups_cons, hnames, List.flatMap_cons,
        named_cons_of_eq rfl]
      congr 1
      -- The other names mean the same fields in what is left as in the whole list.
      refine List.flatMap_congr fun name hmem => ?_
      rw [List.mem_eraseDups, List.mem_map] at hmem
      rcases hmem with ⟨later, hlater, hname⟩
      have hne : field.1 ≠ name := fun h => (mem_notNamed.mp hlater).2 (hname.trans h.symm)
      rw [named_cons_of_ne hne, named_notNamed_of_ne (Ne.symm hne)]

/-! ### When the order of arrival survives -/

/-- What is kept is clustered. -/
theorem clustered_gather (fields : List (String × α)) : Clustered (gather fields) := by
  unfold Clustered
  induction fields using gather.induct with
  | case1 =>
      rw [gather]
      exact .nil
  | case2 field rest ih =>
      have hnames : ∀ later ∈ gather (notNamed field.1 rest), later.1 ≠ field.1 :=
        fun later hmem => (mem_notNamed.mp ((perm_gather _).mem_iff.mp hmem)).2
      have hsame : ∀ later ∈ field :: named field.1 rest, later.1 = field.1 := by
        rw [List.forall_mem_cons]
        exact ⟨rfl, fun later hmem => (mem_named.mp hmem).2⟩
      rw [gather, List.triplewise_append]
      refine ⟨?_, ih, fun first hfirst => ?_, fun last hlast => ?_⟩
      · -- Three fields of the one name.
        rw [List.triplewise_iff_getElem]
        intro i j k hij hjk hk _
        rw [hsame _ (List.getElem_mem _), hsame _ (List.getElem_mem _)]
      · -- The first has the name, and the last has not.
        refine List.pairwise_of_forall_mem_list fun between _ last hlast heq => ?_
        exact absurd (heq.symm.trans (hsame first hfirst)) (hnames last hlast)
      · refine List.pairwise_of_forall_mem_list fun first hfirst between hbetween _ => ?_
        rw [hsame first hfirst, hsame between hbetween]

/-- If no other name comes before a field of the name, its fields are all in front. -/
theorem named_append_notNamed
    (h : fields.Pairwise fun between last => name = last.1 → between.1 = name) :
    named name fields ++ notNamed name fields = fields := by
  induction fields with
  | nil => rfl
  | cons field rest ih =>
      rw [List.pairwise_cons] at h
      by_cases hname : field.1 = name
      · have hothers : notNamed name (field :: rest) = notNamed name rest :=
          List.filter_cons_of_neg fun hne => bne_iff_ne.mp hne hname
        rw [named_cons_of_eq hname, hothers, List.cons_append, ih h.2]
      · -- From here on the name does not occur.
        have habsent : ∀ later ∈ field :: rest, later.1 ≠ name := by
          rw [List.forall_mem_cons]
          exact ⟨hname, fun later hmem heq => hname (h.1 later hmem heq.symm)⟩
        have hnone : named name (field :: rest) = [] :=
          List.filter_eq_nil_iff.mpr fun later hmem heq =>
            habsent later hmem (beq_iff_eq.mp heq)
        have hall : notNamed name (field :: rest) = field :: rest :=
          List.filter_eq_self.mpr fun later hmem => bne_iff_ne.mpr (habsent later hmem)
        rw [hnone, hall, List.nil_append]

theorem gather_of_clustered (h : Clustered fields) : gather fields = fields := by
  induction fields using gather.induct with
  | case1 => rw [gather]
  | case2 field rest ih =>
      rcases List.triplewise_cons.mp h with ⟨hfirst, hrest⟩
      have hsplit := named_append_notNamed hfirst
      -- What is left is the back of the list, so it is clustered too.
      have hback : Clustered (notNamed field.1 rest) := by
        rw [← hsplit] at hrest
        exact (List.triplewise_append.mp hrest).2.1
      rw [gather, ih hback, List.cons_append, hsplit]

/-- The order of arrival survives exactly if the fields of each name had come together. -/
theorem gather_eq_self_iff (fields : List (String × α)) :
    gather fields = fields ↔ Clustered fields := by
  constructor
  · intro h
    rw [← h]
    exact clustered_gather fields
  · exact gather_of_clustered

end Http

end ControlPlane
