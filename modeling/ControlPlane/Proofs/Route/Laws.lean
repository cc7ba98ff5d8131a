import ControlPlane.Proofs.Route.History

/-!
# The Laws of a Table of Routes

What registering, removing and resolving come to, for every table that changes have led
to. A registration concerns only the targets that were resolved to nothing before, since
its entry is asked after all the others. A removal concerns only the targets that the
removed registration has decided: they go to the next live registration that they match,
and all others stay where they are, whatever else the removed matcher would have matched.

Which registration has decided a target is said by its number and not by its handler,
for the same handler may be registered many times.

Tables can be cloned. Each clone has a history of its own from then on, which begins
with the history of the table that it was made from, so the laws hold of all the tables
that are made from one another. Nothing that is done to one of them shows in another.

## Main definitions

* `Laws`: What holds of a table with a history.
* `Use`, `tables`, `histories`: Several tables, each of which can be changed and cloned.
* `Lawful`: What holds of all of them.

## Theorems

* `resolve_register_ne_iff`: Which targets a registration concerns.
* `entries_unregister`: What a removal takes out of a table.
* `resolve_unregister_of_spared`: Which targets a removal does not concern.
* `decides_unregister_iff`: Where the other ones go.
* `laws_after`: The laws of one table.
* `tables_eq`: Each table is what its own history leads to.
* `lawful_of_uses`: The laws of all tables, clones included.
-/

namespace ControlPlane

namespace RouteTable

variable {past : List RouteChange} {m : Matcher} {number : Nat} {target : String}

/-! ### Registering and removing -/

/-- A new entry is asked after all the others. -/
theorem resolve_register (table : RouteTable Handler) (m : Matcher) (handler : Handler)
    (target : String) :
    (table.register m handler).resolve target =
      (table.resolve target).or ((m.rest? target).map fun rest => (handler, rest)) := by
  rw [resolve, register, List.findSome?_append, List.findSome?_singleton]
  rfl

/-- Registering concerns the targets that were resolved to nothing and match. -/
theorem resolve_register_ne_iff (table : RouteTable Handler) (m : Matcher) (handler : Handler)
    (target : String) :
    (table.register m handler).resolve target ≠ table.resolve target ↔
      table.resolve target = none ∧ ∃ rest : String, m.Matches target rest := by
  rw [resolve_register]
  rcases table.resolve target with _ | route
  · rcases hrest : m.rest? target with _ | rest
    · rw [Matcher.rest?_eq_none_iff] at hrest
      simp only [Option.map_none, Option.or_none, ne_eq, not_true_eq_false, true_and, false_iff,
        not_exists]
      exact hrest
    · have hmatches := (Matcher.rest?_eq_some_iff m target rest).mp hrest
      simp only [Option.map_some, Option.none_or, ne_eq, reduceCtorEq, not_false_eq_true,
        true_and, true_iff]
      exact ⟨rest, hmatches⟩
  · simp only [Option.some_or, ne_eq, not_true_eq_false, reduceCtorEq, false_and]

theorem oldest_unique {number' : Nat} (h : Oldest past m number) (h' : Oldest past m number') :
    number = number' := by
  rcases h with ⟨⟨handler, hlive⟩, hfirst⟩
  rcases h' with ⟨⟨handler', hlive'⟩, hfirst'⟩
  rcases Nat.lt_trichotomy number number' with hlt | heq | hgt
  · exact absurd hlive (hfirst' number hlt handler)
  · exact heq
  · exact absurd hlive' (hfirst number' hgt handler')

/-- What a removal takes out of a table: the first entry of the matcher, which is its
    oldest live registration. -/
theorem entries_unregister (past : List RouteChange) (m : Matcher) :
    ((∀ (number : Nat) (handler : Handler), ¬ Live past number m handler) ∧
        (after past).unregister m = after past) ∨
      ∃ (number : Nat) (handler : Handler) (front back : List (Matcher × Handler)),
        Oldest past m number ∧ Live past number m handler ∧
          (after past).entries = front ++ (m, handler) :: back ∧ (∀ entry ∈ front, entry.1 ≠ m) ∧
          ((after past).unregister m).entries = front ++ back := by
  have hafter : ((after past).unregister m).entries =
      (ledger (.unregister m :: past)).map Prod.snd := entries_after (.unregister m :: past)
  rcases ledger_unregister past m with ⟨hnone, hkept⟩ |
    ⟨number, handler, front, back, hsplit, hfront, hback, hkept⟩
  · left
    constructor
    · intro number handler hlive
      exact hnone _ ((mem_ledger_iff past number m handler).mpr hlive) rfl
    · rw [hkept, ← entries_after] at hafter
      exact congrArg RouteTable.mk hafter
  · -- The removed entry is the first of its matcher, and earlier in the list is earlier in time.
    right
    have hlive := live_of_split hsplit
    refine ⟨number, handler, front.map Prod.snd, back.map Prod.snd, ⟨⟨handler, hlive⟩, ?_⟩, hlive,
      ?_, ?_, ?_⟩
    · intro older hlt other holder
      exact hfront _ ((mem_front_iff hsplit older m other).mpr ⟨holder, hlt⟩) rfl
    · rw [entries_after, hsplit, List.map_append, List.map_cons]
    · intro entry hmem
      rcases List.mem_map.mp hmem with ⟨numbered, hnumbered, heq⟩
      rw [← heq]
      exact hfront numbered hnumbered
    · rw [hafter, hkept, List.map_append]

/-- A removal concerns only the targets that the removed registration has decided. -/
theorem resolve_unregister_of_spared (h : ∀ (number : Nat) (handler : Handler) (rest : String),
      Decides past 0 target number handler rest → ¬ Oldest past m number) :
    ((after past).unregister m).resolve target = (after past).resolve target := by
  have hkept : ∀ {number : Nat} {m' : Matcher} {handler : Handler},
      Live (.unregister m :: past) number m' handler → Live past number m' handler :=
    fun hlive => ((live_unregister_iff m _ _).mp hlive).1
  have hafter : (after past).unregister m = after (.unregister m :: past) := rfl
  rw [hafter]
  rcases hbefore : (after past).resolve target with _ | route
  · -- A removal adds no registration, so nothing matches afterwards either.
    rw [resolve_after_eq_none_iff] at hbefore ⊢
    exact fun number m' handler hlive => hbefore number m' handler (hkept hlive)
  · rw [resolve_after_iff] at hbefore ⊢
    rcases hbefore with ⟨number, hdecides⟩
    have hnot := h number _ _ hdecides
    rcases hdecides with ⟨hsince, ⟨m', hlive, hmatches⟩, hfirst⟩
    have hstays := (live_unregister_iff m m' route.1).mpr ⟨hlive, hnot⟩
    refine ⟨number, hsince, ⟨m', hstays, hmatches⟩, fun older hle hlt m'' other holder => ?_⟩
    exact hfirst older hle hlt m'' other (hkept holder)

/-- The targets of the removed registration go to the next one that they match. -/
theorem decides_unregister_iff {handler : Handler} {rest : String}
    (hdecides : Decides past 0 target number handler rest) (holdest : Oldest past m number)
    (later : Nat) (handler' : Handler) (rest' : String) :
    Decides (.unregister m :: past) 0 target later handler' rest' ↔
      Decides past (number + 1) target later handler' rest' := by
  have hgone : ∀ (m' : Matcher) (other : Handler),
      ¬ Live (.unregister m :: past) number m' other :=
    fun m' other hlive => ((live_unregister_iff m m' other).mp hlive).2 holdest
  have hothers : ∀ (other : Nat) (m' : Matcher) (handler : Handler), other ≠ number →
      (Live (.unregister m :: past) other m' handler ↔ Live past other m' handler) := by
    intro other m' handler hne
    rw [live_unregister_iff]
    exact ⟨And.left, fun hlive => ⟨hlive, fun h => hne (oldest_unique h holdest)⟩⟩
  constructor
  · rintro ⟨_, ⟨m', hlive, hmatches⟩, hfirst⟩
    have hne : later ≠ number := fun heq => hgone m' handler' (heq ▸ hlive)
    rw [hothers later m' handler' hne] at hlive
    -- Nothing older than the removed registration matches, as it has decided the target.
    have hlt : number < later := by
      by_contra hle
      exact hdecides.first later (Nat.zero_le _) (by omega) m' handler' hlive rest' hmatches
    refine ⟨hlt, ⟨m', hlive, hmatches⟩, fun older hle holder m'' other h => ?_⟩
    exact hfirst older (Nat.zero_le _) holder m'' other ((hothers older m'' other (by omega)).mpr h)
  · rintro ⟨hle, ⟨m', hlive, hmatches⟩, hfirst⟩
    refine ⟨Nat.zero_le _, ⟨m', (hothers later m' handler' (by omega)).mpr hlive, hmatches⟩, ?_⟩
    intro older _ holder m'' other h
    -- The removed registration is gone itself.
    rcases Nat.lt_trichotomy older number with hbefore | heq | hbehind
    · rw [hothers older m'' other (by omega)] at h
      exact hdecides.first older (Nat.zero_le _) hbefore m'' other h
    · exact absurd (heq ▸ h) (hgone m'' other)
    · rw [hothers older m'' other (by omega)] at h
      exact hfirst older hbehind holder m'' other h

/-! ### One table -/

/-- What holds of a table that some changes have led to. -/
structure Laws (past : List RouteChange) (table : RouteTable Handler) : Prop where
  /-- The entries are the live registrations, the oldest first. -/
  entries : ∃ numbered : List (Nat × Matcher × Handler),
    table.entries = numbered.map Prod.snd ∧
      (numbered.Pairwise fun older newer => older.1 < newer.1) ∧
      ∀ (number : Nat) (m : Matcher) (handler : Handler),
        (number, m, handler) ∈ numbered ↔ Live past number m handler
  /-- A target is resolved by the oldest live registration that it matches. -/
  resolved : ∀ (target : String) (route : Handler × String),
    table.resolve target = some route ↔
      ∃ number : Nat, Decides past 0 target number route.1 route.2
  unresolved : ∀ target : String, table.resolve target = none ↔
    ∀ (number : Nat) (m : Matcher) (handler : Handler), Live past number m handler →
      ∀ rest : String, ¬ m.Matches target rest
  /-- Registering concerns the targets that were resolved to nothing and match, and it
      leads them to the new handler. -/
  registered : ∀ (m : Matcher) (handler : Handler) (target : String),
    ((table.register m handler).resolve target ≠ table.resolve target ↔
        table.resolve target = none ∧ ∃ rest : String, m.Matches target rest) ∧
      ∀ rest : String, table.resolve target = none → m.Matches target rest →
        (table.register m handler).resolve target = some (handler, rest)
  /-- A removal answers whether a registration of the matcher was live. -/
  answered : ∀ m : Matcher, (RouteChange.unregister m).answer table = true ↔
    ∃ (number : Nat) (handler : Handler), Live past number m handler
  /-- It takes out the oldest of them and nothing else. -/
  removed : ∀ m : Matcher,
    ((∀ (number : Nat) (handler : Handler), ¬ Live past number m handler) ∧
        table.unregister m = table) ∨
      ∃ (number : Nat) (handler : Handler) (front back : List (Matcher × Handler)),
        Oldest past m number ∧ Live past number m handler ∧
          table.entries = front ++ (m, handler) :: back ∧ (∀ entry ∈ front, entry.1 ≠ m) ∧
          (table.unregister m).entries = front ++ back
  /-- It concerns only the targets that this registration has decided. -/
  spared : ∀ (m : Matcher) (target : String),
    (∀ (number : Nat) (handler : Handler) (rest : String),
        Decides past 0 target number handler rest → ¬ Oldest past m number) →
      (table.unregister m).resolve target = table.resolve target
  /-- Those are resolved by the next live registration that they match. -/
  next : ∀ (m : Matcher) (target : String) (number : Nat) (handler : Handler) (rest : String),
    Decides past 0 target number handler rest → Oldest past m number →
      ∀ route : Handler × String, (table.unregister m).resolve target = some route ↔
        ∃ later : Nat, Decides past (number + 1) target later route.1 route.2

theorem laws_after (past : List RouteChange) : Laws past (after past) := by
  constructor
  case entries =>
    exact ⟨ledger past, entries_after past, (increasing_ledger past).2, mem_ledger_iff past⟩
  case resolved => exact resolve_after_iff past
  case unresolved => exact resolve_after_eq_none_iff past
  case registered =>
    intro m handler target
    refine ⟨resolve_register_ne_iff _ m handler target, fun rest hnone hmatches => ?_⟩
    rw [resolve_register, hnone, (Matcher.rest?_eq_some_iff m target rest).mpr hmatches]
    rfl
  case answered => exact has_after_iff past
  case removed => exact entries_unregister past
  case spared => exact fun m target h => resolve_unregister_of_spared h
  case next =>
    intro m target number handler rest hdecides holdest route
    have hafter : (after past).unregister m = after (.unregister m :: past) := rfl
    rw [hafter, resolve_after_iff]
    exact exists_congr fun later => decides_unregister_iff hdecides holdest later route.1 route.2

/-! ### Several tables -/

/-- What is done with tables, which are told apart by the order in which they were made. -/
inductive Use where
  | edit (table : Nat) (change : RouteChange)
  /-- One more table is made, as a copy. -/
  | clone (table : Nat)

/-- A use of what is held of each table, be it the table itself or its history. -/
def Use.on {α : Type} (act : RouteChange → α → α) (held : List α) : Use → List α
  | .edit table change => held.modify table (act change)
  | .clone table => held ++ held[table]?.toList

/-- The tables in the end. There is an empty one at first. -/
def tables (uses : List Use) : List (RouteTable Handler) :=
  uses.foldl (Use.on fun change table => change.applyTo table) [{}]

/-- The changes that each of the tables has been through, the latest first. -/
def histories (uses : List Use) : List (List RouteChange) :=
  uses.foldl (Use.on List.cons) [[]]

/-- Each table is what its own history leads to. -/
theorem tables_eq (uses : List Use) : tables uses = (histories uses).map after := by
  -- What a use does to the tables is what it does to the histories, so the folds agree.
  have hon : ∀ (held : List (List RouteChange)) (use : Use),
      Use.on (fun change table => change.applyTo table) (held.map after) use =
        (Use.on List.cons held use).map after := by
    intro held use
    cases use with
    | edit table change =>
        refine List.ext_getElem? fun i => ?_
        simp only [Use.on, List.getElem?_modify, List.getElem?_map]
        cases held[i]? with
        | none => rfl
        | some past =>
            by_cases hsame : table = i
            · simp only [hsame, if_true]
              rfl
            · simp only [hsame, if_false]
              rfl
    | clone table =>
        simp only [Use.on, List.map_append, List.getElem?_map, List.append_cancel_left_eq]
        cases held[table]? <;> rfl
  have hstart : [({} : RouteTable Handler)] = [[]].map after := rfl
  rw [tables, hstart, histories]
  exact List.foldl_hom (List.map after) hon

/-- What is held of a table stays the same as long as others are changed. -/
theorem kept_of_uses {α : Type} (act : RouteChange → α → α) {table : Nat} {x : α}
    (later : List Use) (hothers : ∀ change : RouteChange, .edit table change ∉ later) :
    ∀ held : List α, held[table]? = some x → (later.foldl (Use.on act) held)[table]? = some x := by
  -- By induction along the uses. A clone is put behind all the tables, so none of them moves.
  induction later with
  | nil => exact fun held hget => hget
  | cons use later ih =>
      intro held hget
      have hlater : ∀ change : RouteChange, .edit table change ∉ later :=
        fun change hmem => hothers change (List.mem_cons_of_mem _ hmem)
      refine ih hlater (Use.on act held use) ?_
      cases use with
      | edit other change =>
          have hne : other ≠ table :=
            fun heq => hothers change (heq ▸ List.mem_cons_self)
          exact (List.getElem?_modify_ne (act change) held hne).trans hget
      | clone other =>
          have hlt := (List.getElem?_eq_some_iff.mp hget).1
          rw [Use.on, List.getElem?_append_left hlt]
          exact hget

/-- What holds of tables after any uses. -/
structure Lawful (uses : List Use) : Prop where
  /-- Each table keeps the laws of its own history. -/
  held : ∀ (i : Nat) (table : RouteTable Handler), (tables uses)[i]? = some table →
    ∃ past : List RouteChange, (histories uses)[i]? = some past ∧ Laws past table
  edited : ∀ (i : Nat) (table : RouteTable Handler) (change : RouteChange),
    (tables uses)[i]? = some table →
      (tables (uses ++ [.edit i change]))[i]? = some (change.applyTo table)
  /-- A table stays the same whatever becomes of the others. -/
  apart : ∀ (i : Nat) (table : RouteTable Handler) (later : List Use),
    (tables uses)[i]? = some table → (∀ change : RouteChange, .edit i change ∉ later) →
      (tables (uses ++ later))[i]? = some table
  /-- A clone is what the original was when it was made, whatever becomes of that. -/
  cloned : ∀ (i : Nat) (table : RouteTable Handler) (later : List Use),
    (tables uses)[i]? = some table →
      (∀ change : RouteChange, .edit (tables uses).length change ∉ later) →
        (tables (uses ++ .clone i :: later))[(tables uses).length]? = some table

theorem lawful_of_uses (uses : List Use) : Lawful uses := by
  constructor
  case held =>
    intro i table hget
    rw [tables_eq, List.getElem?_map, Option.map_eq_some_iff] at hget
    rcases hget with ⟨past, hpast, heq⟩
    exact ⟨past, hpast, heq ▸ laws_after past⟩
  case edited =>
    intro i table change hget
    rw [tables, List.foldl_append]
    refine (List.getElem?_modify_eq _ i _).trans ?_
    exact congrArg (Option.map fun table => change.applyTo table) hget
  case apart =>
    intro i table later hget hothers
    rw [tables, List.foldl_append]
    exact kept_of_uses _ later hothers _ hget
  case cloned =>
    intro i table later hget hothers
    rw [tables, List.foldl_append, List.foldl_cons]
    -- The clone is in its place from the start, and then it is as any other table.
    refine kept_of_uses _ later hothers _ ?_
    have hclone : Use.on (fun change table => RouteChange.applyTo table change) (tables uses)
        (.clone i) = tables uses ++ [table] := by
      rw [Use.on, hget]
      rfl
    exact hclone ▸ List.getElem?_concat_length

end RouteTable

end ControlPlane
