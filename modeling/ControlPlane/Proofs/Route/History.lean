import ControlPlane.Proofs.Text.Split
import ControlPlane.Publication
import Mathlib.Data.List.Nodup

/-!
# What a Table of Routes Has Been Through

A table of routes is what registrations and removals have left of it, and from these
alone one can say what it resolves a target to. Registrations are numbered by how many
changes came before them. One of them is live from then on, until it is the oldest live
registration of a matcher that is removed. A target is resolved by the oldest live
registration that it matches.

So a registration is told apart from others of the same matcher, and of the same
handler, by its number alone. The entries of a table do not carry these numbers. The
ledger is the list of entries with them, and its order is the order of the numbers: a
registration adds the largest one at the end, and a removal takes one out.

## Main definitions

* `Matcher.Matches`: A target matches, and what is left of it.
* `RouteTable.after`: The table that changes lead to.
* `RouteTable.Live`: The registrations that have not been removed.
* `RouteTable.Oldest`: The registration that a removal takes.
* `RouteTable.Decides`: The oldest registration that a target matches.
* `RouteTable.ledger`: The entries of a table with their numbers.

## Theorems

* `rest?_eq_some_iff`: What a matcher leaves of a target.
* `entries_after`, `increasing_ledger`, `mem_ledger_iff`: The entries of a table are the
  live registrations in order.
* `mem_front_iff`: What is before an entry is older.
* `ledger_unregister`, `live_unregister_iff`: A removal takes the oldest registration of
  its matcher.
* `resolve_after_iff`: A target is resolved by the oldest registration that it matches.
* `has_after_iff`: A matcher is in a table as long as a registration of it is live.
-/

namespace ControlPlane

/-! ### Matching -/

namespace Matcher

/-- A target matches, and what is left of it. -/
inductive Matches : Matcher → (target rest : String) → Prop
  | exact (pattern : String) : Matches ⟨pattern, .exact⟩ pattern ""
  | leading (pattern rest : String) : Matches ⟨pattern, .leading⟩ (pattern ++ rest) rest

theorem rest?_eq_some_iff (m : Matcher) (target rest : String) :
    m.rest? target = some rest ↔ m.Matches target rest := by
  rcases m with ⟨pattern, mode⟩
  cases mode with
  | exact =>
      constructor
      · intro h
        by_cases hsame : target = pattern
        · simp only [rest?, if_pos hsame, Option.some.injEq] at h
          rw [hsame, ← h]
          exact .exact pattern
        · simp only [rest?, if_neg hsame, reduceCtorEq] at h
      · rintro ⟨⟩
        simp only [rest?, if_true]
  | leading =>
      simp only [rest?, Option.map_eq_some_iff, Text.dropFront?_eq_some_iff]
      constructor
      · rintro ⟨left, hleft, hrest⟩
        have htarget : target = pattern ++ rest := by
          rw [← String.toList_inj, hleft, String.toList_append, ← hrest, String.toList_ofList]
        rw [htarget]
        exact .leading pattern rest
      · rintro ⟨⟩
        exact ⟨rest.toList, String.toList_append, String.ofList_toList⟩

theorem rest?_eq_none_iff (m : Matcher) (target : String) :
    m.rest? target = none ↔ ∀ rest : String, ¬ m.Matches target rest := by
  simp only [Option.eq_none_iff_forall_ne_some, ne_eq, rest?_eq_some_iff]

end Matcher

namespace RouteTable

variable {past : List RouteChange} {m : Matcher} {number : Nat} {target : String}

/-! ### Histories -/

/-- The table that changes lead to. The latest change is the first one. -/
def after (past : List RouteChange) : RouteTable Handler :=
  past.foldr (fun change table => change.applyTo table) {}

/-- A registration that has not been removed, with its number, which is how many changes
    came before it. -/
def Live : List RouteChange → Nat → Matcher → Handler → Prop
  | [], _, _, _ => False
  | .register m handler :: past, number, m', handler' =>
    (number = past.length ∧ m' = m ∧ handler' = handler) ∨ Live past number m' handler'
  | .unregister m :: past, number, m', handler =>
    -- One of this matcher stays live if an older one goes in its place.
    Live past number m' handler ∧
      (m' = m → ∃ older < number, ∃ other : Handler, Live past older m other)

/-- The oldest registration of a matcher. -/
def Oldest (past : List RouteChange) (m : Matcher) (number : Nat) : Prop :=
  (∃ handler : Handler, Live past number m handler) ∧
    ∀ older < number, ∀ handler : Handler, ¬ Live past older m handler

/-- Of the registrations from a number on, the oldest one that a target matches, with its
    handler and what is left of the target. -/
structure Decides (past : List RouteChange) (since : Nat) (target : String) (number : Nat)
    (handler : Handler) (rest : String) : Prop where
  since_le : since ≤ number
  matching : ∃ m : Matcher, Live past number m handler ∧ m.Matches target rest
  first : ∀ older : Nat, since ≤ older → older < number → ∀ (m : Matcher) (other : Handler),
    Live past older m other → ∀ left : String, ¬ m.Matches target left

/-- The entries of the table that changes lead to, with their numbers. -/
def ledger : List RouteChange → List (Nat × Matcher × Handler)
  | [] => []
  | .register m handler :: past => ledger past ++ [(past.length, m, handler)]
  | .unregister m :: past => (ledger past).eraseP fun entry => entry.2.1 = m

theorem entries_after (past : List RouteChange) :
    (after past).entries = (ledger past).map Prod.snd := by
  induction past with
  | nil => rfl
  | cons change past ih =>
      cases change with
      | register m handler =>
          have hentries : (after (.register m handler :: past)).entries =
              (after past).entries ++ [(m, handler)] := rfl
          rw [hentries, ih, ledger, List.map_append]
          rfl
      | unregister m =>
          have hentries : (after (.unregister m :: past)).entries =
              (after past).entries.eraseP fun entry => entry.1 = m := rfl
          rw [hentries, ih, ledger, List.eraseP_map]
          rfl

/-- The numbers of a ledger are below the number that comes next, and they increase. -/
theorem increasing_ledger (past : List RouteChange) :
    (∀ entry ∈ ledger past, entry.1 < past.length) ∧
      (ledger past).Pairwise fun older newer => older.1 < newer.1 := by
  induction past with
  | nil => exact ⟨fun _ hmem => absurd hmem List.not_mem_nil, .nil⟩
  | cons change past ih =>
      rcases ih with ⟨hbelow, hincreasing⟩
      cases change with
      | register m handler =>
          constructor
          · intro entry hmem
            rw [List.length_cons]
            rcases List.mem_append.mp hmem with hold | hnew
            · exact Nat.lt_succ_of_lt (hbelow entry hold)
            · rw [List.mem_singleton.mp hnew]
              exact Nat.lt_succ_self _
          · refine List.pairwise_append.mpr ⟨hincreasing, List.pairwise_singleton _ _, ?_⟩
            intro entry hold new hnew
            rw [List.mem_singleton.mp hnew]
            exact hbelow entry hold
      | unregister m =>
          constructor
          · exact fun entry hmem => Nat.lt_succ_of_lt (hbelow entry (List.mem_of_mem_eraseP hmem))
          · exact hincreasing.eraseP _

/-- A removal takes one entry out of a ledger, with those of other matchers before it and
    later ones behind it, or there is none to take. -/
theorem ledger_unregister (past : List RouteChange) (m : Matcher) :
    ((∀ entry ∈ ledger past, entry.2.1 ≠ m) ∧ ledger (.unregister m :: past) = ledger past) ∨
      ∃ (number : Nat) (handler : Handler) (front back : List (Nat × Matcher × Handler)),
        ledger past = front ++ (number, m, handler) :: back ∧
          (∀ entry ∈ front, entry.2.1 ≠ m) ∧ (∀ entry ∈ back, number < entry.1) ∧
          ledger (.unregister m :: past) = front ++ back := by
  by_cases hsome : ∃ entry ∈ ledger past, entry.2.1 = m
  · rcases hsome with ⟨entry, hentry, hmatcher⟩
    have hfound : decide (entry.2.1 = m) = true := decide_eq_true hmatcher
    rcases List.exists_of_eraseP (p := fun entry => decide (entry.2.1 = m)) hentry hfound with
      ⟨⟨number, m', handler⟩, front, back, hfront, hremoved, hsplit, herased⟩
    have hsame : m' = m := of_decide_eq_true hremoved
    have hincreasing := (increasing_ledger past).2
    rw [hsplit, List.pairwise_append, List.pairwise_cons] at hincreasing
    right
    refine ⟨number, handler, front, back, ?_, ?_, hincreasing.2.1.1, herased⟩
    · rw [hsplit, hsame]
    · exact fun entry hmem heq => hfront entry hmem (decide_eq_true heq)
  · have hnone : ∀ entry ∈ ledger past, entry.2.1 ≠ m :=
      fun entry hmem heq => hsome ⟨entry, hmem, heq⟩
    left
    refine ⟨hnone, List.eraseP_of_forall_not ?_⟩
    exact fun entry hmem heq => hnone entry hmem (of_decide_eq_true heq)

/-- A ledger lists the live registrations. -/
theorem mem_ledger_iff (past : List RouteChange) :
    ∀ (number : Nat) (m : Matcher) (handler : Handler),
      (number, m, handler) ∈ ledger past ↔ Live past number m handler := by
  -- By induction along the changes. A removal takes the first entry of its matcher out, and the
  -- order of the numbers makes that the oldest one.
  induction past with
  | nil => exact fun number m handler => List.mem_nil_iff _
  | cons change past ih =>
      intro number m' handler'
      cases change with
      | register m handler =>
          simp only [ledger, Live, List.mem_append, List.mem_singleton, Prod.mk.injEq, ih]
          exact Or.comm
      | unregister m =>
          rw [Live, ← ih]
          rcases ledger_unregister past m with ⟨hnone, hkept⟩ |
            ⟨removed, handler, front, back, hsplit, hfront, hback, hkept⟩
          · rw [hkept]
            exact ⟨fun hmem => ⟨hmem, fun heq => absurd heq (hnone _ hmem)⟩, And.left⟩
          · have hremoved : Live past removed m handler := by
              rw [← ih, hsplit]
              exact List.mem_append_right _ List.mem_cons_self
            -- All others of the matcher are behind the entry that is taken out.
            have hle : ∀ older other, Live past older m other → removed ≤ older := by
              intro older other hlive
              rw [← ih, hsplit, List.mem_append, List.mem_cons] at hlive
              rcases hlive with hbefore | hthis | hbehind
              · exact absurd rfl (hfront _ hbefore)
              · exact Nat.le_of_eq (congrArg Prod.fst hthis).symm
              · exact Nat.le_of_lt (hback _ hbehind)
            rw [hkept, hsplit, List.mem_append, List.mem_append, List.mem_cons]
            constructor
            · rintro (hbefore | hbehind)
              · exact ⟨Or.inl hbefore, fun heq => absurd heq (hfront _ hbefore)⟩
              · exact ⟨Or.inr (Or.inr hbehind),
                  fun _ => ⟨removed, hback _ hbehind, handler, hremoved⟩⟩
            · rintro ⟨hbefore | hthis | hbehind, holder⟩
              · exact Or.inl hbefore
              · -- This entry is the one that is taken out, so nothing older is live.
                simp only [Prod.mk.injEq] at hthis
                rcases holder hthis.2.1 with ⟨older, hlt, other, hlive⟩
                have := hle older other hlive
                omega
              · exact Or.inr hbehind

/-- Before an entry of a ledger are the live registrations with smaller numbers. -/
theorem mem_front_iff {handler : Handler} {front back : List (Nat × Matcher × Handler)}
    (hsplit : ledger past = front ++ (number, m, handler) :: back) (older : Nat) (m' : Matcher)
    (other : Handler) :
    (older, m', other) ∈ front ↔ Live past older m' other ∧ older < number := by
  have hincreasing := (increasing_ledger past).2
  rw [hsplit, List.pairwise_append, List.pairwise_cons] at hincreasing
  rcases hincreasing with ⟨_, ⟨hback, _⟩, hfront⟩
  rw [← mem_ledger_iff, hsplit, List.mem_append, List.mem_cons]
  constructor
  · intro hmem
    exact ⟨Or.inl hmem, hfront _ hmem _ List.mem_cons_self⟩
  · rintro ⟨hbefore | hthis | hbehind, hlt⟩
    · exact hbefore
    · have := congrArg Prod.fst hthis
      omega
    · have := hback _ hbehind
      omega

theorem live_of_split {handler : Handler} {front back : List (Nat × Matcher × Handler)}
    (hsplit : ledger past = front ++ (number, m, handler) :: back) :
    Live past number m handler := by
  rw [← mem_ledger_iff, hsplit]
  exact List.mem_append_right _ List.mem_cons_self

/-- A number is that of one registration. -/
theorem live_unique {m' : Matcher} {handler handler' : Handler}
    (h : Live past number m handler) (h' : Live past number m' handler') :
    m = m' ∧ handler = handler' := by
  have hnodup : ((ledger past).map Prod.fst).Nodup :=
    List.pairwise_map.mpr ((increasing_ledger past).2.imp Nat.ne_of_lt)
  rw [← mem_ledger_iff] at h h'
  have hsame := List.inj_on_of_nodup_map hnodup h h' rfl
  simp only [Prod.mk.injEq, true_and] at hsame
  exact hsame

/-- A removal takes the oldest registration of its matcher, and no other one. -/
theorem live_unregister_iff (m m' : Matcher) (handler : Handler) :
    Live (.unregister m :: past) number m' handler ↔
      Live past number m' handler ∧ ¬ Oldest past m number := by
  constructor
  · rintro ⟨hlive, holder⟩
    refine ⟨hlive, ?_⟩
    rintro ⟨⟨handler', hlive'⟩, hfirst⟩
    rcases holder (live_unique hlive hlive').1 with ⟨older, hlt, other, h⟩
    exact hfirst older hlt other h
  · rintro ⟨hlive, hnot⟩
    refine ⟨hlive, fun heq => ?_⟩
    by_contra hnone
    refine hnot ⟨⟨handler, heq ▸ hlive⟩, fun older hlt other h => ?_⟩
    exact hnone ⟨older, hlt, other, h⟩

/-! ### Resolving -/

/-- What a table makes of a target, said of its ledger. -/
theorem resolve_after (past : List RouteChange) (target : String) :
    (after past).resolve target = (ledger past).findSome? fun entry =>
      (entry.2.1.rest? target).map fun rest => (entry.2.2, rest) := by
  rw [resolve, entries_after, List.findSome?_map]
  rfl

/-- A target is resolved by the oldest registration that it matches. -/
theorem resolve_after_iff (past : List RouteChange) (target : String) (route : Handler × String) :
    (after past).resolve target = some route ↔
      ∃ number : Nat, Decides past 0 target number route.1 route.2 := by
  rw [resolve_after]
  constructor
  · intro h
    rcases List.findSome?_eq_some_iff.mp h with ⟨front, ⟨number, m, handler⟩, back, hsplit, hroute,
      hfront⟩
    rcases Option.map_eq_some_iff.mp hroute with ⟨rest, hrest, heq⟩
    rw [Matcher.rest?_eq_some_iff] at hrest
    rw [← heq]
    refine ⟨number, Nat.zero_le _, ⟨m, live_of_split hsplit, hrest⟩, ?_⟩
    intro older _ hlt m' other hlive
    have hnone := hfront _ ((mem_front_iff hsplit older m' other).mpr ⟨hlive, hlt⟩)
    rw [Option.map_eq_none_iff, Matcher.rest?_eq_none_iff] at hnone
    exact hnone
  · rintro ⟨number, _, ⟨m, hlive, hmatches⟩, hfirst⟩
    rw [← mem_ledger_iff] at hlive
    rcases List.append_of_mem hlive with ⟨front, back, hsplit⟩
    refine List.findSome?_eq_some_iff.mpr ⟨front, _, back, hsplit, ?_, ?_⟩
    · rw [(Matcher.rest?_eq_some_iff m target route.2).mpr hmatches]
      rfl
    · -- What is before this entry is older, so it does not match.
      rintro ⟨older, m', other⟩ hbefore
      rcases (mem_front_iff hsplit older m' other).mp hbefore with ⟨holder, hlt⟩
      rw [Option.map_eq_none_iff, Matcher.rest?_eq_none_iff]
      exact hfirst older (Nat.zero_le _) hlt m' other holder

-- The older registration of the pattern goes, and the shorter pattern is older than the other.
example : (after [.unregister ⟨"/a", .leading⟩, .register ⟨"/a", .leading⟩ [.gate],
    .register ⟨"/", .leading⟩ [.drain], .register ⟨"/a", .leading⟩ []]).resolve "/a/b" =
      some ([.drain], "a/b") := by
  decide

/-- A target is resolved to nothing if it matches no registration. -/
theorem resolve_after_eq_none_iff (past : List RouteChange) (target : String) :
    (after past).resolve target = none ↔ ∀ (number : Nat) (m : Matcher) (handler : Handler),
      Live past number m handler → ∀ rest : String, ¬ m.Matches target rest := by
  rw [resolve_after, List.findSome?_eq_none_iff]
  simp only [Option.map_eq_none_iff, Matcher.rest?_eq_none_iff, Prod.forall, mem_ledger_iff]

/-- A matcher is in a table as long as a registration of it is live. -/
theorem has_after_iff (past : List RouteChange) (m : Matcher) :
    (after past).has m = true ↔ ∃ (number : Nat) (handler : Handler), Live past number m handler := by
  simp only [has, entries_after, List.any_map, List.any_eq_true, Function.comp_apply,
    decide_eq_true_eq, Prod.exists, mem_ledger_iff]
  constructor
  · rintro ⟨number, _, handler, hlive, rfl⟩
    exact ⟨number, handler, hlive⟩
  · rintro ⟨number, handler, hlive⟩
    exact ⟨number, m, handler, hlive, rfl⟩

end RouteTable

end ControlPlane
