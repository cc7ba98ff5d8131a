import ControlPlane.Text.Numeral

/-!
# Numerals Read Back

A number that is written out is read as that number. Readers take every digit there is, so
this holds where no further digit follows, and the lemmas about readers say so (`Ends`).

What readers need to know about a numeral is in `Spells`: its characters have the values of
certain digits, these digits make up the number, and the first of them is zero for the
number zero only. How many there are is known of the characters.

The parts that the notations of addresses show are digits too, of one number in a larger
base, and `ofDigits_places` puts them together again.

## Main definitions

* `Ends`: No digit comes first.
* `Spells`: Characters that write a number out.
* `Literal`: A text that is a number, of whatever size.
* `Numeral`, `Unsigned`: The literals, by the characters they are written with.

## Theorems

* `digits_append`: A reader takes just the digits.
* `spells_toDigits`: The numeral of a number writes it out.
* `unsigned?_toDigits`: The decimal numeral of a number below the bound is read.
* `unsigned?_of_literal`: A number is read under every bound that it keeps to.
* `unsigned?_eq_some_iff`: Which texts are read as which number.
* `ofDigits_places`: The places of a number make it up.
-/

namespace ControlPlane

namespace Text

variable {base n : Nat} {cs rest : List Char} {ds : List Nat}

/-- No digit of the base comes first. -/
def Ends (base : Nat) (cs : List Char) : Prop :=
  ∀ c ∈ cs.head?, digit? base c = none

theorem ends_nil (base : Nat) : Ends base [] := nofun

theorem ends_cons {c : Char} (h : digit? base c = none) (rest : List Char) :
    Ends base (c :: rest) := by
  intro d hd
  cases hd
  exact h

theorem digits_of_ends (h : Ends base cs) : digits base cs = ([], cs) := by
  cases cs with
  | nil => rfl
  | cons c rest => simp only [digits, h c rfl]

/-- A reader takes just the digits. -/
theorem digits_append (hrest : Ends base rest) (h : cs.map (digit? base) = ds.map some) :
    digits base (cs ++ rest) = (ds, rest) := by
  induction cs generalizing ds with
  | nil =>
      have hnone : ds = [] := List.map_eq_nil_iff.mp h.symm
      rw [hnone]
      exact digits_of_ends hrest
  | cons c tail ih =>
      cases ds with
      | nil => exact absurd h (List.cons_ne_nil _ _)
      | cons d others =>
          rw [List.map_cons, List.map_cons, List.cons.injEq] at h
          simp only [List.cons_append, digits, h.1, ih h.2]

/-! ### Values -/

theorem ofDigits_concat (base : Nat) (ds : List Nat) (d : Nat) :
    ofDigits base (ds ++ [d]) = ofDigits base ds * base + d := by
  rw [ofDigits, List.foldl_append]
  rfl

/-- The digits after the first one say what it is worth. -/
theorem foldl_digits (base : Nat) (ds : List Nat) :
    ∀ value, ds.foldl (fun value d => value * base + d) value =
      value * Nat.pow base ds.length + ofDigits base ds := by
  induction ds with
  | nil =>
      intro value
      exact (Nat.mul_one value).symm
  | cons d others ih =>
      intro value
      have hfirst : ofDigits base (d :: others) =
          d * Nat.pow base others.length + ofDigits base others := by
        rw [ofDigits, List.foldl_cons, ih, Nat.zero_mul, Nat.zero_add]
      have hpow : Nat.pow base (d :: others).length = Nat.pow base others.length * base := rfl
      rw [List.foldl_cons, ih, hfirst, hpow, Nat.add_mul, Nat.mul_assoc, Nat.mul_comm base,
        Nat.add_assoc]

theorem ofDigits_cons (base d : Nat) (ds : List Nat) :
    ofDigits base (d :: ds) = d * Nat.pow base ds.length + ofDigits base ds := by
  rw [ofDigits, List.foldl_cons, Nat.zero_mul, Nat.zero_add]
  exact foldl_digits base ds d

/-- The places of a number make it up, as far as they go. -/
theorem ofDigits_places (base n : Nat) :
    ∀ k, ofDigits base ((List.range k).reverse.map fun place => n / Nat.pow base place % base) =
      n % Nat.pow base k := by
  intro k
  induction k with
  | zero => exact (Nat.mod_one n).symm
  | succ k ih =>
      have hsplit : n % Nat.pow base (k + 1) =
          n % Nat.pow base k + Nat.pow base k * (n / Nat.pow base k % base) := Nat.mod_pow_succ
      rw [List.range_succ, List.reverse_append, List.reverse_singleton, List.singleton_append,
        List.map_cons, ofDigits_cons, ih, List.length_map, List.length_reverse, List.length_range,
        hsplit, Nat.add_comm, Nat.mul_comm]

/-! ### Written numbers -/

/-- The characters write the number out, with these values of its digits. -/
structure Spells (base n : Nat) (cs : List Char) (ds : List Nat) : Prop where
  digits : cs.map (digit? base) = ds.map some
  value : ofDigits base ds = n
  /-- Only the number zero begins with a zero. -/
  leading : ds.head? = some 0 → n = 0

theorem length_of_spells (h : Spells base n cs ds) : ds.length = cs.length := by
  rw [← List.length_map some, ← h.digits, List.length_map]

theorem digit?_digitChar (hbase : base ≤ 16) (h : n < base) :
    digit? base (Nat.digitChar n) = some n := by
  have hall : ∀ m < 16, digit? 16 (Nat.digitChar m) = some m := by decide
  have hvalue := hall n (Nat.lt_of_lt_of_le h hbase)
  simp only [digit?, Option.filter_eq_some_iff] at hvalue ⊢
  exact ⟨hvalue.1, decide_eq_true h⟩

/-- The numeral of a number writes it out, by induction on the number of its digits. -/
theorem spells_toDigits (hlt : 1 < base) (hbase : base ≤ 16) (n : Nat) :
    ∃ ds, Spells base n (toDigits base n) ds := by
  unfold toDigits
  induction n using Nat.base_induction base hlt with
  | single m hm =>
      refine ⟨[m], ?_, ?_, ?_⟩
      · rw [Nat.toDigits_of_lt_base hm, List.map_singleton, List.map_singleton,
          digit?_digitChar hbase hm]
      · rw [ofDigits_cons]
        exact Nat.mul_one m
      · exact fun hzero => Option.some.inj hzero
  | digit m k hk hm ih =>
      -- The last digit is what remains of the number, and the others are those of the quotient.
      rcases ih with ⟨ds, hdigits, hvalue, hleading⟩
      refine ⟨ds ++ [k], ?_, ?_, fun hzero => ?_⟩
      · rw [← Nat.toDigits_append_toDigits hlt hm hk, Nat.toDigits_of_lt_base hk, List.map_append,
          hdigits, List.map_singleton, digit?_digitChar hbase hk, List.map_append,
          List.map_singleton]
      · rw [ofDigits_concat, hvalue, Nat.mul_comm]
      · -- The first digit is that of the number without its last digit, which is not zero.
        cases ds with
        | nil =>
            rw [← hvalue] at hm
            exact absurd hm (Nat.lt_irrefl 0)
        | cons d others => exact absurd (hleading hzero) (Nat.ne_of_gt hm)

/-- Its first character is a digit. -/
theorem exists_cons_toDigits (hlt : 1 < base) (hbase : base ≤ 16) (n : Nat) :
    ∃ c tail d, toDigits base n = c :: tail ∧ digit? base c = some d := by
  rcases spells_toDigits hlt hbase n with ⟨ds, h⟩
  cases hcs : toDigits base n with
  | nil => exact absurd hcs Nat.toDigits_ne_nil
  | cons c tail =>
      cases ds with
      | nil =>
          have hdigits := h.digits
          rw [hcs] at hdigits
          exact absurd hdigits (List.cons_ne_nil _ _)
      | cons d others =>
          have hdigits := h.digits
          rw [hcs, List.map_cons, List.map_cons, List.cons.injEq] at hdigits
          exact ⟨c, tail, d, rfl, hdigits.1⟩

/-! ### Literals -/

/-- The plus sign is skipped, and the bound only leaves numbers out. -/
theorem unsigned?_plus (bound : Nat) (rest : List Char) :
    unsigned? bound ('+' :: rest) = (digitsOnly? rest).filter (· < bound) := by
  unfold unsigned?
  extract_lets body
  have hbody : body = rest := rfl
  rw [hbody]
  cases digitsOnly? rest with
  | none => rfl
  | some n => simp only [Option.filter_some, decide_eq_true_eq]

/-- Without a plus sign the whole text has to be digits. -/
theorem unsigned?_of_head_ne (bound : Nat) (h : cs.head? ≠ some '+') :
    unsigned? bound cs = (digitsOnly? cs).filter (· < bound) := by
  unfold unsigned?
  extract_lets body
  have hbody : body = cs := by
    unfold body
    split
    case h_1 rest => exact absurd rfl h
    case h_2 => rfl
  rw [hbody]
  cases digitsOnly? cs with
  | none => rfl
  | some n => simp only [Option.filter_some, decide_eq_true_eq]

/-- The bound plays no part in what is read as digits. -/
theorem exists_unsigned?_eq_filter (cs : List Char) :
    ∃ body, ∀ bound, unsigned? bound cs = (digitsOnly? body).filter (· < bound) := by
  by_cases hplus : cs.head? = some '+'
  · rcases List.head?_eq_some_iff.mp hplus with ⟨rest, hcs⟩
    refine ⟨rest, fun bound => ?_⟩
    rw [hcs]
    exact unsigned?_plus bound rest
  · exact ⟨cs, fun bound => unsigned?_of_head_ne bound hplus⟩

/-- The decimal numeral of a number is a literal of nothing but digits. -/
theorem digitsOnly?_toDigits (n : Nat) : digitsOnly? (toDigits 10 n) = some n := by
  rcases spells_toDigits (by decide : 1 < 10) (by decide) n with ⟨ds, hspells⟩
  have hread : digits 10 (toDigits 10 n) = (ds, []) := by
    rw [← List.append_nil (toDigits 10 n)]
    exact digits_append (ends_nil 10) hspells.digits
  cases ds with
  | nil =>
      have hnone := length_of_spells hspells
      exact absurd (List.eq_nil_of_length_eq_zero hnone.symm) Nat.toDigits_ne_nil
  | cons d others => simp only [digitsOnly?, hread, hspells.value]

/-- The decimal numeral of a number below the bound is read as that number. -/
theorem unsigned?_toDigits {bound : Nat} (h : n < bound) :
    unsigned? bound (toDigits 10 n) = some n := by
  rcases exists_cons_toDigits (by decide : 1 < 10) (by decide) n with ⟨c, tail, d, hcs, hc⟩
  have hplus : (toDigits 10 n).head? ≠ some '+' := by
    intro heq
    rw [hcs, List.head?_cons, Option.some.injEq] at heq
    rw [heq, show digit? 10 '+' = none from rfl] at hc
    cases hc
  rw [unsigned?_of_head_ne bound hplus, digitsOnly?_toDigits, Option.filter_some,
    if_pos (decide_eq_true h)]

/-- The text is a number in decimal notation, of whatever size. -/
def Literal (s : String) (n : Nat) : Prop :=
  unsigned? (n + 1) s.toList = some n

theorem literal_decimal (n : Nat) : Literal (decimal n) n := by
  rw [Literal, decimal, String.toList_ofList]
  exact unsigned?_toDigits (Nat.lt_succ_self n)

/-- A number is read under every bound that it keeps to. -/
theorem unsigned?_of_literal {s : String} (h : Literal s n) (bound : Nat) :
    unsigned? bound s.toList = if n < bound then some n else none := by
  rcases exists_unsigned?_eq_filter s.toList with ⟨body, hread⟩
  rw [Literal, hread, Option.filter_eq_some_iff] at h
  rw [hread, h.1, Option.filter_some]
  simp only [decide_eq_true_eq]

/-! ### Numerals as they are written -/

/-- The characters are decimal digits, at least one, and together they are worth the number.
    Zeros may come first. -/
structure Numeral (cs : List Char) (n : Nat) : Prop where
  nonempty : cs ≠ []
  digits : ∀ c ∈ cs, c.isDigit
  value : Nat.ofDigitChars 10 cs 0 = n

/-- The characters are a numeral of a number below the bound, after an optional plus sign. -/
structure Unsigned (bound : Nat) (cs : List Char) (n : Nat) : Prop where
  numeral : ∃ ds, (cs = ds ∨ cs = '+' :: ds) ∧ Numeral ds n
  lt : n < bound

theorem digit?_ten_eq_some_iff {c : Char} {d : Nat} :
    digit? 10 c = some d ↔ c.isDigit ∧ c.toNat - '0'.toNat = d := by
  have hdigit : c.isDigit ↔ '0' ≤ c ∧ c ≤ '9' := by
    rw [Char.isDigit, Bool.and_eq_true, decide_eq_true_eq, decide_eq_true_eq]
    rfl
  have hnine : '9'.toNat = 57 := rfl
  have hzero : '0'.toNat = 48 := rfl
  unfold digit?
  rw [Option.filter_eq_some_iff, hdigit, decide_eq_true_eq]
  by_cases hrange : '0' ≤ c ∧ c ≤ '9'
  · have hle : c.toNat ≤ '9'.toNat := hrange.2
    rw [if_pos hrange, Option.some.injEq]
    constructor
    · intro h
      exact ⟨hrange, h.1⟩
    · intro h
      exact ⟨h.2, by omega⟩
  · -- A letter is worth ten at least.
    rw [if_neg hrange]
    constructor
    · intro h
      rcases h with ⟨hvalue, hlt⟩
      split at hvalue
      · cases hvalue
        omega
      · split at hvalue
        · cases hvalue
          omega
        · cases hvalue
    · intro h
      exact absurd h.1 hrange

/-- Where nothing is left over, every character was a digit. -/
theorem map_digit?_of_digits (h : digits base cs = (ds, [])) :
    cs.map (digit? base) = ds.map some := by
  induction cs generalizing ds with
  | nil =>
      cases h
      rfl
  | cons c rest ih =>
      rw [digits] at h
      cases hc : digit? base c with
      | none =>
          rw [hc] at h
          cases h
      | some d =>
          rw [hc, Prod.mk.injEq] at h
          have hrest : digits base rest = ((digits base rest).1, []) := by
            rw [← h.2]
          rw [← h.1, List.map_cons, List.map_cons, hc, ih hrest]

/-- The digits of a numeral are worth the same, whichever way they are given. -/
theorem foldl_eq_ofDigitChars (h : cs.map (digit? 10) = ds.map some) (value : Nat) :
    ds.foldl (fun value d => value * 10 + d) value = Nat.ofDigitChars 10 cs value := by
  induction cs generalizing ds value with
  | nil =>
      rw [List.map_eq_nil_iff.mp h.symm]
      rfl
  | cons c rest ih =>
      cases ds with
      | nil => exact absurd h (List.cons_ne_nil _ _)
      | cons d others =>
          rw [List.map_cons, List.map_cons, List.cons.injEq] at h
          have hc := (digit?_ten_eq_some_iff.mp h.1).2
          rw [List.foldl_cons, Nat.ofDigitChars_cons, ih h.2, hc, Nat.mul_comm]

theorem digitsOnly?_eq_some_iff : digitsOnly? cs = some n ↔ Numeral cs n := by
  constructor
  · intro h
    unfold digitsOnly? at h
    split at h
    case h_1 => cases h
    case h_3 => cases h
    case h_2 ds hnonempty hread =>
        cases h
        have hdigits := map_digit?_of_digits hread
        refine ⟨?_, fun c hc => ?_, (foldl_eq_ofDigitChars hdigits 0).symm⟩
        · intro hnil
          rw [hnil] at hdigits
          exact hnonempty (List.map_eq_nil_iff.mp hdigits.symm)
        · have hmem : digit? 10 c ∈ ds.map some := by
            rw [← hdigits]
            exact List.mem_map_of_mem hc
          rcases List.mem_map.mp hmem with ⟨d, _, hd⟩
          exact (digit?_ten_eq_some_iff.mp hd.symm).1
  · intro h
    have hdigits : cs.map (digit? 10) = (cs.map fun c => c.toNat - '0'.toNat).map some := by
      rw [List.map_map]
      exact List.map_congr_left fun c hc => digit?_ten_eq_some_iff.mpr ⟨h.digits c hc, rfl⟩
    have hread := digits_append (ends_nil 10) hdigits
    rw [List.append_nil] at hread
    have hvalue := foldl_eq_ofDigitChars hdigits 0
    unfold digitsOnly?
    cases cs with
    | nil => exact absurd rfl h.nonempty
    | cons c rest => rw [hread, ← h.value, ← hvalue]; rfl

/-- The sign is no digit. -/
theorem head_ne_plus_of_numeral (h : Numeral cs n) : cs.head? ≠ some '+' := by
  intro hplus
  rcases List.head?_eq_some_iff.mp hplus with ⟨rest, hcs⟩
  have hdigit := h.digits '+' (by rw [hcs]; exact List.mem_cons_self)
  exact absurd hdigit (by decide)

theorem unsigned?_eq_some_iff {bound : Nat} :
    unsigned? bound cs = some n ↔ Unsigned bound cs n := by
  constructor
  · intro h
    by_cases hplus : cs.head? = some '+'
    · rcases List.head?_eq_some_iff.mp hplus with ⟨rest, hcs⟩
      rw [hcs, unsigned?_plus, Option.filter_eq_some_iff, digitsOnly?_eq_some_iff] at h
      exact ⟨⟨rest, .inr hcs, h.1⟩, of_decide_eq_true h.2⟩
    · rw [unsigned?_of_head_ne bound hplus, Option.filter_eq_some_iff,
        digitsOnly?_eq_some_iff] at h
      exact ⟨⟨cs, .inl rfl, h.1⟩, of_decide_eq_true h.2⟩
  · intro h
    rcases h.numeral with ⟨ds, hcs | hcs, hnumeral⟩
    · rw [hcs, unsigned?_of_head_ne bound (head_ne_plus_of_numeral hnumeral),
        digitsOnly?_eq_some_iff.mpr hnumeral, Option.filter_some, if_pos (decide_eq_true h.lt)]
    · rw [hcs, unsigned?_plus, digitsOnly?_eq_some_iff.mpr hnumeral, Option.filter_some,
        if_pos (decide_eq_true h.lt)]

end Text

end ControlPlane
