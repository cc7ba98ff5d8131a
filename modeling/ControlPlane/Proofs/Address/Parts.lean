import ControlPlane.Address.Text
import ControlPlane.Proofs.Text.Numeral
import ControlPlane.Text.Blank

/-!
# The Characters of Written Addresses

A text that is read as an address consists of hexadecimal digits, points and colons. Other
notations build on that: a slash cannot be part of an address, so what stands before the
first one is the whole address, and there are no blanks to be cut off.

Nor is a text that is read as an address a number. Readers that try a number first take
nothing away from those that try an address afterwards.

Each reader leaves what follows its last character, so the statement about readers is that
they have passed over such characters only (`Passed`), and it is put together as they are.

## Main definitions

* `isPart`: A character that addresses are written with.
* `Passed`: What was read consists of such characters.

## Theorems

* `passed_digits`, `passed_dotted?`, `passed_groupRun`, `passed_grouped?`, `passed_read?`: What
  readers have passed over.
* `isPart_of_ofChars?`: An address is written with such characters.
* `trim_of_ofText?`: A written address has no blanks around it.
* `ofChars?_of_unsigned?`: A number is no address.
-/

namespace ControlPlane

namespace Address

open Text (digits digit? digitsOnly? unsigned? ofDigits)

variable {cs rest : List Char}

/-- A character that addresses are written with. -/
def isPart (c : Char) : Bool :=
  (digit? 16 c).isSome || c = '.' || c = ':'

/-- What was read, from all the characters to those that follow, consists of characters
    that addresses are written with. -/
def Passed (cs rest : List Char) : Prop :=
  ∃ used, cs = used ++ rest ∧ ∀ c ∈ used, isPart c = true

theorem passed_refl (cs : List Char) : Passed cs cs :=
  ⟨[], rfl, fun _ hmem => absurd hmem List.not_mem_nil⟩

theorem passed_cons {c : Char} (h : isPart c = true) (hrest : Passed cs rest) :
    Passed (c :: cs) rest := by
  rcases hrest with ⟨used, hcs, hused⟩
  refine ⟨c :: used, by rw [hcs, List.cons_append], fun d hmem => ?_⟩
  rcases List.mem_cons.mp hmem with heq | hlater
  · rw [heq]
    exact h
  · exact hused d hlater

theorem passed_trans {middle : List Char} (h : Passed cs middle) (h' : Passed middle rest) :
    Passed cs rest := by
  rcases h with ⟨used, hcs, hused⟩
  rcases h' with ⟨used', hmiddle, hused'⟩
  refine ⟨used ++ used', by rw [hcs, hmiddle, List.append_assoc], fun d hmem => ?_⟩
  rcases List.mem_append.mp hmem with hfirst | hsecond
  · exact hused d hfirst
  · exact hused' d hsecond

/-! ### Readers -/

/-- Every digit is a hexadecimal digit. -/
theorem digit?_sixteen {base d : Nat} {c : Char} (hbase : base ≤ 16) (h : digit? base c = some d) :
    digit? 16 c = some d := by
  simp only [digit?, Option.filter_eq_some_iff, decide_eq_true_eq] at h ⊢
  exact ⟨h.1, Nat.lt_of_lt_of_le h.2 hbase⟩

theorem isPart_of_digit? {base d : Nat} {c : Char} (hbase : base ≤ 16) (h : digit? base c = some d) :
    isPart c = true := by
  rw [isPart, digit?_sixteen hbase h]
  rfl

theorem passed_digits {base : Nat} (hbase : base ≤ 16) (cs : List Char) :
    Passed cs (digits base cs).2 := by
  induction cs with
  | nil => exact passed_refl []
  | cons c tail ih =>
      cases hd : digit? base c with
      | none =>
          simp only [digits, hd]
          exact passed_refl _
      | some d =>
          simp only [digits, hd]
          exact passed_cons (isPart_of_digit? hbase hd) ih

theorem rest_of_octet? {value : Nat} (h : octet? cs = some (value, rest)) :
    rest = (digits 10 cs).2 := by
  simp only [octet?] at h
  split at h
  · exact absurd h nofun
  · exact (Prod.mk.inj (Option.some.inj h)).2.symm

theorem passed_octet? {value : Nat} (h : octet? cs = some (value, rest)) : Passed cs rest := by
  rw [rest_of_octet? h]
  exact passed_digits (by decide) cs

@[simp] theorem mark?_cons (c : Char) (rest : List Char) : mark? c (c :: rest) = some rest := by
  simp only [mark?, if_true]

theorem cons_of_mark? {c : Char} (h : mark? c cs = some rest) : cs = c :: rest := by
  cases cs with
  | nil => exact absurd h nofun
  | cons d tail =>
      simp only [mark?] at h
      split at h
      · rename_i heq
        rw [heq, Option.some.inj h]
      · exact absurd h nofun

theorem passed_mark? {c : Char} (hc : isPart c = true) (h : mark? c cs = some rest) :
    Passed cs rest := by
  rw [cons_of_mark? h]
  exact passed_cons hc (passed_refl rest)

/-- An octet after a point. -/
theorem passed_point {value : Nat} {body : List Char} (hmark : mark? '.' cs = some body)
    (h : octet? body = some (value, rest)) : Passed cs rest :=
  passed_trans (passed_mark? rfl hmark) (passed_octet? h)

theorem passed_dotted? {bits : BitVec 32} (h : dotted? cs = some (bits, rest)) :
    Passed cs rest := by
  simp only [dotted?, Option.bind_eq_bind, Option.bind_eq_some_iff] at h
  rcases h with ⟨⟨a, first⟩, ha, body₁, hmark₁, ⟨b, second⟩, hb, body₂, hmark₂, ⟨c, third⟩, hc, body₃,
    hmark₃, ⟨d, last⟩, hd, heq⟩
  rw [← (Prod.mk.inj (Option.some.inj heq)).2]
  exact passed_trans (passed_octet? ha) (passed_trans (passed_point hmark₁ hb)
    (passed_trans (passed_point hmark₂ hc) (passed_point hmark₃ hd)))

theorem rest_of_group? {value : Nat} (h : group? cs = some (value, rest)) :
    rest = (digits 16 cs).2 := by
  simp only [group?] at h
  split at h
  · exact absurd h nofun
  · exact (Prod.mk.inj (Option.some.inj h)).2.symm

theorem passed_group? {value : Nat} (h : group? cs = some (value, rest)) : Passed cs rest := by
  rw [rest_of_group? h]
  exact passed_digits (by decide) cs

/-- Groups, by induction on the room for them. -/
theorem passed_groupRun (room : Nat) :
    ∀ (first : Bool) (cs : List Char), Passed cs (groupRun room first cs).rest := by
  induction room with
  | zero => exact fun _ cs => passed_refl cs
  | succ room ih =>
      intro first cs
      unfold groupRun
      cases hbody : (if first then some cs else mark? ':' cs) with
      | none => exact passed_refl cs
      | some body =>
          have hpassed : Passed cs body := by
            cases first with
            | true =>
                rw [← Option.some.inj hbody]
                exact passed_refl cs
            | false => exact passed_mark? rfl hbody
          dsimp only
          split
          case h_1 bits rest hdotted =>
            split at hdotted
            · exact absurd hdotted nofun
            · exact passed_trans hpassed (passed_dotted? hdotted)
          case h_2 =>
            cases hgroup : group? body with
            | none =>
                -- A mark without a group after it is given back.
                exact passed_refl cs
            | some read =>
                exact passed_trans hpassed (passed_trans (passed_group? hgroup) (ih false read.2))

theorem passed_grouped? {bits : BitVec 128} (h : grouped? cs = some (bits, rest)) :
    Passed cs rest := by
  have hfront := passed_groupRun 8 true cs
  unfold grouped? at h
  simp only at h
  split at h
  · rw [← (Prod.mk.inj (Option.some.inj h)).2]
    exact hfront
  · split at h
    · exact absurd h nofun
    · simp only [Option.bind_eq_bind, Option.bind_eq_some_iff] at h
      rcases h with ⟨body, hmark, body', hmark', heq⟩
      rw [← (Prod.mk.inj (Option.some.inj heq)).2]
      exact passed_trans hfront (passed_trans (passed_mark? rfl hmark)
        (passed_trans (passed_mark? rfl hmark') (passed_groupRun _ true body')))

theorem passed_read? {a : Address} (h : read? cs = some (a, rest)) : Passed cs rest := by
  unfold read? at h
  split at h
  case h_1 bits after hdotted =>
    rw [← (Prod.mk.inj (Option.some.inj h)).2]
    exact passed_dotted? hdotted
  case h_2 =>
    rcases Option.map_eq_some_iff.mp h with ⟨⟨bits, after⟩, hgrouped, heq⟩
    rw [← (Prod.mk.inj heq).2]
    exact passed_grouped? hgrouped

/-! ### Whole texts -/

theorem read?_of_ofChars? {a : Address} (h : ofChars? cs = some a) : read? cs = some (a, []) := by
  unfold ofChars? at h
  split at h
  case h_1 b hread => rw [hread, Option.some.inj h]
  case h_2 => exact absurd h nofun

/-- An address is written with digits, points and colons only. -/
theorem isPart_of_ofChars? {a : Address} (h : ofChars? cs = some a) :
    ∀ c ∈ cs, isPart c = true := by
  rcases passed_read? (read?_of_ofChars? h) with ⟨used, hcs, hused⟩
  rw [List.append_nil] at hcs
  rw [hcs]
  exact hused

theorem slash_not_mem_of_ofChars? {a : Address} (h : ofChars? cs = some a) : '/' ∉ cs := fun hmem =>
  absurd (isPart_of_ofChars? h '/' hmem) (by decide)

/-! ### Blanks -/

theorem isBlank_of_isPart {c : Char} (h : isPart c = true) : Text.isBlank c = false := by
  have hranges : (0x30 ≤ c.toNat ∧ c.toNat ≤ 0x3A) ∨ (0x61 ≤ c.toNat ∧ c.toNat ≤ 0x66) ∨
      (0x41 ≤ c.toNat ∧ c.toNat ≤ 0x46) ∨ c.toNat = 0x2E := by
    simp only [isPart, Bool.or_eq_true, decide_eq_true_eq] at h
    rcases h with (hdigit | hpoint) | hcolon
    · unfold digit? at hdigit
      dsimp only at hdigit
      split at hdigit
      case isTrue hrange => exact Or.inl ⟨hrange.1, Nat.le_trans hrange.2 (by decide)⟩
      case isFalse =>
        split at hdigit
        case isTrue hrange => exact Or.inr (Or.inl hrange)
        case isFalse =>
          split at hdigit
          case isTrue hrange => exact Or.inr (Or.inr (Or.inl hrange))
          case isFalse => exact absurd hdigit Bool.false_ne_true
    · rw [hpoint]
      decide
    · rw [hcolon]
      decide
  simp only [Text.isBlank, Bool.or_eq_false_iff, Bool.and_eq_false_iff, decide_eq_false_iff_not,
    beq_eq_false_iff_ne]
  omega

theorem dropWhile_of_forall_not {p : Char → Bool} {cs : List Char} (h : ∀ c ∈ cs, p c = false) :
    cs.dropWhile p = cs := by
  cases cs with
  | nil => rfl
  | cons c tail =>
      rw [List.dropWhile_cons_of_neg]
      rw [h c List.mem_cons_self]
      exact Bool.false_ne_true

/-- A written address has no blanks around it. -/
theorem trim_of_ofText? {s : String} {a : Address} (h : ofText? s = some a) : Text.trim s = s := by
  have hnone : ∀ c ∈ s.toList, Text.isBlank c = false := fun c hmem =>
    isBlank_of_isPart (isPart_of_ofChars? h c hmem)
  rw [Text.trim, Text.trimBlank, dropWhile_of_forall_not hnone, dropWhile_of_forall_not,
    List.reverse_reverse, String.ofList_toList]
  exact fun c hmem => hnone c (List.mem_reverse.mp hmem)

/-! ### Numbers -/

/-- Without a point after the first digits there is no older address. -/
theorem dotted?_of_no_point (h : (digits 10 cs).2.head? ≠ some '.') : dotted? cs = none := by
  cases hdotted : dotted? cs with
  | none => rfl
  | some read =>
      simp only [dotted?, Option.bind_eq_bind, Option.bind_eq_some_iff] at hdotted
      rcases hdotted with ⟨⟨a, first⟩, ha, body, hmark, _⟩
      have hpoint := cons_of_mark? hmark
      rw [rest_of_octet? ha] at hpoint
      rw [hpoint] at h
      exact absurd rfl h

/-- A run goes on with a group that is read, if no older address is. -/
theorem groupRun_group {first : Bool} {body : List Char} {value : Nat} (room : Nat)
    (hbody : (if first then some cs else mark? ':' cs) = some body) (hdotted : dotted? body = none)
    (hgroup : group? body = some (value, rest)) :
    groupRun (room + 1) first cs = ⟨value :: (groupRun room false rest).values,
      (groupRun room false rest).dotted, (groupRun room false rest).rest⟩ := by
  simp only [groupRun, hbody, hdotted, ite_self, hgroup]

/-- A run ends where nothing can be read. -/
theorem groupRun_of_group? {first : Bool} {body : List Char} (room : Nat)
    (hbody : (if first then some cs else mark? ':' cs) = some body) (hdotted : dotted? body = none)
    (hgroup : group? body = none) : groupRun room first cs = ⟨[], false, cs⟩ := by
  cases room with
  | zero => rfl
  | succ room => simp only [groupRun, hbody, hdotted, ite_self, hgroup]

theorem groupRun_nil (room : Nat) : groupRun room false [] = ⟨[], false, []⟩ := by
  cases room <;> rfl

/-- Nothing but digits of a number is nothing but hexadecimal digits. -/
theorem digits_sixteen_of_ten (h : (digits 10 cs).2 = []) : (digits 16 cs).2 = [] := by
  induction cs with
  | nil => rfl
  | cons c tail ih =>
      cases hd : digit? 10 c with
      | none =>
          simp only [digits, hd] at h
          exact absurd h (List.cons_ne_nil _ _)
      | some d =>
          simp only [digits, hd] at h
          simp only [digits, digit?_sixteen (by decide) hd]
          exact ih h

/-- A text of nothing but digits is no address: no point and no colon follows them. -/
theorem ofChars?_of_digitsOnly? {n : Nat} (h : digitsOnly? cs = some n) : ofChars? cs = none := by
  have hten : (digits 10 cs).2 = [] := by
    unfold digitsOnly? at h
    split at h
    case h_1 => exact absurd h nofun
    case h_2 hread => rw [hread]
    case h_3 => exact absurd h nofun
  have hdotted : dotted? cs = none := dotted?_of_no_point (by rw [hten]; exact nofun)
  have hstart : mark? ':' cs = none := by
    cases hmark : mark? ':' cs with
    | none => rfl
    | some rest =>
        rw [cons_of_mark? hmark] at h
        exact absurd h nofun
  have hgrouped : grouped? cs = none := by
    unfold grouped?
    cases hgroup : group? cs with
    | none =>
        rw [groupRun_of_group? 8 rfl hdotted hgroup]
        simp only [hstart]
        rfl
    | some read =>
        -- The first group takes all the characters, and one group is no address.
        have hrest : read.2 = [] := (rest_of_group? hgroup).trans (digits_sixteen_of_ten hten)
        rw [groupRun_group 7 rfl hdotted hgroup, hrest, groupRun_nil]
        rfl
  simp only [ofChars?, read?, hdotted, hgrouped, Option.map_none]

/-- A number is no address. -/
theorem ofChars?_of_unsigned? {bound n : Nat} (h : unsigned? bound cs = some n) :
    ofChars? cs = none := by
  by_cases hplus : cs.head? = some '+'
  · -- A plus sign is no part of an address.
    cases haddress : ofChars? cs with
    | none => rfl
    | some a =>
        have hpart := isPart_of_ofChars? haddress '+' (List.mem_of_head? hplus)
        exact absurd hpart (by decide)
  · rw [Text.unsigned?_of_head_ne bound hplus, Option.filter_eq_some_iff] at h
    exact ofChars?_of_digitsOnly? h.1

end Address

end ControlPlane
