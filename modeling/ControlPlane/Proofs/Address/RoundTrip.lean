import ControlPlane.Proofs.Address.Parts

/-!
# Written Addresses Read Back

Every address that is written out is read as that address. A reader does not know where the
parts of an address end, so what it makes of one part is stated with whatever follows it. An
octet must not be followed by another digit (`Ends`), and a group neither by a digit nor by a
point, with which it would be the first octet of an older address (`Bounds`).

Newer addresses are written in three ways. A mapped one shows the older address after two
colons and a mark. Of any other one the longest run of zeros is left out, if there are two of
them at least, and two colons stand in its place. For reading it does not matter which zeros
were left out, as long as they are zeros (`take_longestZeroRun`): the reader fills in as many
as are missing.

## Main definitions

* `written`: Groups with a colon between them.
* `Bounds`: What may follow a group.

## Theorems

* `octet?_toDigits`, `group?_toDigits`: A single part is read back.
* `dotted?_dottedText`: An older address is read back.
* `groupRun_written`: A run takes groups as they are written.
* `grouped?_written`, `grouped?_left_out`, `grouped?_mapped`: The three ways to write a newer
  address.
* `take_longestZeroRun`: What is left out are zeros.
* `ofText?_groupedText`: A newer address is read back.
* `ofText?_toText`: Every address is read back.
-/

namespace ControlPlane

namespace Address

open Text (digits digit? ofDigits toDigits decimal hexadecimal Ends Spells ends_nil ends_cons
  digits_append spells_toDigits length_of_spells ofDigits_places digits_of_ends)

variable {cs rest : List Char} {n : Nat}

/-! ### Single parts -/

/-- The digits of a numeral are not followed by more of them. -/
theorem digits_toDigits {base : Nat} (hlt : 1 < base) (hbase : base ≤ 16) (n : Nat)
    (hrest : Ends base rest) :
    ∃ ds, digits base (toDigits base n ++ rest) = (ds, rest) ∧ Spells base n (toDigits base n) ds := by
  rcases spells_toDigits hlt hbase n with ⟨ds, h⟩
  exact ⟨ds, digits_append hrest h.digits, h⟩

theorem ne_nil_of_spells {base : Nat} {ds : List Nat} (h : Spells base n (toDigits base n) ds) :
    ds ≠ [] := by
  intro hnil
  have hlength := length_of_spells h
  rw [hnil] at hlength
  exact Nat.toDigits_ne_nil (List.eq_nil_of_length_eq_zero hlength.symm)

theorem octet?_toDigits (h : n < 256) (hrest : Ends 10 rest) :
    octet? (toDigits 10 n ++ rest) = some (n, rest) := by
  rcases digits_toDigits (by decide : 1 < 10) (by decide) n hrest with ⟨ds, hdigits, hspells⟩
  have hlength : ds.length ≤ 3 := by
    rw [length_of_spells hspells]
    exact (Nat.length_toDigits_le_iff (by decide) (by decide)).mpr (by omega)
  have hleading : ¬ (ds.head? = some 0 ∧ 1 < ds.length) := by
    -- Only the number zero begins with a zero, and its numeral has one digit.
    rintro ⟨hzero, hlong⟩
    rw [length_of_spells hspells, hspells.leading hzero] at hlong
    exact absurd hlong (by decide)
  have hvalue := hspells.value
  simp only [octet?, hdigits, hvalue]
  rw [if_neg]
  simp only [ne_nil_of_spells hspells, hleading, false_or]
  omega

theorem group?_toDigits (h : n < 65536) (hrest : Ends 16 rest) :
    group? (toDigits 16 n ++ rest) = some (n, rest) := by
  rcases digits_toDigits (by decide : 1 < 16) (by decide) n hrest with ⟨ds, hdigits, hspells⟩
  have hlength : ds.length ≤ 4 := by
    rw [length_of_spells hspells]
    exact (Nat.length_toDigits_le_iff (by decide) (by decide)).mpr (by omega)
  simp only [group?, hdigits, hspells.value]
  rw [if_neg]
  simp only [ne_nil_of_spells hspells, false_or]
  omega

theorem group?_of_ends (h : Ends 16 cs) : group? cs = none := by
  simp only [group?, digits_of_ends h, true_or, if_true]

theorem ends_point (rest : List Char) : Ends 10 ('.' :: rest) :=
  ends_cons rfl rest

/-- Numerals with a mark between them: the first one, and the others after a mark each. -/
theorem toList_intercalate (mark : Char) (base n : Nat) (values : List Nat) :
    ((String.singleton mark).intercalate ((n :: values).map fun v =>
      String.ofList (toDigits base v))).toList =
        toDigits base n ++ values.flatMap fun v => mark :: toDigits base v := by
  rw [String.toList_intercalate, String.toList_singleton]
  induction values generalizing n with
  | nil => simp only [List.map_cons, List.map_nil, List.intercalate_singleton,
      String.toList_ofList, List.flatMap_nil, List.append_nil]
  | cons v others ih =>
      have hnext := ih v
      simp only [List.map_cons, String.toList_ofList] at hnext
      simp only [List.map_cons, List.intercalate_cons_cons, String.toList_ofList, hnext,
        List.flatMap_cons, List.append_assoc, List.cons_append, List.nil_append]

/-! ### Older addresses -/

theorem dotted?_octets {a b c d : Nat} (ha : a < 256) (hb : b < 256) (hc : c < 256) (hd : d < 256)
    (hrest : Ends 10 rest) :
    dotted? (toDigits 10 a ++ ([b, c, d].flatMap fun v => '.' :: toDigits 10 v) ++ rest) =
      some (BitVec.ofNat 32 (ofDigits 256 [a, b, c, d]), rest) := by
  simp only [List.flatMap_cons, List.flatMap_nil, List.append_nil, List.append_assoc,
    List.cons_append, dotted?, Option.bind_eq_bind, octet?_toDigits ha (ends_point _),
    octet?_toDigits hb (ends_point _), octet?_toDigits hc (ends_point _), octet?_toDigits hd hrest,
    mark?_cons, Option.bind_some]
  rfl

/-- The octets of an address are its places in base 256. -/
theorem ofDigits_octets (bits : BitVec 32) : ofDigits 256 (octets bits) = bits.toNat := by
  have hplaces : octets bits = (List.range 4).reverse.map fun place =>
    bits.toNat / Nat.pow 256 place % 256 := rfl
  rw [hplaces, ofDigits_places]
  exact Nat.mod_eq_of_lt bits.isLt

/-- An older address that is written out is read back. -/
theorem dotted?_dottedText (bits : BitVec 32) (hrest : Ends 10 rest) :
    dotted? ((dottedText bits).toList ++ rest) = some (bits, rest) := by
  have hlt : ∀ place, bits.toNat / Nat.pow 256 place % 256 < 256 := fun place =>
    Nat.mod_lt _ (by decide)
  have hoctets : ∃ a b c d, octets bits = [a, b, c, d] ∧ a < 256 ∧ b < 256 ∧ c < 256 ∧ d < 256 :=
    ⟨_, _, _, _, rfl, hlt 3, hlt 2, hlt 1, hlt 0⟩
  rcases hoctets with ⟨a, b, c, d, hoctets, ha, hb, hc, hd⟩
  have htext : (dottedText bits).toList =
      toDigits 10 a ++ [b, c, d].flatMap fun v => '.' :: toDigits 10 v := by
    rw [dottedText, hoctets]
    exact toList_intercalate '.' 10 a [b, c, d]
  rw [htext, dotted?_octets ha hb hc hd hrest, ← hoctets, ofDigits_octets, BitVec.ofNat_toNat,
    BitVec.setWidth_eq]

/-! ### Runs of groups -/

/-- The groups of a newer address as they are written, with a colon between them. -/
def written : List Nat → List Char
  | [] => []
  | v :: values => toDigits 16 v ++ values.flatMap fun v => ':' :: toDigits 16 v

theorem toList_groupsText (values : List Nat) : (groupsText values).toList = written values := by
  cases values with
  | nil => rfl
  | cons v others => exact toList_intercalate ':' 16 v others

/-- What may follow a group: no digit that would belong to it, and no point that would make it
    the first octet of an older address. -/
structure Bounds (cs : List Char) : Prop where
  ends : Ends 16 cs
  point : cs.head? ≠ some '.'

theorem bounds_nil : Bounds [] := ⟨ends_nil 16, nofun⟩

theorem bounds_colon (rest : List Char) : Bounds (':' :: rest) :=
  ⟨ends_cons rfl rest, by simp⟩

theorem bounds_flatMap (values : List Nat) (hrest : Bounds rest) :
    Bounds ((values.flatMap fun v => ':' :: toDigits 16 v) ++ rest) := by
  cases values with
  | nil => exact hrest
  | cons v others => exact bounds_colon _

theorem ends_ten (h : Ends 16 cs) : Ends 10 cs := by
  intro c hc
  cases hd : digit? 10 c with
  | none => rfl
  | some d => exact absurd ((h c hc).symm.trans (digit?_sixteen (by decide) hd)) nofun

/-- No point follows the decimal digits in front if there is none among the characters. -/
theorem head?_digits_append (hcs : '.' ∉ cs) (hrest : Bounds rest) :
    (digits 10 (cs ++ rest)).2.head? ≠ some '.' := by
  induction cs with
  | nil =>
      rw [List.nil_append, digits_of_ends (ends_ten hrest.ends)]
      exact hrest.point
  | cons c tail ih =>
      rw [List.mem_cons, not_or] at hcs
      rw [List.cons_append]
      cases hd : digit? 10 c with
      | none =>
          simp only [digits, hd, List.head?_cons, ne_eq, Option.some.injEq]
          exact fun heq => hcs.1 heq.symm
      | some d =>
          simp only [digits, hd]
          exact ih hcs.2

/-- A group is not the first octet of an older address. -/
theorem dotted?_toDigits (n : Nat) (hrest : Bounds rest) :
    dotted? (toDigits 16 n ++ rest) = none := by
  refine dotted?_of_no_point (head?_digits_append (fun hmem => ?_) hrest)
  rcases spells_toDigits (by decide : 1 < 16) (by decide) n with ⟨ds, h⟩
  -- Every character of the numeral is a digit, and the point is none.
  have hpoint : digit? 16 '.' ∈ ds.map some := h.digits ▸ List.mem_map_of_mem hmem
  rcases List.mem_map.mp hpoint with ⟨d, _, hd⟩
  exact absurd hd nofun

/-- Where nothing comes that could belong to a group, a run that is to go on ends. -/
theorem groupRun_of_ends {first : Bool} {body : List Char} (room : Nat)
    (hbody : (if first then some cs else mark? ':' cs) = some body) (hends : Bounds body) :
    groupRun room first cs = ⟨[], false, cs⟩ := by
  have hdotted : dotted? body = none := by
    refine dotted?_of_no_point ?_
    rw [digits_of_ends (ends_ten hends.ends)]
    exact hends.point
  exact groupRun_of_group? room hbody hdotted (group?_of_ends hends.ends)

theorem groupRun_colon {body : List Char} {value : Nat} (room : Nat) (hdotted : dotted? body = none)
    (hgroup : group? body = some (value, rest)) :
    groupRun (room + 1) false (':' :: body) = ⟨value :: (groupRun room false rest).values,
      (groupRun room false rest).dotted, (groupRun room false rest).rest⟩ :=
  groupRun_group room rfl hdotted hgroup

/-- A run takes groups with a colon before each as far as there is room for them, and goes on
    with what follows. -/
theorem groupRun_flatMap (values : List Nat) (hrest : Bounds rest) :
    ∀ room, (∀ v ∈ values, v < 65536) → values.length ≤ room →
      let more := groupRun (room - values.length) false rest
      groupRun room false ((values.flatMap fun v => ':' :: toDigits 16 v) ++ rest) =
        ⟨values ++ more.values, more.dotted, more.rest⟩ := by
  induction values with
  | nil => exact fun room _ _ => rfl
  | cons v others ih =>
      intro room hvalues hroom
      rw [List.forall_mem_cons] at hvalues
      have hnext := bounds_flatMap others hrest
      cases room with
      | zero => exact absurd hroom (Nat.not_succ_le_zero _)
      | succ room =>
          have hlater := ih room hvalues.2 (Nat.le_of_succ_le_succ hroom)
          have hfirst := groupRun_colon room (dotted?_toDigits v hnext)
            (group?_toDigits hvalues.1 hnext.ends)
          simp only [List.flatMap_cons, List.cons_append, List.append_assoc, List.length_cons,
            Nat.add_sub_add_right]
          rw [hfirst, hlater]

/-- A run takes written groups as far as there is room for them, and goes on with what
    follows. -/
theorem groupRun_written {v : Nat} {values : List Nat} {room : Nat} (hrest : Bounds rest)
    (hvalues : ∀ u ∈ v :: values, u < 65536) (hroom : values.length ≤ room) :
    let more := groupRun (room - values.length) false rest
    groupRun (room + 1) true (written (v :: values) ++ rest) =
      ⟨v :: values ++ more.values, more.dotted, more.rest⟩ := by
  rw [List.forall_mem_cons] at hvalues
  have hnext := bounds_flatMap values hrest
  have hlater := groupRun_flatMap values hrest room hvalues.2 hroom
  have hfirst : groupRun (room + 1) true (toDigits 16 v ++ _) = _ :=
    groupRun_group room rfl (dotted?_toDigits v hnext) (group?_toDigits hvalues.1 hnext.ends)
  rw [written, List.append_assoc, hfirst, hlater]
  rfl

/-! ### Newer addresses -/

/-- Eight groups are read as they are. -/
theorem grouped?_written {values : List Nat} (hsize : values.length = 8)
    (hvalues : ∀ v ∈ values, v < 65536) : grouped? (written values) = some (ofGroups values, []) := by
  cases values with
  | nil => exact absurd hsize nofun
  | cons v others =>
      have hothers : others.length = 7 := Nat.succ.inj hsize
      have hrun := groupRun_written bounds_nil hvalues (Nat.le_of_eq hothers)
      rw [List.append_nil, groupRun_nil] at hrun
      simp only [List.append_nil] at hrun
      simp only [grouped?, hrun, hsize, if_true]

/-- Groups around two colons are read with zeros in the place of these. -/
theorem grouped?_colons {front back : List Nat} (hsize : front.length + back.length < 8)
    (hfront : ∀ v ∈ front, v < 65536) (hback : ∀ v ∈ back, v < 65536) :
    grouped? (written front ++ ':' :: ':' :: written back) =
      some (ofGroups (front ++ List.replicate (8 - front.length - back.length) 0 ++ back), []) := by
  have hcolons : ∀ room, groupRun room false (':' :: ':' :: written back) =
      ⟨[], false, ':' :: ':' :: written back⟩ := fun room =>
    groupRun_of_ends room rfl (bounds_colon _)
  -- The first colon looks like the mark before another group, but no group follows it.
  have hfirst : groupRun 8 true (written front ++ ':' :: ':' :: written back) =
      ⟨front, false, ':' :: ':' :: written back⟩ := by
    cases front with
    | nil => exact groupRun_of_ends 8 rfl (bounds_colon _)
    | cons v others =>
        have hothers : others.length ≤ 7 := by
          rw [List.length_cons] at hsize
          omega
        rw [groupRun_written (bounds_colon _) hfront hothers, hcolons]
        simp only [List.append_nil]
  -- The colons stand for one group at least, so there is less room behind them.
  have hsecond : groupRun (7 - front.length) true (written back) = ⟨back, false, []⟩ := by
    cases back with
    | nil => exact groupRun_of_ends _ rfl bounds_nil
    | cons v others =>
        rw [List.length_cons] at hsize
        have hothers : others.length ≤ 7 - front.length - 1 := by omega
        have hroom : 7 - front.length = 7 - front.length - 1 + 1 := by omega
        have hrun := groupRun_written bounds_nil hback hothers
        rw [List.append_nil, groupRun_nil, ← hroom] at hrun
        simp only [List.append_nil] at hrun
        exact hrun
  have hshort : front.length ≠ 8 := by omega
  simp only [grouped?, hfirst, if_neg hshort, Bool.false_eq_true, if_false, mark?_cons,
    Option.bind_eq_bind, Option.bind_some, hsecond]
  rfl

/-- So zeros that were left out come back, if there are two of them at least. -/
theorem grouped?_left_out {values front back : List Nat} {zeros : Nat}
    (hsplit : front ++ (List.replicate zeros 0 ++ back) = values) (hlong : 1 < zeros)
    (hsize : values.length = 8) (hvalues : ∀ v ∈ values, v < 65536) :
    grouped? (written front ++ ':' :: ':' :: written back) = some (ofGroups values, []) := by
  rw [← hsplit] at hsize hvalues
  rw [List.length_append, List.length_append, List.length_replicate] at hsize
  simp only [List.forall_mem_append] at hvalues
  have hzeros : zeros = 8 - front.length - back.length := by omega
  rw [grouped?_colons (by omega) hvalues.1 hvalues.2.2, ← hzeros, ← hsplit, List.append_assoc]

/-! ### Mapped addresses -/

theorem toNat_mapped (bits : BitVec 32) : (mapped bits).toNat = 0xFFFF00000000 + bits.toNat := by
  rw [mapped, BitVec.toNat_append, ← Nat.shiftLeft_add_eq_or_of_lt bits.isLt, Nat.shiftLeft_eq]
  rfl

/-- The older address that a newer one stands for is the rest of its bits after the mark. -/
theorem eq_mapped_of_mapped? {bits : BitVec 128} {older : BitVec 32}
    (h : mapped? bits = some older) : bits = mapped older := by
  unfold mapped? at h
  split at h
  case isTrue hmark =>
    have hsplit : bits.extractLsb' 32 96 ++ bits.extractLsb' 0 32 = bits.extractLsb' 0 128 :=
      BitVec.extractLsb'_append_extractLsb'_eq_extractLsb' rfl
    rw [hmark, Option.some.inj h, BitVec.extractLsb'_eq_self] at hsplit
    exact hsplit.symm
  case isFalse => exact absurd h nofun

/-- Where there is room for two groups an older address ends the run. -/
theorem groupRun_dotted {room : Nat} {body : List Char} {bits : BitVec 32} (hroom : room ≠ 0)
    (hdotted : dotted? body = some (bits, rest)) :
    groupRun (room + 1) false (':' :: body) =
      ⟨[bits.toNat / 65536, bits.toNat % 65536], true, rest⟩ := by
  simp only [groupRun, Bool.false_eq_true, if_false, mark?_cons, if_neg hroom, hdotted]

/-- A mapped address is read back from its dotted form. -/
theorem grouped?_mapped (bits : BitVec 32) :
    grouped? (':' :: ':' :: (toDigits 16 65535 ++ ':' :: (dottedText bits).toList)) =
      some (mapped bits, []) := by
  have hdotted : dotted? (dottedText bits).toList = some (bits, []) := by
    have hread := dotted?_dottedText bits (ends_nil 10)
    rw [List.append_nil] at hread
    exact hread
  -- Nothing stands before the two colons, and one group and four octets stand after them.
  have hfront : ∀ rest, groupRun 8 true (':' :: rest) = ⟨[], false, ':' :: rest⟩ := fun rest =>
    groupRun_of_ends 8 rfl (bounds_colon rest)
  have hback : groupRun 7 true (toDigits 16 65535 ++ ':' :: (dottedText bits).toList) =
      ⟨[65535, bits.toNat / 65536, bits.toNat % 65536], true, []⟩ := by
    have hbounds := bounds_colon (dottedText bits).toList
    have hfirst : groupRun 7 true (toDigits 16 65535 ++ ':' :: (dottedText bits).toList) = _ :=
      groupRun_group 6 rfl (dotted?_toDigits 65535 hbounds)
        (group?_toDigits (by decide) hbounds.ends)
    rw [hfirst, groupRun_dotted (by decide : 5 ≠ 0) hdotted]
  -- The omitted groups are zeros, so the value is that of the last three.
  have hvalue : ofGroups [0, 0, 0, 0, 0, 65535, bits.toNat / 65536, bits.toNat % 65536] =
      mapped bits := by
    refine BitVec.eq_of_toNat_eq ?_
    have hlt := bits.isLt
    have hdigits : ofDigits 65536 [0, 0, 0, 0, 0, 65535, bits.toNat / 65536, bits.toNat % 65536] =
        0xFFFF00000000 + bits.toNat := by
      simp only [ofDigits, List.foldl_cons, List.foldl_nil]
      omega
    rw [ofGroups, hdigits, BitVec.toNat_ofNat, toNat_mapped]
    omega
  simp only [grouped?, hfront, mark?_cons, Option.bind_eq_bind, Option.bind_some, List.length_nil,
    hback]
  rw [← hvalue]
  rfl

/-! ### The longest run of zeros -/

/-- The zeros at the front, and what follows them. -/
theorem replicate_zerosAtFront (values : List Nat) :
    List.replicate (zerosAtFront values) 0 ++ values.drop (zerosAtFront values) = values := by
  have hprefix : values.takeWhile (· == 0) = values.take (zerosAtFront values) :=
    List.prefix_iff_eq_take.mp (List.takeWhile_prefix _)
  have hzeros : values.takeWhile (· == 0) = List.replicate (zerosAtFront values) 0 :=
    List.eq_replicate_iff.mpr ⟨rfl, fun v hmem => beq_iff_eq.mp (List.all_eq_true.mp List.all_takeWhile v hmem)⟩
  rw [← hzeros, hprefix, List.take_append_drop]

/-- The run that is left out consists of zeros, if it is not empty. -/
theorem longestZeroRun_eq (values : List Nat) :
    (longestZeroRun values).2 = 0 ∨
      (longestZeroRun values).2 = zerosAtFront (values.drop (longestZeroRun values).1) := by
  unfold longestZeroRun
  refine List.foldlRecOn (motive := fun best : Nat × Nat => best.2 = 0 ∨
    best.2 = zerosAtFront (values.drop best.1)) _ _ (Or.inl rfl) fun best hbest start _ => ?_
  dsimp only
  split
  · exact Or.inr rfl
  · exact hbest

/-- What is left out of a newer address are zeros. -/
theorem take_longestZeroRun (values : List Nat) :
    let run := longestZeroRun values
    values.take run.1 ++ (List.replicate run.2 0 ++ values.drop (run.1 + run.2)) = values := by
  dsimp only
  rcases longestZeroRun_eq values with hnone | hzeros
  · rw [hnone, List.replicate_zero, List.nil_append, Nat.add_zero, List.take_append_drop]
  · have hrest := replicate_zerosAtFront (values.drop (longestZeroRun values).1)
    rw [← hzeros, List.drop_drop] at hrest
    rw [hrest, List.take_append_drop]

/-! ### Whole addresses -/

/-- The groups of an address are its places in base 65536. -/
theorem ofGroups_groups (bits : BitVec 128) : ofGroups (groups bits) = bits := by
  have hplaces : groups bits = (List.range 8).reverse.map fun place =>
    bits.toNat / Nat.pow 65536 place % 65536 := rfl
  have hlt : bits.toNat < Nat.pow 65536 8 := bits.isLt
  rw [ofGroups, hplaces, ofDigits_places, Nat.mod_eq_of_lt hlt, BitVec.ofNat_toNat,
    BitVec.setWidth_eq]

/-- Groups do not begin like an older address. -/
theorem dotted?_written (values : List Nat) (hrest : Bounds rest) :
    dotted? (written values ++ rest) = none := by
  cases values with
  | nil =>
      refine dotted?_of_no_point ?_
      rw [written, List.nil_append, digits_of_ends (ends_ten hrest.ends)]
      exact hrest.point
  | cons v others =>
      rw [written, List.append_assoc]
      exact dotted?_toDigits v (bounds_flatMap others hrest)

theorem ofChars?_of_grouped? {bits : BitVec 128} (hdotted : dotted? cs = none)
    (h : grouped? cs = some (bits, [])) : ofChars? cs = some (.v6 bits) := by
  simp only [ofChars?, read?, hdotted, h, Option.map_some]

theorem ofText?_groupedText (bits : BitVec 128) : ofText? (groupedText bits) = some (.v6 bits) := by
  unfold ofText? groupedText
  cases hmapped : mapped? bits with
  | some older =>
      have htext : ("::ffff:" ++ dottedText older).toList =
          ':' :: ':' :: (toDigits 16 65535 ++ ':' :: (dottedText older).toList) := by
        rw [String.toList_append]
        rfl
      rw [eq_mapped_of_mapped? hmapped]
      dsimp only
      rw [htext]
      exact ofChars?_of_grouped? (dotted?_written [] (bounds_colon _)) (grouped?_mapped older)
  | none =>
      have hvalues : ∀ v ∈ groups bits, v < 65536 := by
        intro v hmem
        rcases List.mem_map.mp hmem with ⟨place, _, heq⟩
        rw [← heq]
        exact Nat.mod_lt _ (by decide)
      have hsize : (groups bits).length = 8 := rfl
      have hsplit := take_longestZeroRun (groups bits)
      dsimp only at hsplit ⊢
      -- The zeros are left out only if there are at least two of them.
      split
      case isTrue hlong =>
        rw [String.toList_append, String.toList_append, toList_groupsText, toList_groupsText,
          List.append_assoc]
        refine ofChars?_of_grouped? (dotted?_written _ (bounds_colon _)) ?_
        rw [← ofGroups_groups bits, ← grouped?_left_out hsplit hlong hsize hvalues, ofGroups_groups]
        rfl
      case isFalse =>
        have hdotted := dotted?_written (groups bits) bounds_nil
        rw [List.append_nil] at hdotted
        rw [toList_groupsText]
        refine ofChars?_of_grouped? hdotted ?_
        rw [grouped?_written hsize hvalues, ofGroups_groups]

/-- Every address that is written out is read back. -/
theorem ofText?_toText (a : Address) : ofText? a.toText = some a := by
  cases a with
  | v4 bits =>
      have hread := dotted?_dottedText bits (ends_nil 10)
      rw [List.append_nil] at hread
      simp only [ofText?, toText, ofChars?, read?, hread]
  | v6 bits => exact ofText?_groupedText bits

end Address

end ControlPlane
