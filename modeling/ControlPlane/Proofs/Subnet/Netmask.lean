import ControlPlane.Proofs.Address.RoundTrip
import ControlPlane.Proofs.Subnet.Written

/-!
# Netmasks

A subnet can be written with a mask in address form in the place of a length. A mask is
accepted if it has the family of the address and its ones come before its zeros. Then it is
the mask of some length, and the two notations name the same subnet.

Whether ones come before zeros is found out by counting: the ones in front and the zeros at
the end together are all the bits. That this count is right for every word, also for the one
of zeros only and the one of ones only, is `isContiguous_iff`.

## Main definitions

* `Address.IsMask`: The mask of a length, by its bits.
* `Subnet.Notations`: What the two notations come to.

## Theorems

* `leadingOnes_spec`, `trailingZeros_spec`: What is counted.
* `isContiguous_iff`: The masks that pass are those of lengths.
* `Subnet.ofMask?_of_isMask`: A mask and its length give the same subnet.
* `Subnet.isMask_of_ofMask?`: Nothing else is accepted.
* `Subnet.notations_agree`: Both notations agree, and texts of neither are rejected.
-/

namespace ControlPlane

/-! ### Counting bits -/

/-- The numbers at the front that pass a test: all of them do, and the next one does not. -/
theorem takeWhile_range_spec (n : Nat) (p : Nat → Bool) :
    let count := ((List.range n).takeWhile p).length
    count ≤ n ∧ (∀ i < count, p i = true) ∧ (count < n → p count = false) := by
  have hcount : ((List.range n).takeWhile p).length = (List.range n).findIdx (fun i => !p i) := by
    rw [List.takeWhile_eq_take_findIdx_not, List.length_take]
    exact Nat.min_eq_left List.findIdx_le_length
  have hle : (List.range n).findIdx (fun i => !p i) ≤ n := by
    have hlength : (List.range n).findIdx (fun i => !p i) ≤ (List.range n).length :=
      List.findIdx_le_length
    rwa [List.length_range] at hlength
  rw [hcount]
  refine ⟨hle, fun i hi => ?_, fun hlt => ?_⟩
  · have hnot := List.not_of_lt_findIdx hi
    simpa using hnot
  · have hfound := List.findIdx_getElem (w := by rwa [List.length_range])
    simpa using hfound

section

variable {w : Nat}

/-- What is counted at the front: ones, up to the first zero. -/
theorem leadingOnes_spec (m : BitVec w) :
    leadingOnes m ≤ w ∧ (∀ i < leadingOnes m, m.getMsbD i = true) ∧
      (leadingOnes m < w → m.getMsbD (leadingOnes m) = false) :=
  takeWhile_range_spec w fun i => m.getMsbD i

/-- What is counted at the end: zeros, up to the last one. -/
theorem trailingZeros_spec (m : BitVec w) :
    trailingZeros m ≤ w ∧ (∀ i < trailingZeros m, m.getLsbD i = false) ∧
      (trailingZeros m < w → m.getLsbD (trailingZeros m) = true) := by
  have hspec := takeWhile_range_spec w fun i => !m.getLsbD i
  simp only [Bool.not_eq_true', Bool.not_eq_false'] at hspec
  exact hspec

/-- The mask of a length starts with so many ones. -/
theorem leadingOnes_lengthMask {length : Nat} (h : length ≤ w) :
    leadingOnes (lengthMask w length) = length := by
  rcases leadingOnes_spec (lengthMask w length) with ⟨hle, hones, hzero⟩
  simp only [getMsbD_lengthMask h, decide_eq_true_eq, decide_eq_false_iff_not] at hones hzero
  -- A shorter count would have stopped at a one, and a longer one would have passed a zero.
  by_cases hshort : leadingOnes (lengthMask w length) < length
  · exact absurd hshort (hzero (by omega))
  · by_cases hlong : length < leadingOnes (lengthMask w length)
    · exact absurd (hones length hlong) (by omega)
    · omega

/-- And it ends with zeros for the rest. -/
theorem trailingZeros_lengthMask {length : Nat} (h : length ≤ w) :
    trailingZeros (lengthMask w length) = w - length := by
  rcases trailingZeros_spec (lengthMask w length) with ⟨hle, hzeros, hone⟩
  have hbit : ∀ i < w, (lengthMask w length).getLsbD i = decide (w - length ≤ i) := by
    intro i hi
    rw [BitVec.getLsbD_eq_getMsbD, getMsbD_lengthMask h, decide_eq_true hi, Bool.true_and,
      decide_eq_decide]
    omega
  by_cases hshort : trailingZeros (lengthMask w length) < w - length
  · have hlast := hone (by omega)
    rw [hbit _ (by omega), decide_eq_true_eq] at hlast
    omega
  · by_cases hlong : w - length < trailingZeros (lengthMask w length)
    · have hfirst := hzeros (w - length) hlong
      rw [hbit _ (by omega), decide_eq_false_iff_not] at hfirst
      omega
    · omega

/-- The words that pass are the masks of lengths, from no ones at all to ones only. -/
theorem isContiguous_iff (m : BitVec w) :
    isContiguous m = true ↔ ∃ length ≤ w, m = lengthMask w length := by
  rw [isContiguous, beq_iff_eq]
  constructor
  · intro hall
    rcases leadingOnes_spec m with ⟨hle, hones, _⟩
    rcases trailingZeros_spec m with ⟨_, hzeros, _⟩
    refine ⟨leadingOnes m, hle, BitVec.eq_of_getMsbD_eq fun place hplace => ?_⟩
    rw [getMsbD_lengthMask hle]
    by_cases hlt : place < leadingOnes m
    · rw [hones place hlt, decide_eq_true hlt]
    · -- The two counts leave no place between them.
      have hback : w - 1 - place < trailingZeros m := by omega
      rw [decide_eq_false hlt, BitVec.getMsbD_eq_getLsbD, hzeros _ hback, Bool.and_false]
  · rintro ⟨length, hle, hmask⟩
    rw [hmask, leadingOnes_lengthMask hle, trailingZeros_lengthMask hle]
    omega

/-- A word is the mask of a length if its bits are. -/
theorem eq_lengthMask_iff {length : Nat} (h : length ≤ w) (m : BitVec w) :
    m = lengthMask w length ↔ ∀ place < w, m.getMsbD place = decide (place < length) := by
  constructor
  · intro heq place _
    rw [heq, getMsbD_lengthMask h]
  · intro hbits
    refine BitVec.eq_of_getMsbD_eq fun place hplace => ?_
    rw [hbits place hplace, getMsbD_lengthMask h]

end

/-! ### Masks in address form -/

/-- The address is the mask of this length: so many ones, and zeros after them. -/
structure Address.IsMask (m : Address) (length : Nat) : Prop where
  le : length ≤ m.family.width
  bits : ∀ place < m.family.width, m.bit place = decide (place < length)

/-- Every length that a family has is the length of a mask. -/
theorem Address.exists_isMask (family : Address.Family) {length : Nat} (h : length ≤ family.width) :
    ∃ m : Address, m.family = family ∧ m.IsMask length := by
  cases family with
  | v4 => exact ⟨.v4 (lengthMask 32 length), rfl, h, (eq_lengthMask_iff h _).mp rfl⟩
  | v6 => exact ⟨.v6 (lengthMask 128 length), rfl, h, (eq_lengthMask_iff h _).mp rfl⟩

/-- An older mask of a length is the word of that length. -/
theorem Address.eq_of_isMask_v4 {mask : BitVec 32} {length : Nat}
    (h : (Address.v4 mask).IsMask length) : length ≤ 32 ∧ mask = lengthMask 32 length :=
  ⟨h.le, (eq_lengthMask_iff h.le mask).mpr h.bits⟩

/-- So is a newer one. -/
theorem Address.eq_of_isMask_v6 {mask : BitVec 128} {length : Nat}
    (h : (Address.v6 mask).IsMask length) : length ≤ 128 ∧ mask = lengthMask 128 length :=
  ⟨h.le, (eq_lengthMask_iff h.le mask).mpr h.bits⟩

namespace Subnet

variable {a m : Address} {length : Nat} {s : Subnet}

/-- A mask and its length give the same subnet. -/
theorem ofMask?_of_isMask (hfamily : m.family = a.family) (h : m.IsMask length) :
    ofMask? a m = ofLength? a length := by
  cases a with
  | v4 bits =>
      cases m with
      | v4 mask =>
          rcases Address.eq_of_isMask_v4 h with ⟨hle, hmask⟩
          have hpasses := (isContiguous_iff mask).mpr ⟨length, hle, hmask⟩
          rw [ofMask?, if_pos hpasses, ofLength?, if_pos hle, hmask]
      | v6 mask => cases hfamily
  | v6 bits =>
      cases m with
      | v4 mask => cases hfamily
      | v6 mask =>
          rcases Address.eq_of_isMask_v6 h with ⟨hle, hmask⟩
          have hpasses := (isContiguous_iff mask).mpr ⟨length, hle, hmask⟩
          rw [ofMask?, if_pos hpasses, ofLength?, if_pos hle, hmask]

/-- Only masks of lengths are accepted, and only of the family of the address. -/
theorem isMask_of_ofMask? (h : ofMask? a m = some s) :
    m.family = a.family ∧ ∃ length, m.IsMask length := by
  cases a with
  | v4 bits =>
      cases m with
      | v4 mask =>
          rw [ofMask?, Option.ite_none_right_eq_some] at h
          rcases (isContiguous_iff mask).mp h.1 with ⟨length, hle, hmask⟩
          exact ⟨rfl, length, hle, (eq_lengthMask_iff hle mask).mp hmask⟩
      | v6 mask => exact absurd h nofun
  | v6 bits =>
      cases m with
      | v4 mask => exact absurd h nofun
      | v6 mask =>
          rw [ofMask?, Option.ite_none_right_eq_some] at h
          rcases (isContiguous_iff mask).mp h.1 with ⟨length, hle, hmask⟩
          exact ⟨rfl, length, hle, (eq_lengthMask_iff hle mask).mp hmask⟩

/-! ### Notations -/

/-- What the two notations come to for an address. -/
structure Notations (a : Address) : Prop where
  /-- A mask is accepted if it has the family of the address and is that of a length. -/
  accepted : ∀ m, (ofMask? a m).isSome = true ↔ m.family = a.family ∧ ∃ length, m.IsMask length
  /-- It gives the subnet of the length then, and there is one. -/
  same : ∀ (m : Address) (length : Nat), m.family = a.family → m.IsMask length →
    ∃ s, ofMask? a m = some s ∧ ofLength? a length = some s
  /-- Every length of the family has a mask, none and all of the bits included. -/
  masks : ∀ length ≤ a.family.width, ∃ m : Address, m.family = a.family ∧ m.IsMask length
  /-- Whatever the texts of the address, the mask and the length, both notations are read as
      the subnet of the length. -/
  texts : ∀ network mask number m length, Address.ofText? network = some a →
    Address.ofText? mask = some m → Text.Literal number length →
    m.family = a.family → m.IsMask length →
    ∃ s, ofLength? a length = some s ∧ ofText (network ++ "/" ++ mask) = .ok s ∧
      ofText (network ++ "/" ++ number) = .ok s
  /-- So they are in the form in which addresses and numbers are written out. -/
  printed : ∀ (m : Address) (length : Nat), m.family = a.family → m.IsMask length →
    ∃ s, ofLength? a length = some s ∧ ofText (a.toText ++ "/" ++ m.toText) = .ok s ∧
      ofText (a.toText ++ "/" ++ Text.decimal length) = .ok s
  /-- With any other mask the whole text is rejected. -/
  noMask : ∀ network mask m, Address.ofText? network = some a → Address.ofText? mask = some m →
    ¬ (m.family = a.family ∧ ∃ length, m.IsMask length) →
    ofText (network ++ "/" ++ mask) = .error ⟨network ++ "/" ++ mask⟩
  /-- So it is with a length that the family does not have. -/
  tooLong : ∀ network number n, Address.ofText? network = some a → Text.Literal number n →
    a.family.width < n →
    ofText (network ++ "/" ++ number) = .error ⟨network ++ "/" ++ number⟩

/-- Both notations agree, and texts of neither are rejected. -/
theorem notations_agree (a : Address) : Notations a := by
  -- A mask is worth what its length is worth, so both build the same subnet.
  have hsame : ∀ (m : Address) (length : Nat), m.family = a.family → m.IsMask length →
      ∃ s, ofMask? a m = some s ∧ ofLength? a length = some s := by
    intro m length hfamily hmask
    have hle : length ≤ a.family.width := hfamily ▸ hmask.le
    rcases Option.isSome_iff_exists.mp ((isSome_ofLength? a length).mpr hle) with ⟨s, hs⟩
    exact ⟨s, (ofMask?_of_isMask hfamily hmask).trans hs, hs⟩
  -- A text is split at its only slash, and what follows is told apart by how it is read.
  have htexts : ∀ network mask number m length, Address.ofText? network = some a →
      Address.ofText? mask = some m → Text.Literal number length →
      m.family = a.family → m.IsMask length →
      ∃ s, ofLength? a length = some s ∧ ofText (network ++ "/" ++ mask) = .ok s ∧
        ofText (network ++ "/" ++ number) = .ok s := by
    intro network mask number m length hnetwork htext hnumber hfamily hmask
    rcases hsame m length hfamily hmask with ⟨s, hs, hs'⟩
    refine ⟨s, hs', ?_, ?_⟩
    · simp only [ofText, ofText?_slash hnetwork, ofSuffix?_of_ofText? htext, hs]
    · simp only [ofText, ofText?_slash hnetwork, ofSuffix?_of_literal hnumber, hs']
  have haccepted : ∀ m, (ofMask? a m).isSome = true ↔
      m.family = a.family ∧ ∃ length, m.IsMask length := by
    intro m
    constructor
    · intro hsome
      rcases Option.isSome_iff_exists.mp hsome with ⟨s, hs⟩
      exact isMask_of_ofMask? hs
    · rintro ⟨hfamily, length, hmask⟩
      rcases hsame m length hfamily hmask with ⟨s, hs, _⟩
      rw [hs]
      rfl
  constructor
  case accepted => exact haccepted
  case same => exact hsame
  case masks => exact fun length hle => Address.exists_isMask a.family hle
  case texts => exact htexts
  case printed =>
    intro m length hfamily hmask
    exact htexts a.toText m.toText (Text.decimal length) m length (Address.ofText?_toText a)
      (Address.ofText?_toText m) (Text.literal_decimal length) hfamily hmask
  case noMask =>
    intro network mask m hnetwork htext hother
    have hnone : ofMask? a m = none := by
      rw [← Option.not_isSome_iff_eq_none, haccepted m]
      exact hother
    simp only [ofText, ofText?_slash hnetwork, ofSuffix?_of_ofText? htext, hnone]
  case tooLong =>
    intro network number n hnetwork hnumber hlong
    have hnone : ofLength? a n = none := by
      rw [← Option.not_isSome_iff_eq_none, isSome_ofLength?]
      omega
    simp only [ofText, ofText?_slash hnetwork, ofSuffix?_of_literal hnumber, hnone]

end Subnet

end ControlPlane
