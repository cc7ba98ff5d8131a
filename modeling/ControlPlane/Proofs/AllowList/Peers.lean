import ControlPlane.Proofs.Config.Reading

/-!
# Peers of an Allow List

A peer of the older family may come in on a socket of the newer one, and then
carries the mapped form of its address. Subnets do not see the difference, since
they look at the canonical form (`contains_mapped`).

A list does see it, in one place. It refuses the all-zero address before it looks
at any subnet, and it does so by the address as it came in. The mapped form of the
all-zero address is not all zero, so it passes that guard, and from there on its
subnets decide about it as about any other peer. The subnets of the host itself do
not hold it, but an entry may, as `0.0.0.0/0` does.

So the two forms of a peer are treated alike exactly if the peer is not the
all-zero address or no entry of the list holds that one.

## Theorems

* `contains_mapped`: A subnet holds both forms of a peer or neither.
* `isUnspecified_mapped`: The mapped form of an address is never all zero.
* `isAllowed_mapped`: Only the subnets decide about a mapped peer.
* `isAllowed_mapped_iff`: When the two forms of a peer are treated alike.
-/

namespace ControlPlane

namespace Address

/-- The upper bits of a mapped address are the mark, and the mark is not zero. -/
theorem mapped_ne_zero (bits : BitVec 32) : mapped bits ≠ 0 := by
  intro hzero
  have hupper := congrArg (BitVec.extractLsb' 32 96) hzero
  have hmark : mappedMark = BitVec.extractLsb' 32 96 (0 : BitVec 128) := by
    simpa only [mapped, BitVec.extractLsb'_append_eq_left] using hupper
  exact absurd hmark (by decide)

theorem isUnspecified_mapped (bits : BitVec 32) : (Address.v6 (mapped bits)).isUnspecified = false :=
  beq_eq_false_iff_ne.mpr (mapped_ne_zero bits)

end Address

/-- A subnet holds both forms of a peer or neither. -/
theorem Subnet.contains_mapped (s : Subnet) (bits : BitVec 32) :
    s.contains (.v6 (Address.mapped bits)) = s.contains (.v4 bits) := by
  have hcanonical : Address.canonical (.v4 bits) = .v4 bits := rfl
  unfold Subnet.contains
  rw [Address.canonical_mapped, hcanonical]

namespace AllowList

variable {entries : List String} {list : AllowList}

/-- Only the subnets decide about a mapped peer. -/
theorem isAllowed_mapped (list : AllowList) (bits : BitVec 32) :
    list.isAllowed (.v6 (Address.mapped bits)) =
      list.subnets.any fun subnet => subnet.contains (.v4 bits) := by
  unfold isAllowed
  rw [Address.isUnspecified_mapped, Bool.not_false, Bool.true_and]
  simp only [Subnet.contains_mapped]

/-- Only the subnets decide about a peer that is not all zero. -/
theorem isAllowed_of_ne_zero (list : AllowList) (bits : BitVec 32) (hne : bits ≠ 0) :
    list.isAllowed (.v4 bits) = list.subnets.any fun subnet => subnet.contains (.v4 bits) := by
  have hguard : (Address.v4 bits).isUnspecified = false := beq_eq_false_iff_ne.mpr hne
  unfold isAllowed
  rw [hguard, Bool.not_false, Bool.true_and]

/-- Some subnet of a list holds the all-zero address exactly if some entry does. -/
theorem any_contains_zero (h : ofEntries entries = .ok list) :
    (list.subnets.any fun subnet => subnet.contains (.v4 0)) = true ↔
      ∃ entry ∈ entries, ∃ s, Subnet.ofText (Text.trim entry) = .ok s ∧
        s.contains (.v4 0) = true := by
  rcases subnets_of_ofEntries h with ⟨subnets, hread, hlist⟩
  have hhost : (loopback.any fun subnet => subnet.contains (.v4 0)) = false := by decide
  rw [hlist, List.any_append, hhost, Bool.false_or, List.any_eq_true]
  constructor
  · rintro ⟨s, hmem, hholds⟩
    rcases (mem_of_readEntries hread s).mp hmem with ⟨entry, hentry, hs⟩
    exact ⟨entry, hentry, s, hs, hholds⟩
  · rintro ⟨entry, hentry, s, hs, hholds⟩
    exact ⟨s, (mem_of_readEntries hread s).mpr ⟨entry, hentry, hs⟩, hholds⟩

/-- The two forms of a peer are treated alike exactly if the peer is not the all-zero
    address or no entry of the list holds that one. The older form of the all-zero
    address is refused by every list. -/
theorem isAllowed_mapped_iff (entries : List String) (list : AllowList)
    (h : ofEntries entries = .ok list) (bits : BitVec 32) :
    (list.isAllowed (.v6 (Address.mapped bits)) = list.isAllowed (.v4 bits) ↔
        bits ≠ 0 ∨ ¬ ∃ entry ∈ entries, ∃ s, Subnet.ofText (Text.trim entry) = .ok s ∧
          s.contains (.v4 0) = true) ∧
      list.isAllowed (.v4 0) = false := by
  have hrefused : list.isAllowed (.v4 0) = false := rfl
  refine ⟨?_, hrefused⟩
  by_cases hzero : bits = 0
  · -- The guard refuses one form, and the entries decide about the other.
    rw [hzero, isAllowed_mapped, hrefused, ← any_contains_zero h, Bool.not_eq_true]
    constructor
    · exact Or.inr
    · rintro (hne | hnone)
      · exact absurd rfl hne
      · exact hnone
  · have hsame : list.isAllowed (.v6 (Address.mapped bits)) = list.isAllowed (.v4 bits) := by
      rw [isAllowed_mapped, isAllowed_of_ne_zero list bits hzero]
    exact ⟨fun _ => Or.inl hzero, fun _ => hsame⟩

/-- A list that is open to the whole older family treats both forms of `8.8.8.8`
    alike. -/
theorem isAllowed_mapped_iff_everybody :
    ofEntries ["0.0.0.0/0"] = .ok ⟨loopback ++ [.v4 ⟨0, 0⟩]⟩ ∧
      isAllowed ⟨loopback ++ [.v4 ⟨0, 0⟩]⟩ (.v6 (Address.mapped 0x08080808)) =
        isAllowed ⟨loopback ++ [.v4 ⟨0, 0⟩]⟩ (.v4 0x08080808) := by
  have hread : ofEntries ["0.0.0.0/0"] = .ok ⟨loopback ++ [.v4 ⟨0, 0⟩]⟩ := by rfl
  have hne : (0x08080808 : BitVec 32) ≠ 0 := by decide
  exact ⟨hread, (isAllowed_mapped_iff _ _ hread 0x08080808).1.mpr (Or.inl hne)⟩

/-- The same list refuses the all-zero address in one form and admits it in the
    other. -/
theorem isAllowed_mapped_zero_ne :
    ∃ list, ofEntries ["0.0.0.0/0"] = .ok list ∧
      list.isAllowed (.v4 0) = false ∧ list.isAllowed (.v6 (Address.mapped 0)) = true :=
  ⟨⟨loopback ++ [.v4 ⟨0, 0⟩]⟩, rfl, rfl, by decide⟩

end AllowList

end ControlPlane
