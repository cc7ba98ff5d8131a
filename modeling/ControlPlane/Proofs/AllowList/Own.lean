import ControlPlane.Proofs.Address.RoundTrip
import ControlPlane.Proofs.AllowList.Host
import ControlPlane.Proofs.Subnet.Written

/-!
# A Subnet's Own Address

Whoever puts an address on the list expects the peer with that address to be admitted. This
is so for every address that is its own canonical form. A subnet keeps the family in which
its address was written, though, and peers are compared in canonical form. A mapped address
therefore lies in no subnet that is built from it, of whatever length, and an entry that
consists of it admits nobody: the peer is refused unless it is on the host itself.

## Main definitions

* `Subnet.Own`: What the subnets of an address do with that address.

## Theorems

* `Subnet.contains_single_iff`: Who is in the subnet of one address.
* `Subnet.contains_own_iff`: Which addresses are in their own subnets.
* `AllowList.ofEntries_toText`: The list with one written address.
* `AllowList.isAllowed_single_iff`: Whom that list admits.
* `Subnet.own_iff_canonical`: A subnet holds its own address exactly if that is canonical.
-/

namespace ControlPlane

namespace Subnet

variable {a : Address} {length : Nat} {s : Subnet}

/-- Who is in the subnet of one address: the peers that have it as their canonical form. -/
theorem contains_single_iff (a peer : Address) :
    (single a).contains peer = true ↔ peer.canonical = a := by
  rw [contains_of_ofLength? (ofLength?_width a) peer]
  exact Address.shares_width_iff a peer.canonical

/-- Which addresses are in their own subnets: those that are canonical, whatever the length.
    Any other one changes its family on the way. -/
theorem contains_own_iff (h : ofLength? a length = some s) :
    s.contains a = true ↔ a.canonical = a := by
  rw [contains_of_ofLength? h a]
  constructor
  · intro hshares
    cases a with
    | v4 bits => rfl
    | v6 bits =>
        have hfamily := hshares.family
        cases hmapped : Address.mapped? bits with
        | none => simp only [Address.canonical, hmapped]
        | some older =>
            simp only [Address.canonical, hmapped] at hfamily
            cases hfamily
  · intro hcanonical
    rw [hcanonical]
    exact ⟨rfl, fun _ _ => rfl⟩

end Subnet

namespace AllowList

/-- The list with one written address holds its subnet besides those of the host. -/
theorem ofEntries_toText (a : Address) :
    ofEntries [a.toText] = .ok ⟨loopback ++ [Subnet.single a]⟩ := by
  have hread := Address.ofText?_toText a
  have hsubnet : Subnet.ofText (Text.trim a.toText) = .ok (Subnet.single a) := by
    simp only [Address.trim_of_ofText? hread, Subnet.ofText, Subnet.ofText?_alone hread]
  simp only [ofEntries, readEntries, hsubnet]

/-- Whom that list admits: the host itself, and the peers that have the address as their
    canonical form, except for the one that is all zero. -/
theorem isAllowed_single_iff (a peer : Address) :
    isAllowed ⟨loopback ++ [Subnet.single a]⟩ peer = true ↔
      peer.isHost = true ∨ (peer.isUnspecified = false ∧ peer.canonical = a) := by
  rw [isAllowed_loopback_append]
  simp only [List.mem_singleton, exists_eq_left, Subnet.contains_single_iff]

end AllowList

namespace Subnet

/-- What the subnets of an address do with that address. -/
structure Own (a : Address) : Prop where
  /-- For every length of its family there is one, and it holds the address exactly if that
      is canonical. -/
  lengths : ∀ length ≤ a.family.width, ∃ s, ofLength? a length = some s ∧
    (s.contains a = true ↔ a.canonical = a)
  /-- The subnet of a canonical address alone holds the addresses with the same canonical
      form. -/
  alone : a.canonical = a → ∀ b : Address,
    (single a).contains b = true ↔ a.canonical = b.canonical
  /-- That of any other address holds nobody. -/
  nobody : a.canonical ≠ a → ∀ b : Address, (single a).contains b = false
  /-- The written address is an entry that makes up a list. The list admits the peer with
      that address if it is not all zero and is canonical, or if the peer is on the host. -/
  entry : ∃ list, AllowList.ofEntries [a.toText] = .ok list ∧
    (list.isAllowed a = true ↔
      a.isUnspecified = false ∧ (a.canonical = a ∨ a.isHost = true))

/-- A subnet holds its own address exactly if that is canonical, and so does the list that is
    made of the address alone. -/
theorem own_iff_canonical (a : Address) : Own a := by
  constructor
  case lengths =>
    intro length hle
    rcases Option.isSome_iff_exists.mp ((isSome_ofLength? a length).mpr hle) with ⟨s, hs⟩
    exact ⟨s, hs, contains_own_iff hs⟩
  case alone =>
    intro hcanonical b
    rw [contains_single_iff, hcanonical]
    exact eq_comm
  case nobody =>
    intro hmapped b
    rw [← Bool.not_eq_true, contains_single_iff]
    intro heq
    rw [← heq] at hmapped
    exact hmapped (Address.canonical_canonical b)
  case entry =>
    refine ⟨⟨AllowList.loopback ++ [single a]⟩, AllowList.ofEntries_toText a, ?_⟩
    rw [AllowList.isAllowed_single_iff]
    constructor
    · rintro (hhost | ⟨hzero, hcanonical⟩)
      · exact ⟨Address.isUnspecified_of_isHost hhost, Or.inr hhost⟩
      · exact ⟨hzero, Or.inl hcanonical⟩
    · rintro ⟨hzero, hcanonical | hhost⟩
      · exact Or.inr ⟨hzero, hcanonical⟩
      · exact Or.inl hhost

/-- The subnet of `::ffff:1.2.3.4` alone does not hold that address, and the list with that
    one entry does not admit it. -/
theorem not_contains_own_mapped :
    (single (.v6 (Address.mapped 0x01020304))).contains (.v6 (Address.mapped 0x01020304)) = false ∧
      ∃ list, AllowList.ofEntries ["::ffff:1.2.3.4"] = .ok list ∧
        list.isAllowed (.v6 (Address.mapped 0x01020304)) = false :=
  ⟨by decide, ⟨AllowList.loopback ++ [single (.v6 (Address.mapped 0x01020304))]⟩, rfl, by decide⟩

end Subnet

end ControlPlane
