import ControlPlane.Subnet

/-!
# Subnets by Their First Bits

A subnet with a length holds the peers that share so many bits with its address. Here this
is said of the bits themselves, which are counted from the front, and masks are not
mentioned any more.

Peers are compared in canonical form, but the address of a subnet keeps the family in which
it was written. No canonical address is of the mapped kind (`canonical_ne_mapped`). So the
subnet of a mapped address holds peers of the newer family only, and once its length
reaches into the last bits it holds nobody.

## Main definitions

* `Address.bit`: A bit of an address.
* `Address.Shares`: An address that begins as another one does.
* `Subnet.Exact`: What the subnet of an address and a length comes to.

## Theorems

* `Address.canonical_canonical`: The canonical form is its own canonical form.
* `Address.canonical_ne_mapped`: A mapped address is no canonical form.
* `getMsbD_lengthMask`: The bits of a mask.
* `Block.contains_around_iff`: Who is in a block.
* `Subnet.ofLength?_width`: The subnet of one address is that of all its bits.
* `Subnet.contains_of_ofLength?`: Who is in the subnet of an address and a length.
* `Subnet.exact_of_length`: Subnets go by the first bits, for all addresses and lengths.
-/

namespace ControlPlane

namespace Address

/-- The bit of an address at this place, counted from the front. -/
def bit : Address → Nat → Bool
  | .v4 bits, place => bits.getMsbD place
  | .v6 bits, place => bits.getMsbD place

/-- The other address has the family of this one and begins with the same bits. -/
structure Shares (length : Nat) (a b : Address) : Prop where
  family : b.family = a.family
  bits : ∀ place < length, b.bit place = a.bit place

/-! ### Canonical forms -/

/-- The canonical form is its own canonical form. -/
theorem canonical_canonical (a : Address) : a.canonical.canonical = a.canonical := by
  cases a with
  | v4 bits => rfl
  | v6 bits =>
      cases hmapped : mapped? bits with
      | none => simp only [canonical, hmapped]
      | some older => simp only [canonical, hmapped]

/-- A mapped address is no canonical form. -/
theorem canonical_ne_mapped (a : Address) (bits : BitVec 32) : a.canonical ≠ .v6 (mapped bits) := by
  intro heq
  have hsame := canonical_canonical a
  rw [heq, canonical_mapped] at hsame
  exact absurd hsame nofun

/-- Addresses that share all their bits are the same. -/
theorem shares_width_iff (a b : Address) : Shares a.family.width a b ↔ b = a := by
  constructor
  · rintro ⟨hfamily, hbits⟩
    cases a with
    | v4 bits =>
        cases b with
        | v4 other => exact congrArg _ (BitVec.eq_of_getMsbD_eq hbits)
        | v6 other => exact absurd hfamily nofun
    | v6 bits =>
        cases b with
        | v4 other => exact absurd hfamily nofun
        | v6 other => exact congrArg _ (BitVec.eq_of_getMsbD_eq hbits)
  · intro heq
    rw [heq]
    exact ⟨rfl, fun _ _ => rfl⟩

end Address

/-! ### Blocks -/

section

variable {w length : Nat}

/-- A mask has ones as far as its length goes. -/
theorem getMsbD_lengthMask (h : length ≤ w) (place : Nat) :
    (lengthMask w length).getMsbD place = decide (place < length) := by
  rw [lengthMask, BitVec.getMsbD_shiftLeft, BitVec.getMsbD_allOnes, decide_eq_decide]
  omega

/-- Who is in a block: the addresses that begin as its own does. -/
theorem Block.contains_around_iff (h : length ≤ w) (a b : BitVec w) :
    (Block.around a (lengthMask w length)).contains b = true ↔
      ∀ place < length, b.getMsbD place = a.getMsbD place := by
  have hmask : ∀ (c : BitVec w) (place : Nat), (c &&& lengthMask w length).getMsbD place =
      (c.getMsbD place && decide (place < length)) := by
    intro c place
    rw [BitVec.getMsbD_and, getMsbD_lengthMask h]
  rw [Block.contains, Block.around, beq_iff_eq]
  constructor
  · intro heq place hlt
    have hplace := congrArg (fun c => BitVec.getMsbD c place) heq
    simp only [hmask, hlt, decide_true, Bool.and_true] at hplace
    exact hplace
  · intro hbits
    refine BitVec.eq_of_getMsbD_eq fun place _ => ?_
    rw [hmask, hmask]
    by_cases hlt : place < length
    · rw [hbits place hlt]
    · -- The mask has taken both bits away.
      rw [decide_eq_false hlt, Bool.and_false, Bool.and_false]

end

namespace Subnet

variable {a : Address} {length : Nat} {s : Subnet}

/-! ### Subnets -/

/-- There is a subnet for every length that the family has. -/
theorem isSome_ofLength? (a : Address) (length : Nat) :
    (ofLength? a length).isSome = true ↔ length ≤ a.family.width := by
  cases a with
  | v4 bits => simp only [ofLength?, Option.isSome_ite, Address.family, Address.Family.width]
  | v6 bits => simp only [ofLength?, Option.isSome_ite, Address.family, Address.Family.width]

/-- The subnet of one address is that of all its bits. -/
theorem ofLength?_width (a : Address) : ofLength? a a.family.width = some (single a) := by
  have hones : ∀ w, lengthMask w w = BitVec.allOnes w := by
    intro w
    rw [lengthMask, Nat.sub_self, BitVec.shiftLeft_zero]
  cases a with
  | v4 bits =>
      simp only [ofLength?, Address.family, Address.Family.width, Nat.le_refl, if_true, hones, single]
  | v6 bits =>
      simp only [ofLength?, Address.family, Address.Family.width, Nat.le_refl, if_true, hones, single]

/-- Who is in the subnet of an address and a length: the peers whose canonical form begins as
    the address does. -/
theorem contains_of_ofLength? (h : ofLength? a length = some s) (peer : Address) :
    s.contains peer = true ↔ Address.Shares length a peer.canonical := by
  have hle := (isSome_ofLength? a length).mp (by rw [h]; rfl)
  cases a with
  | v4 bits =>
      have hle32 : length ≤ 32 := hle
      rw [ofLength?, if_pos hle32, Option.some.injEq] at h
      rw [← h]
      unfold contains
      cases peer.canonical with
      | v4 other =>
          exact (Block.contains_around_iff hle32 bits other).trans
            ⟨fun hbits => ⟨rfl, hbits⟩, Address.Shares.bits⟩
      | v6 other => exact ⟨nofun, fun hshares => absurd hshares.family nofun⟩
  | v6 bits =>
      have hle128 : length ≤ 128 := hle
      rw [ofLength?, if_pos hle128, Option.some.injEq] at h
      rw [← h]
      unfold contains
      cases peer.canonical with
      | v4 other => exact ⟨nofun, fun hshares => absurd hshares.family nofun⟩
      | v6 other =>
          exact (Block.contains_around_iff hle128 bits other).trans
            ⟨fun hbits => ⟨rfl, hbits⟩, Address.Shares.bits⟩

/-- What the subnet of an address and a length comes to. -/
structure Exact (a : Address) (length : Nat) : Prop where
  /-- There is one exactly if the family of the address has so many bits. -/
  exists_iff : (ofLength? a length).isSome = true ↔ length ≤ a.family.width
  /-- It holds the peers whose canonical form has the family of the address and the same
      first bits. -/
  holds : ∀ s, ofLength? a length = some s → ∀ peer,
    s.contains peer = true ↔
      peer.canonical.family = a.family ∧
        ∀ place < length, peer.canonical.bit place = a.bit place
  /-- Without a bit in common it holds the canonical addresses of the family and no others. -/
  all : length = 0 → ∃ s, ofLength? a length = some s ∧ ∀ peer,
    s.contains peer = true ↔ peer.canonical.family = a.family
  /-- With all bits in common it holds one canonical address, if the address is canonical. -/
  one : length = a.family.width → a.canonical = a → ∃ s, ofLength? a length = some s ∧
    ∃ peer : Address, peer.canonical = peer ∧ s.contains peer = true ∧
      ∀ other : Address, other.canonical = other → s.contains other = true → other = peer

/-- Subnets go by the first bits of an address, for all addresses and lengths. -/
theorem exact_of_length (a : Address) (length : Nat) : Exact a length := by
  have hsome := isSome_ofLength? a length
  constructor
  case exists_iff => exact hsome
  case holds =>
    intro s hs peer
    rw [contains_of_ofLength? hs peer]
    exact ⟨fun h => ⟨h.family, h.bits⟩, fun h => ⟨h.1, h.2⟩⟩
  case all =>
    intro hzero
    rcases Option.isSome_iff_exists.mp (hsome.mpr (hzero ▸ Nat.zero_le _)) with ⟨s, hs⟩
    refine ⟨s, hs, fun peer => ?_⟩
    rw [contains_of_ofLength? hs peer, hzero]
    exact ⟨Address.Shares.family, fun h => ⟨h, fun _ hlt => absurd hlt (Nat.not_lt_zero _)⟩⟩
  case one =>
    intro hwidth hcanonical
    rcases Option.isSome_iff_exists.mp (hsome.mpr (Nat.le_of_eq hwidth)) with ⟨s, hs⟩
    have hholds : ∀ peer, s.contains peer = true ↔ peer.canonical = a := by
      intro peer
      rw [contains_of_ofLength? hs peer, hwidth]
      exact Address.shares_width_iff a peer.canonical
    refine ⟨s, hs, a, hcanonical, (hholds a).mpr hcanonical, fun other hown hother => ?_⟩
    rw [← hown]
    exact (hholds other).mp hother

/-- The subnet of all bits of `::ffff:1.2.3.4` holds nobody. -/
theorem ofLength?_mapped_nobody :
    ∃ s, ofLength? (.v6 (Address.mapped 0x01020304)) 128 = some s ∧
      ¬ ∃ peer : Address, s.contains peer = true := by
  have hsome : (ofLength? (.v6 (Address.mapped 0x01020304)) 128).isSome = true := rfl
  rcases Option.isSome_iff_exists.mp hsome with ⟨s, hs⟩
  refine ⟨s, hs, ?_⟩
  rintro ⟨peer, hholds⟩
  have hshares := (contains_of_ofLength? hs peer).mp hholds
  exact Address.canonical_ne_mapped peer _ ((Address.shares_width_iff _ _).mp hshares)

end Subnet

end ControlPlane
