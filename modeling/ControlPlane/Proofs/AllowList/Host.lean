import ControlPlane.AllowList

/-!
# Peers on the Host Itself

The list without entries admits the host itself and nobody else. Which peers these are
is said here by their addresses: in canonical form, an older address whose first octet
is 127, or the one newer address that leads back to the host. Neither is all zero, so
the guard against that address changes nothing.

## Main definitions

* `Address.isHost`: A peer on the host itself.

## Theorems

* `contains_loopback4`, `contains_loopback6`: Who is in the subnets of the host.
* `isAllowed_standard`: The list without entries admits the host itself.
* `isAllowed_loopback_append`: Any other list admits the peers in its subnets besides.
-/

namespace ControlPlane

/-- The peer is on the host itself: in canonical form its address is in `127.0.0.0/8`, or
    it is `::1`. -/
def Address.isHost (a : Address) : Bool :=
  match a.canonical with
  | .v4 bits => (octets bits).head? = some 127
  | .v6 bits => bits = loopback6

/-- Masking an older address with a length of eight leaves its first octet. -/
theorem toNat_and_lengthMask8 (bits : BitVec 32) :
    (bits &&& lengthMask 32 8).toNat = bits.toNat / 0x1000000 % 0x100 * 0x1000000 := by
  have hmask : (lengthMask 32 8).toNat = (2 ^ 8 - 1) * 2 ^ 24 := by decide
  have hhigh : (bits.toNat &&& (2 ^ 8 - 1) * 2 ^ 24) / 2 ^ 24 = bits.toNat / 2 ^ 24 % 2 ^ 8 := by
    rw [Nat.and_div_two_pow, Nat.mul_div_cancel _ (by decide), Nat.and_two_pow_sub_one_eq_mod]
  have hlow : (bits.toNat &&& (2 ^ 8 - 1) * 2 ^ 24) % 2 ^ 24 = 0 := by
    rw [Nat.and_mod_two_pow, Nat.mul_mod_left, Nat.and_zero]
  rw [BitVec.toNat_and, hmask]
  omega

theorem contains_loopback4 (bits : BitVec 32) :
    (Block.around Address.loopback4 (lengthMask 32 8)).contains bits =
      decide ((Address.octets bits).head? = some 127) := by
  have hnetwork : (Address.loopback4 &&& lengthMask 32 8).toNat = 127 * 2 ^ 24 := by decide
  have hoctet : (Address.octets bits).head? = some (bits.toNat / 2 ^ 24 % 2 ^ 8) := rfl
  have hiff : bits &&& lengthMask 32 8 = Address.loopback4 &&& lengthMask 32 8 ↔
      (Address.octets bits).head? = some 127 := by
    rw [hoctet, Option.some.injEq, ← BitVec.toNat_inj, toNat_and_lengthMask8, hnetwork]
    omega
  exact decide_eq_decide.mpr hiff

theorem contains_loopback6 (bits : BitVec 128) :
    (Block.around Address.loopback6 (BitVec.allOnes 128)).contains bits =
      decide (bits = Address.loopback6) := by
  simp only [Block.contains, Block.around, BitVec.and_allOnes]
  rfl

/-- A peer on the host itself has an address that is not all zero. -/
theorem Address.isUnspecified_of_isHost {a : Address} (h : a.isHost = true) :
    a.isUnspecified = false := by
  cases a with
  | v4 bits =>
      refine beq_eq_false_iff_ne.mpr fun hzero => ?_
      rw [hzero] at h
      exact absurd h (by decide)
  | v6 bits =>
      refine beq_eq_false_iff_ne.mpr fun hzero => ?_
      rw [hzero] at h
      exact absurd h (by decide)

namespace AllowList

/-- The list without entries admits the host itself, and nobody else. -/
theorem isAllowed_standard (a : Address) : standard.isAllowed a = a.isHost := by
  have hany : (standard.subnets.any fun subnet => subnet.contains a) = a.isHost := by
    simp only [standard, loopback, List.any_cons, List.any_nil, Bool.or_false, Subnet.loopback4,
      Subnet.loopback6, Subnet.single, Subnet.contains, Address.isHost]
    cases a.canonical with
    | v4 bits => exact (Bool.or_false _).trans (contains_loopback4 bits)
    | v6 bits => exact (Bool.false_or _).trans (contains_loopback6 bits)
  rw [isAllowed, hany]
  cases hhost : a.isHost with
  | false => rw [Bool.and_false]
  | true => rw [Address.isUnspecified_of_isHost hhost, Bool.not_false, Bool.and_true]

theorem ofEntries_nil : ofEntries [] = .ok standard := rfl

/-- Whom a list admits: the host itself, and the peers in its other subnets, except for the
    one that is all zero. -/
theorem isAllowed_loopback_append (subnets : List Subnet) (peer : Address) :
    isAllowed ⟨loopback ++ subnets⟩ peer = true ↔
      peer.isHost = true ∨
        (peer.isUnspecified = false ∧ ∃ s ∈ subnets, s.contains peer = true) := by
  have hhost := isAllowed_standard peer
  rw [isAllowed, standard] at hhost
  rw [isAllowed, List.any_append, Bool.and_or_distrib_left, hhost, Bool.or_eq_true,
    Bool.and_eq_true, Bool.not_eq_true', List.any_eq_true]

end AllowList

end ControlPlane
