/-!
# Addresses

Internet addresses of both families. An address is its bits; the dotted and
the grouped notation only divide them, so both are positional numerals of the
same word, in base 256 for the older family and in base 65536 for the newer.

A host that speaks the newer family may present a peer of the older one as
`::ffff:a.b.c.d`. The canonical form of an address undoes that, so that one peer
has one form whichever socket it came in on.

## Main definitions

* `Address`: An address of either family.
* `Address.mapped?`: The older address that a newer one stands for, if any.
* `Address.canonical`: The form in which addresses are compared.
* `Address.isUnspecified`: The all-zero address of a family.
* `Address.octets`, `Address.groups`: The parts that the notations show.

## Theorems

* `canonical_mapped`: The mapped form of an address has that address as its
  canonical form.
-/

namespace ControlPlane

/-- An internet address of either family. -/
inductive Address where
  | v4 (bits : BitVec 32)
  | v6 (bits : BitVec 128)
  deriving DecidableEq

namespace Address

/-- The family of an address. -/
inductive Family where
  | v4
  | v6
  deriving DecidableEq

/-- How many bits the addresses of a family have. -/
def Family.width : Family → Nat
  | .v4 => 32
  | .v6 => 128

/-- The family an address belongs to. -/
def family : Address → Family
  | .v4 _ => .v4
  | .v6 _ => .v6

/-- The upper 96 bits of every address that stands for one of the older family. -/
def mappedMark : BitVec 96 := 0xFFFF#96

/-- The newer form that stands for an older address. -/
def mapped (bits : BitVec 32) : BitVec 128 :=
  mappedMark ++ bits

/-- The older address that a newer one stands for, if it stands for one. -/
def mapped? (bits : BitVec 128) : Option (BitVec 32) :=
  if bits.extractLsb' 32 96 = mappedMark then some (bits.extractLsb' 0 32) else none

/-- The form in which addresses are compared: a newer address that stands for
    an older one is replaced by it. -/
def canonical : Address → Address
  | .v4 bits => .v4 bits
  | .v6 bits =>
    match mapped? bits with
    | some older => .v4 older
    | none => .v6 bits

/-- The mapped form of an address has that address as its canonical form. -/
theorem canonical_mapped (bits : BitVec 32) : canonical (.v6 (mapped bits)) = .v4 bits := by
  have hmark : (mapped bits).extractLsb' 32 96 = mappedMark := by
    ext i hi
    have happend := BitVec.getLsbD_append (x := mappedMark) (y := bits) (i := 32 + i)
    have hlow : ¬ 32 + i < 32 := by omega
    simpa [mapped, BitVec.getElem_extractLsb', hi, hlow] using happend
  have hbits : (mapped bits).extractLsb' 0 32 = bits := by
    ext i hi
    have happend := BitVec.getLsbD_append (x := mappedMark) (y := bits) (i := i)
    simpa [mapped, BitVec.getElem_extractLsb', hi] using happend
  simp [canonical, mapped?, hmark, hbits]

/-- The address is all zero, as written: the mapped form of the older all-zero
    address is not. -/
def isUnspecified : Address → Bool
  | .v4 bits => bits == 0
  | .v6 bits => bits == 0

/-- The four octets of an older address, the most significant first. -/
def octets (bits : BitVec 32) : List Nat :=
  [3, 2, 1, 0].map fun place => bits.toNat / Nat.pow 256 place % 256

/-- The eight groups of a newer address, the most significant first. -/
def groups (bits : BitVec 128) : List Nat :=
  [7, 6, 5, 4, 3, 2, 1, 0].map fun place => bits.toNat / Nat.pow 65536 place % 65536

/-- The address `127.0.0.1`. -/
def loopback4 : BitVec 32 := 0x7F000001#32

/-- The address `::1`. -/
def loopback6 : BitVec 128 := 1#128

end Address

end ControlPlane
