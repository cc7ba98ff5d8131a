import ControlPlane.Address.Text
import ControlPlane.Text.Split

/-!
# Subnets

A subnet is a block of addresses of one family that agree in their first bits.
It is kept as a network and a mask, so that a peer is inside when masking its
address gives the network.

A mask is a number of one-bits followed by zero-bits only, and a network has no
bit outside its mask. Every way of building a subnet sees to both.

A subnet is written as an address alone, as an address and a length, or as an
address and a mask in address form. Peers are compared in canonical form, but a
subnet keeps the family in which it was written.

## Main definitions

* `Block`: A network and a mask of a given width.
* `Subnet`: A block of either family.
* `Subnet.single`, `Subnet.ofLength?`, `Subnet.ofMask?`: The ways to build one.
* `Subnet.contains`: Whether a peer lies inside.
* `Subnet.ofText?`, `Subnet.toText`: The written form.
* `InvalidSubnet`: A text that is no subnet.
-/

namespace ControlPlane

/-- How many one-bits a word starts with, from the most significant bit. -/
def leadingOnes {w : Nat} (m : BitVec w) : Nat :=
  ((List.range w).takeWhile fun i => m.getMsbD i).length

/-- How many zero-bits a word ends with, from the least significant bit. -/
def trailingZeros {w : Nat} (m : BitVec w) : Nat :=
  ((List.range w).takeWhile fun i => !m.getLsbD i).length

/-- The word of the given number of one-bits followed by zero-bits. -/
def lengthMask (w length : Nat) : BitVec w :=
  BitVec.allOnes w <<< (w - length)

/-- Every one-bit of the word comes before every zero-bit. -/
def isContiguous {w : Nat} (m : BitVec w) : Bool :=
  leadingOnes m + trailingZeros m == w

/-- A network and a mask of a given width. -/
structure Block (w : Nat) where
  network : BitVec w
  mask : BitVec w
  deriving DecidableEq

namespace Block

/-- The block of the addresses that agree with the given one under the mask. -/
def around {w : Nat} (address mask : BitVec w) : Block w :=
  ⟨address &&& mask, mask⟩

/-- The address lies in the block. -/
def contains {w : Nat} (b : Block w) (address : BitVec w) : Bool :=
  address &&& b.mask == b.network

end Block

/-- A block of addresses of either family. -/
inductive Subnet where
  | v4 (block : Block 32)
  | v6 (block : Block 128)
  deriving DecidableEq

/-- A text that is no subnet. -/
structure InvalidSubnet where
  text : String
  deriving DecidableEq

/-- The wording of the error. -/
def InvalidSubnet.message (e : InvalidSubnet) : String :=
  "Invalid -rpcallowip subnet specification: " ++ e.text ++
    ". Valid are a single IP (e.g. 1.2.3.4), a network/netmask (e.g. 1.2.3.4/255.255.255.0) " ++
    "or a network/CIDR (e.g. 1.2.3.4/24)."

namespace Subnet

/-- The subnet that holds one address only. -/
def single : Address → Subnet
  | .v4 bits => .v4 (Block.around bits (BitVec.allOnes 32))
  | .v6 bits => .v6 (Block.around bits (BitVec.allOnes 128))

/-- The subnet of the addresses that share the first bits of the given one. No
    family has more bits than its width. -/
def ofLength? (a : Address) (length : Nat) : Option Subnet :=
  match a with
  | .v4 bits => if length ≤ 32 then some (.v4 (.around bits (lengthMask 32 length))) else none
  | .v6 bits => if length ≤ 128 then some (.v6 (.around bits (lengthMask 128 length))) else none

/-- The subnet with a mask in address form. The mask must have the family of the
    address and be contiguous. -/
def ofMask? : (a mask : Address) → Option Subnet
  | .v4 bits, .v4 mask => if isContiguous mask then some (.v4 (.around bits mask)) else none
  | .v6 bits, .v6 mask => if isContiguous mask then some (.v6 (.around bits mask)) else none
  | _, _ => none

/-- The peer lies in the subnet. The peer is compared in canonical form. -/
def contains (s : Subnet) (peer : Address) : Bool :=
  match s, peer.canonical with
  | .v4 block, .v4 bits => block.contains bits
  | .v6 block, .v6 bits => block.contains bits
  | _, _ => false

/-- Reads the part after the slash for the given address: a length if it is a
    number below 256, and otherwise a mask in address form. -/
def ofSuffix? (a : Address) (suffix : List Char) : Option Subnet :=
  match Text.unsigned? 256 suffix with
  | some length => ofLength? a length
  | none => (Address.ofChars? suffix).bind (ofMask? a)

/-- Reads a whole text as a subnet. -/
def ofText? (s : String) : Option Subnet :=
  match Text.splitFirst '/' s.toList with
  | none => (Address.ofText? s).map single
  | some (network, suffix) => (Address.ofChars? network).bind fun a => ofSuffix? a suffix

/-- Reads a whole text as a subnet, or names the text that is none. -/
def ofText (s : String) : Except InvalidSubnet Subnet :=
  match ofText? s with
  | some subnet => .ok subnet
  | none => .error ⟨s⟩

/-- The network and the length of the mask. -/
def toText : Subnet → String
  | .v4 block => Address.dottedText block.network ++ "/" ++ Text.decimal (leadingOnes block.mask)
  | .v6 block => Address.groupedText block.network ++ "/" ++ Text.decimal (leadingOnes block.mask)

/-- The subnet `127.0.0.0/8` of the addresses that lead back to the host. -/
def loopback4 : Subnet :=
  .v4 (.around Address.loopback4 (lengthMask 32 8))

/-- The subnet of the one newer address that leads back to the host. -/
def loopback6 : Subnet :=
  single (.v6 Address.loopback6)

end Subnet

end ControlPlane
