import ControlPlane.Proofs.Address.Parts
import ControlPlane.Proofs.Subnet.Prefix
import ControlPlane.Proofs.Text.Split

/-!
# Written Subnets

How the text of a subnet is read, for every text of its parts. No part has a slash in it, so
a text without one is an address alone, and otherwise the address stands before the first
slash.

The part after the slash is tried as a number first. A number is never read as an address,
so no mask is mistaken for a length, and a length that is too large is not read as a mask
afterwards.

## Theorems

* `Subnet.ofText?_alone`: An address alone is a subnet of its own.
* `Subnet.ofText?_slash`: A text with a slash is read as an address and what follows it.
* `Subnet.ofSuffix?_of_literal`: A number after the slash is the length, however large it is.
* `Subnet.ofSuffix?_of_ofText?`: An address after the slash is the mask.
-/

namespace ControlPlane

theorem Address.Family.width_le (family : Address.Family) : family.width ≤ 128 := by
  cases family <;> decide

namespace Subnet

variable {a m : Address} {length : Nat}

/-- An address alone is a subnet of its own. -/
theorem ofText?_alone {text : String} (h : Address.ofText? text = some a) :
    ofText? text = some (single a) := by
  have haddress : Address.ofChars? text.toList = some a := h
  rw [ofText?, Text.splitFirst_of_not_mem (Address.slash_not_mem_of_ofChars? haddress), h]
  rfl

/-- A text with a slash is read as an address and what follows it. -/
theorem ofText?_slash {network : String} (h : Address.ofText? network = some a) (suffix : String) :
    ofText? (network ++ "/" ++ suffix) = ofSuffix? a suffix.toList := by
  have htext : (network ++ "/" ++ suffix).toList = network.toList ++ '/' :: suffix.toList := by
    rw [String.toList_append, String.toList_append, List.append_assoc]
    rfl
  have haddress : Address.ofChars? network.toList = some a := h
  rw [ofText?, htext, Text.splitFirst_append (Address.slash_not_mem_of_ofChars? haddress)]
  simp only [haddress, Option.bind_some]

/-- A number after the slash is the length, however large it is. -/
theorem ofSuffix?_of_literal {text : String} (h : Text.Literal text length) :
    ofSuffix? a text.toList = ofLength? a length := by
  rw [ofSuffix?, Text.unsigned?_of_literal h]
  by_cases hsmall : length < 256
  · rw [if_pos hsmall]
  · -- The number is tried as an address then, and it is none.
    have hnone : ofLength? a length = none := by
      rw [← Option.not_isSome_iff_eq_none, isSome_ofLength?]
      have hwidth := Address.Family.width_le a.family
      omega
    rw [if_neg hsmall, hnone, Address.ofChars?_of_unsigned? h, Option.bind_none]

/-- An address after the slash is the mask. -/
theorem ofSuffix?_of_ofText? {text : String} (h : Address.ofText? text = some m) :
    ofSuffix? a text.toList = ofMask? a m := by
  have haddress : Address.ofChars? text.toList = some m := h
  have hnumber : Text.unsigned? 256 text.toList = none := by
    cases hread : Text.unsigned? 256 text.toList with
    | none => rfl
    | some n => exact absurd (haddress.symm.trans (Address.ofChars?_of_unsigned? hread)) nofun
  rw [ofSuffix?, hnumber]
  simp only [haddress, Option.bind_some]

end Subnet

end ControlPlane
