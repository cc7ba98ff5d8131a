import ControlPlane.Proofs.Subnet.Netmask

/-!
# The Written Form of a Subnet

A subnet is written as its network and the length of its mask. That is less than it holds:
the mask itself is not shown, and neither are the bits that its network has outside of it.
The text can be read back because there is nothing to be lost. Every way of building a
subnet leaves it in one form, in which the mask is that of a length and the network is
clear outside of it.

The form is described by bits (`Normal`), and the rest follows from the description alone.
The network and the length give the subnet again, and both are printed. So the text stands
for the subnet, and two subnets are the same if they print the same, however their texts
were written.

## Main definitions

* `Subnet.network`, `Subnet.mask`: What a subnet holds, as addresses.
* `Subnet.Normal`: The form of a subnet with the mask of a length.
* `Subnet.Built`: The subnets that there are ways to build.
* `Subnet.Written`: What becomes of a subnet that is written out.

## Theorems

* `normal_of_ofLength?`: An address and a length give a subnet in this form.
* `ofLength?_network`: A subnet in this form is given by its network and its length.
* `normal_of_built`: All ways of building a subnet leave it in this form.
* `toText_of_normal`: Such a subnet is written as its network and its length.
* `ofText_toText`: It is read back.
* `written_of_built`: The text of a subnet stands for it.
-/

namespace ControlPlane

namespace Subnet

variable {a : Address} {length : Nat} {s : Subnet}

/-- The first address of a subnet. -/
def network : Subnet → Address
  | .v4 block => .v4 block.network
  | .v6 block => .v6 block.network

/-- The mask of a subnet in address form. -/
def mask : Subnet → Address
  | .v4 block => .v4 block.mask
  | .v6 block => .v6 block.mask

/-- The mask is that of a length, and the network has no bit outside of it. -/
structure Normal (s : Subnet) (length : Nat) : Prop where
  mask : s.mask.IsMask length
  clear : ∀ place, s.mask.bit place = false → s.network.bit place = false

/-! ### Blocks -/

section

variable {w : Nat}

theorem clear_around (bits mask : BitVec w) (place : Nat) (h : mask.getMsbD place = false) :
    (Block.around bits mask).network.getMsbD place = false := by
  rw [Block.around, BitVec.getMsbD_and, h, Bool.and_false]

/-- A network that is clear outside of the mask is not changed by it. -/
theorem around_of_clear {block : Block w}
    (h : ∀ place, block.mask.getMsbD place = false → block.network.getMsbD place = false) :
    Block.around block.network block.mask = block := by
  have hsame : block.network &&& block.mask = block.network := by
    -- Place by place: inside the mask nothing is taken away, and outside there is nothing.
    refine BitVec.eq_of_getMsbD_eq fun place _ => ?_
    rw [BitVec.getMsbD_and]
    cases hmask : block.mask.getMsbD place with
    | true => rw [Bool.and_true]
    | false => rw [h place hmask, Bool.and_false]
  rw [Block.around, hsame]

end

/-! ### The form -/

/-- An address and a length give a subnet in this form. -/
theorem normal_of_ofLength? (h : ofLength? a length = some s) : Normal s length := by
  cases a with
  | v4 bits =>
      rw [ofLength?, Option.ite_none_right_eq_some] at h
      rw [← Option.some.inj h.2]
      exact ⟨⟨h.1, (eq_lengthMask_iff h.1 _).mp rfl⟩, clear_around bits (lengthMask 32 length)⟩
  | v6 bits =>
      rw [ofLength?, Option.ite_none_right_eq_some] at h
      rw [← Option.some.inj h.2]
      exact ⟨⟨h.1, (eq_lengthMask_iff h.1 _).mp rfl⟩, clear_around bits (lengthMask 128 length)⟩

/-- A subnet in this form is given by its network and its length. -/
theorem ofLength?_network (h : Normal s length) : ofLength? s.network length = some s := by
  rcases h with ⟨hmask, hclear⟩
  cases s with
  | v4 block =>
      rcases Address.eq_of_isMask_v4 hmask with ⟨hle, heq⟩
      rw [network, ofLength?, if_pos hle, ← heq, around_of_clear hclear]
  | v6 block =>
      rcases Address.eq_of_isMask_v6 hmask with ⟨hle, heq⟩
      rw [network, ofLength?, if_pos hle, ← heq, around_of_clear hclear]

/-! ### Building -/

/-- The subnets that there are ways to build. -/
inductive Built : Subnet → Prop where
  | single (a : Address) : Built (single a)
  | ofLength {a : Address} {length : Nat} {s : Subnet} (h : ofLength? a length = some s) : Built s
  | ofMask {a mask : Address} {s : Subnet} (h : ofMask? a mask = some s) : Built s
  | ofText {text : String} {s : Subnet} (h : ofText text = .ok s) : Built s

theorem normal_of_ofMask? {m : Address} (h : ofMask? a m = some s) : ∃ length, Normal s length := by
  rcases isMask_of_ofMask? h with ⟨hfamily, length, hmask⟩
  rw [ofMask?_of_isMask hfamily hmask] at h
  exact ⟨length, normal_of_ofLength? h⟩

theorem normal_of_ofSuffix? {suffix : List Char} (h : ofSuffix? a suffix = some s) :
    ∃ length, Normal s length := by
  unfold ofSuffix? at h
  -- A number is a length, and any other suffix has to be a mask.
  cases hnumber : Text.unsigned? 256 suffix with
  | some length =>
      rw [hnumber] at h
      exact ⟨length, normal_of_ofLength? h⟩
  | none =>
      rw [hnumber] at h
      rcases Option.bind_eq_some_iff.mp h with ⟨m, _, hmask⟩
      exact normal_of_ofMask? hmask

theorem ofText?_of_ofText {text : String} (h : ofText text = .ok s) : ofText? text = some s := by
  unfold ofText at h
  cases hread : ofText? text with
  | none => simp only [hread, reduceCtorEq] at h
  | some read =>
      simp only [hread, Except.ok.injEq] at h
      rw [h]

/-- All ways of building a subnet leave it in this form, since they all come down to an
    address and a length. -/
theorem normal_of_built (h : Built s) : ∃ length, Normal s length := by
  cases h with
  | single a => exact ⟨a.family.width, normal_of_ofLength? (ofLength?_width a)⟩
  | ofLength h => exact ⟨_, normal_of_ofLength? h⟩
  | ofMask h => exact normal_of_ofMask? h
  | @ofText text _ h =>
      have hread := ofText?_of_ofText h
      unfold ofText? at hread
      -- Without a slash it is the subnet of one address.
      cases hcut : Text.splitFirst '/' text.toList with
      | none =>
          rw [hcut] at hread
          rcases Option.map_eq_some_iff.mp hread with ⟨a, _, hsingle⟩
          rw [← hsingle]
          exact ⟨a.family.width, normal_of_ofLength? (ofLength?_width a)⟩
      | some parts =>
          rw [hcut] at hread
          rcases Option.bind_eq_some_iff.mp hread with ⟨a, _, hsuffix⟩
          exact normal_of_ofSuffix? hsuffix

/-! ### Writing and reading -/

/-- Such a subnet is written as its network and its length. -/
theorem toText_of_normal (h : Normal s length) :
    s.toText = s.network.toText ++ "/" ++ Text.decimal length := by
  -- What is printed is how many ones lead the mask, which is the length only for such masks.
  cases s with
  | v4 block =>
      rcases Address.eq_of_isMask_v4 h.mask with ⟨hle, heq⟩
      rw [toText, heq, leadingOnes_lengthMask hle]
      rfl
  | v6 block =>
      rcases Address.eq_of_isMask_v6 h.mask with ⟨hle, heq⟩
      rw [toText, heq, leadingOnes_lengthMask hle]
      rfl

/-- It is read back. -/
theorem ofText_toText (h : Normal s length) : ofText s.toText = .ok s := by
  have hread : ofText? s.toText = some s := by
    rw [toText_of_normal h, ofText?_slash (Address.ofText?_toText s.network),
      ofSuffix?_of_literal (Text.literal_decimal length), ofLength?_network h]
  simp only [ofText, hread]

/-- What becomes of a subnet that is written out. -/
structure Written (s : Subnet) : Prop where
  /-- Its mask has the family of its network and is that of a length. -/
  mask : s.mask.family = s.network.family ∧ ∃ length, s.mask.IsMask length
  /-- Its network has no bit outside of the mask. -/
  clear : ∀ place, s.mask.bit place = false → s.network.bit place = false
  /-- Its text is read as the subnet itself. -/
  back : ofText s.toText = .ok s
  /-- A text that is read as this subnet and any other text are read as the same one exactly
      if what is read prints the same. -/
  texts : ∀ text other s', ofText text = .ok s → ofText other = .ok s' →
    (s = s' ↔ s.toText = s'.toText)

/-- The text of a subnet stands for it, whichever way the subnet was built. -/
theorem written_of_built (s : Subnet) (h : Built s) : Written s := by
  rcases normal_of_built h with ⟨length, hnormal⟩
  constructor
  case mask =>
    refine ⟨?_, length, hnormal.mask⟩
    cases s <;> rfl
  case clear => exact hnormal.clear
  case back => exact ofText_toText hnormal
  case texts =>
    intro text other s' _ hother
    rcases normal_of_built (.ofText hother) with ⟨length', hnormal'⟩
    constructor
    · exact congrArg toText
    · -- The two texts are the same, and each is read back.
      intro hsame
      have hback := ofText_toText hnormal
      rw [hsame, ofText_toText hnormal'] at hback
      exact (Except.ok.inj hback).symm

/-- `10.1.2.3/255.0.0.0` is read as the subnet that is written `10.0.0.0/8`, and that text
    is read as the same subnet. -/
theorem written_of_built_eight :
    ofText "10.1.2.3/255.0.0.0" = .ok (.v4 ⟨0x0A000000, 0xFF000000⟩) ∧
      toText (.v4 ⟨0x0A000000, 0xFF000000⟩) = "10.0.0.0/8" ∧
      Written (.v4 ⟨0x0A000000, 0xFF000000⟩) :=
  have hread : ofText "10.1.2.3/255.0.0.0" = .ok (.v4 ⟨0x0A000000, 0xFF000000⟩) := by rfl
  ⟨hread, by rfl, written_of_built _ (.ofText hread)⟩

end Subnet

end ControlPlane
