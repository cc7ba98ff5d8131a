import ControlPlane.Address.Basic
import ControlPlane.Text.Numeral
import ControlPlane.Text.Split

/-!
# Short Notation

Hosts understand more than the dotted notation of older addresses. There are one to
four parts. Each part but the last one is an octet, and the last one fills what is
left of the address, so `127.1` is `127.0.0.1`. A part may be octal, with a zero in
front, or hexadecimal, with a zero and an x.

## Main definitions

* `Address.part?`: Reads one part.
* `Address.ofParts?`: The address that parts make up.
* `Address.short?`: Reads a whole text in short notation.
-/

namespace ControlPlane

namespace Address

open Text (digits ofDigits splitAll)

/-- Reads a text of nothing but digits. -/
def numeral? (base : Nat) (cs : List Char) : Option Nat :=
  match digits base cs with
  | (d :: ds, []) => some (ofDigits base (d :: ds))
  | _ => none

/-- Reads one part in the base that its beginning tells. -/
def part? : List Char → Option Nat
  | '0' :: 'x' :: cs | '0' :: 'X' :: cs => numeral? 16 cs
  | '0' :: c :: cs => numeral? 8 (c :: cs)
  | cs => numeral? 10 cs

/-- The address that parts make up, given how many octets they still have to fill
    and the value of the octets before. -/
def ofParts? : (room : Nat) → (value : Nat) → List Nat → Option (BitVec 32)
  | _, _, [] => none
  | room, value, [last] =>
    if room ≠ 0 ∧ last < Nat.pow 256 room then
      some (BitVec.ofNat 32 (value * Nat.pow 256 room + last))
    else none
  | 0, _, _ :: _ :: _ => none
  | room + 1, value, octet :: parts =>
    if octet < 256 then ofParts? room (value * 256 + octet) parts else none

/-- Reads a whole text in short notation. -/
def short? (s : String) : Option Address :=
  (((splitAll '.' s.toList).mapM part?).bind (ofParts? 4 0)).map .v4

end Address

end ControlPlane
