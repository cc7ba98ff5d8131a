import ControlPlane.Address.Text

/-!
# Socket Addresses

An address together with a port, as peers and listeners have them. A newer
address stands in brackets before the port and may carry a numeric scope inside
them; the scope zero is not written.

## Main definitions

* `SocketAddress`: An address and a port.
* `SocketAddress.ofText?`: Reads a whole text as a socket address.
* `SocketAddress.toText`: Writes a socket address.
-/

namespace ControlPlane

/-- An address and a port. The scope belongs to newer addresses and is zero for
    the others. -/
structure SocketAddress where
  address : Address
  port : UInt16
  scope : UInt32 := 0
  deriving DecidableEq

namespace SocketAddress

open Text (digits ofDigits decimal)

/-- Reads a decimal numeral below a bound. Leading zeros are allowed. -/
def number? (bound : Nat) (cs : List Char) : Option (Nat × List Char) :=
  let (ds, rest) := digits 10 cs
  if ds = [] ∨ bound ≤ ofDigits 10 ds then none else some (ofDigits 10 ds, rest)

/-- Reads a colon and a port. -/
def port? (cs : List Char) : Option (UInt16 × List Char) := do
  let (port, rest) ← number? 65536 (← Address.mark? ':' cs)
  return (UInt16.ofNat port, rest)

/-- Reads a percent sign and a scope, if there is a percent sign with one. -/
def scopeOrZero (cs : List Char) : UInt32 × List Char :=
  match (Address.mark? '%' cs).bind (number? (Nat.pow 2 32)) with
  | some (scope, rest) => (UInt32.ofNat scope, rest)
  | none => (0, cs)

/-- Reads an older address and a port. -/
def dotted? (cs : List Char) : Option (SocketAddress × List Char) := do
  let (bits, cs) ← Address.dotted? cs
  let (port, cs) ← port? cs
  return (⟨.v4 bits, port, 0⟩, cs)

/-- Reads a newer address in brackets, with its scope, and a port. -/
def bracketed? (cs : List Char) : Option (SocketAddress × List Char) := do
  let (bits, cs) ← Address.grouped? (← Address.mark? '[' cs)
  let (scope, cs) := scopeOrZero cs
  let (port, cs) ← port? (← Address.mark? ']' cs)
  return (⟨.v6 bits, port, scope⟩, cs)

/-- Reads a whole text as a socket address. -/
def ofText? (s : String) : Option SocketAddress :=
  match (dotted? s.toList).orElse fun _ => bracketed? s.toList with
  | some (a, []) => some a
  | _ => none

/-- The written form of a socket address. -/
def toText (a : SocketAddress) : String :=
  match a.address with
  | .v4 _ => a.address.toText ++ ":" ++ decimal a.port.toNat
  | .v6 _ =>
    let scope := if a.scope = 0 then "" else "%" ++ decimal a.scope.toNat
    "[" ++ a.address.toText ++ scope ++ "]:" ++ decimal a.port.toNat

end SocketAddress

end ControlPlane
