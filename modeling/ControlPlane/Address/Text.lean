import ControlPlane.Address.Basic
import ControlPlane.Text.Numeral

/-!
# Written Addresses

The notations of internet addresses, and the one form in which each address is
written out.

Older addresses are four decimal octets without leading zeros. Newer ones are
eight hexadecimal groups of at most four digits; one run of zero groups may be
left out for two colons, and the last two groups may be written as an older
address. Written out, a newer address leaves out its longest run of at least
two zero groups, the first of equals, and only one that stands for an older
address shows it in dotted form.

Readers take what they can from the front and leave the rest. A reader that
fails takes nothing.

## Main definitions

* `Address.dotted?`: Reads four octets.
* `Address.groupRun`: Reads as many groups as there is room for.
* `Address.grouped?`: Reads a newer address.
* `Address.ofText?`: Reads a whole text as an address of either family.
* `Address.toText`: Writes an address.
-/

namespace ControlPlane

namespace Address

open Text (digits ofDigits decimal hexadecimal)

/-- Reads one octet: one to three decimal digits, no leading zero, below 256. -/
def octet? (cs : List Char) : Option (Nat × List Char) :=
  let (ds, rest) := digits 10 cs
  if ds = [] ∨ 3 < ds.length ∨ (ds.head? = some 0 ∧ 1 < ds.length) ∨ 256 ≤ ofDigits 10 ds then none
  else some (ofDigits 10 ds, rest)

/-- Passes over one given character. -/
def mark? (c : Char) : List Char → Option (List Char)
  | [] => none
  | d :: rest => if d = c then some rest else none

/-- Reads four octets with points between them. -/
def dotted? (cs : List Char) : Option (BitVec 32 × List Char) := do
  let (a, cs) ← octet? cs
  let (b, cs) ← octet? (← mark? '.' cs)
  let (c, cs) ← octet? (← mark? '.' cs)
  let (d, cs) ← octet? (← mark? '.' cs)
  return (BitVec.ofNat 32 (ofDigits 256 [a, b, c, d]), cs)

/-- Reads one group: one to four hexadecimal digits. -/
def group? (cs : List Char) : Option (Nat × List Char) :=
  let (ds, rest) := digits 16 cs
  if ds = [] ∨ 4 < ds.length then none else some (ofDigits 16 ds, rest)

/-- A run of groups, as far as it could be read. -/
structure GroupRun where
  /-- The values of the groups. -/
  values : List Nat
  /-- The run ended with an older address for its last two groups. -/
  dotted : Bool
  /-- What follows the run. -/
  rest : List Char

/-- Reads groups with colons between them for as long as there is room. Where
    there is room for two, an older address is tried first and ends the run. A
    colon that no group follows is left. -/
def groupRun : (room : Nat) → (first : Bool) → List Char → GroupRun
  | 0, _, cs => ⟨[], false, cs⟩
  | room + 1, first, cs =>
    match (if first then some cs else mark? ':' cs) with
    | none => ⟨[], false, cs⟩
    | some body =>
      match (if room = 0 then none else dotted? body) with
      | some (bits, rest) => ⟨[bits.toNat / 65536, bits.toNat % 65536], true, rest⟩
      | none =>
        match group? body with
        | none => ⟨[], false, cs⟩
        | some (value, rest) =>
          let more := groupRun room false rest
          ⟨value :: more.values, more.dotted, more.rest⟩

/-- The address with the given eight groups. -/
def ofGroups (values : List Nat) : BitVec 128 :=
  BitVec.ofNat 128 (ofDigits 65536 values)

/-- Reads a newer address: eight groups, or fewer with two colons in the place
    of at least one zero group. An older address may only stand at the end. -/
def grouped? (cs : List Char) : Option (BitVec 128 × List Char) :=
  let front := groupRun 8 true cs
  if front.values.length = 8 then some (ofGroups front.values, front.rest)
  else if front.dotted then none
  else do
    let rest ← mark? ':' (← mark? ':' front.rest)
    let back := groupRun (7 - front.values.length) true rest
    let gap := List.replicate (8 - front.values.length - back.values.length) 0
    return (ofGroups (front.values ++ gap ++ back.values), back.rest)

/-- Reads an address of either family from the front of a text. -/
def read? (cs : List Char) : Option (Address × List Char) :=
  match dotted? cs with
  | some (bits, rest) => some (.v4 bits, rest)
  | none => (grouped? cs).map fun (bits, rest) => (.v6 bits, rest)

/-- Reads all of the characters as an address. -/
def ofChars? (cs : List Char) : Option Address :=
  match read? cs with
  | some (a, []) => some a
  | _ => none

/-- Reads a whole text as an address. -/
def ofText? (s : String) : Option Address :=
  ofChars? s.toList

/-- Four octets with points between them. -/
def dottedText (bits : BitVec 32) : String :=
  ".".intercalate ((octets bits).map decimal)

/-- Groups with colons between them. -/
def groupsText (values : List Nat) : String :=
  ":".intercalate (values.map hexadecimal)

/-- How many zeros stand at the front of the groups. -/
def zerosAtFront (values : List Nat) : Nat :=
  (values.takeWhile (· == 0)).length

/-- Where the longest run of zero groups starts and how long it is. The first
    of equally long runs is taken. -/
def longestZeroRun (values : List Nat) : Nat × Nat :=
  (List.range values.length).foldl
    (fun best start =>
      let length := zerosAtFront (values.drop start)
      if best.2 < length then (start, length) else best)
    (0, 0)

/-- A newer address, with its longest run of at least two zero groups left out. -/
def groupedText (bits : BitVec 128) : String :=
  match mapped? bits with
  | some older => "::ffff:" ++ dottedText older
  | none =>
    let values := groups bits
    let (start, length) := longestZeroRun values
    if 1 < length then
      groupsText (values.take start) ++ "::" ++ groupsText (values.drop (start + length))
    else groupsText values

/-- The written form of an address. -/
def toText : Address → String
  | .v4 bits => dottedText bits
  | .v6 bits => groupedText bits

end Address

end ControlPlane
