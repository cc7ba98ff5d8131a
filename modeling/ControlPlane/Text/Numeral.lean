/-!
# Numerals

Positional numerals in the bases that addresses, ports and escapes use.

A numeral is read greedily: the reader takes every digit there is and leaves
the rest, so what a numeral means never depends on what follows it beyond the
first character that is no digit. Bounds on the value or on the number of
digits are the business of whoever reads the numeral.

## Main definitions

* `digit?`: The value of a digit in a base up to sixteen.
* `digits`: The digits at the front of a text, and what follows them.
* `ofDigits`: The value of a list of digits, the most significant first.
* `digitsOnly?`: A literal of nothing but digits.
* `unsigned?`: An unsigned literal below a bound, with an optional plus sign.
* `decimal`, `hexadecimal`: The shortest numeral of a number.
* `octetHex`: Two hexadecimal digits for each octet.
-/

namespace ControlPlane

namespace Text

/-- The value of a digit in the given base, which is at most sixteen. Letters
    count in either case. -/
def digit? (base : Nat) (c : Char) : Option Nat :=
  let value :=
    if '0' ≤ c ∧ c ≤ '9' then some (c.toNat - '0'.toNat)
    else if 'a' ≤ c ∧ c ≤ 'f' then some (c.toNat - 'a'.toNat + 10)
    else if 'A' ≤ c ∧ c ≤ 'F' then some (c.toNat - 'A'.toNat + 10)
    else none
  value.filter (· < base)

/-- The values of the digits at the front, and what follows them. -/
def digits (base : Nat) : List Char → List Nat × List Char
  | [] => ([], [])
  | c :: rest =>
    match digit? base c with
    | some d => ((d :: (digits base rest).1), (digits base rest).2)
    | none => ([], c :: rest)

/-- The value of digits, the most significant first. -/
def ofDigits (base : Nat) (ds : List Nat) : Nat :=
  ds.foldl (fun value d => value * base + d) 0

/-- Reads a literal of decimal digits only, at least one. Leading zeros are allowed. -/
def digitsOnly? (cs : List Char) : Option Nat :=
  match digits 10 cs with
  | ([], _) => none
  | (ds, []) => some (ofDigits 10 ds)
  | (_, _ :: _) => none

/-- Reads a literal of decimal digits only, after an optional plus sign, whose
    value is below the bound. Leading zeros are allowed; no digit at all, a minus
    sign, a blank or anything after the digits is not. -/
def unsigned? (bound : Nat) (cs : List Char) : Option Nat :=
  let body := match cs with
    | '+' :: rest => rest
    | _ => cs
  match digitsOnly? body with
  | some n => if n < bound then some n else none
  | none => none

/-- The digits of a number, the most significant first; zero has one digit. -/
def toDigits (base n : Nat) : List Char :=
  Nat.toDigits base n

/-- The shortest decimal numeral of a number. -/
def decimal (n : Nat) : String :=
  String.ofList (toDigits 10 n)

/-- The shortest hexadecimal numeral of a number, in lower case. -/
def hexadecimal (n : Nat) : String :=
  String.ofList (toDigits 16 n)

/-- The hexadecimal digits of a number in exactly the given number of places. -/
def hexPlaces : (places : Nat) → (n : Nat) → List Char
  | 0, _ => []
  | places + 1, n => hexPlaces places (n / 16) ++ [Nat.digitChar (n % 16)]

/-- Octets as text, two lower-case hexadecimal digits each. -/
def octetHex (octets : List UInt8) : String :=
  String.ofList (octets.flatMap fun b => hexPlaces 2 b.toNat)

end Text

end ControlPlane
