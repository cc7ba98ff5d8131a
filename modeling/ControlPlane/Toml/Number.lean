import ControlPlane.Text.Numeral
import ControlPlane.Text.Split
import ControlPlane.Toml.Value

/-!
# Numbers of a Document

Integers are decimal with an optional sign, or hexadecimal, octal or binary
without one, and fit into sixty-four bits with a sign. Other numbers have a
fraction, an exponent or both; infinity and the undefined number have names.
Single underscores may stand between digits, and a decimal numeral begins with
zero only if that is all of it.

## Main definitions

* `digitRun?`: Reads digits with underscores between them.
* `whole?`: Reads a decimal numeral with its sign.
* `integer?`: Reads an integer.
* `Real.round`: A number as far as a double can hold it.
* `real?`: Reads any other number.
-/

namespace ControlPlane

namespace Toml

open Text (digit? ofDigits dropFront?)

/-- The digits after a first one, each perhaps after an underscore. -/
def moreDigits (base : Nat) : List Char → List Nat × List Char
  | '_' :: c :: rest =>
    match digit? base c with
    | some d => (d :: (moreDigits base rest).1, (moreDigits base rest).2)
    | none => ([], '_' :: c :: rest)
  | c :: rest =>
    match digit? base c with
    | some d => (d :: (moreDigits base rest).1, (moreDigits base rest).2)
    | none => ([], c :: rest)
  | [] => ([], [])

/-- Reads digits with single underscores between them, at least one. -/
def digitRun? (base : Nat) : List Char → Option (List Nat × List Char)
  | [] => none
  | c :: rest => do
    let d ← digit? base c
    let (ds, rest) := moreDigits base rest
    return (d :: ds, rest)

/-- Reads an optional sign, and tells whether it is negative. -/
def sign : List Char → Bool × List Char
  | '-' :: rest => (true, rest)
  | '+' :: rest => (false, rest)
  | cs => (false, cs)

/-- Reads a decimal numeral with its sign. -/
def whole? (cs : List Char) : Option (Bool × List Nat × List Char) :=
  let (negative, cs) := sign cs
  match cs with
  | '0' :: rest => some (negative, [0], rest)
  | cs => (digitRun? 10 cs).map fun (ds, rest) => (negative, ds, rest)

/-- The number, if sixty-four bits with a sign can hold it. -/
def fitting? (n : Int) : Option Int :=
  if -0x8000000000000000 ≤ n ∧ n < 0x8000000000000000 then some n else none

/-- Reads the digits of another base, after the mark that announces it. -/
def based? (base : Nat) (cs : List Char) : Option (Int × List Char) := do
  let (ds, rest) ← digitRun? base cs
  return (← fitting? (ofDigits base ds), rest)

/-- Reads an integer. -/
def integer? : List Char → Option (Int × List Char)
  | '0' :: 'x' :: rest => based? 16 rest
  | '0' :: 'o' :: rest => based? 8 rest
  | '0' :: 'b' :: rest => based? 2 rest
  | cs => do
    let (negative, ds, rest) ← whole? cs
    let n : Int := ofDigits 10 ds
    return (← fitting? (if negative then -n else n), rest)

/-- The least number that a double does not hold any more. -/
def realLimit : Nat :=
  Nat.pow 2 1024 - Nat.pow 2 970

/-- A coefficient times a power of ten is beyond what a double holds. -/
def exceeds (coefficient : Nat) (exponent : Int) : Bool :=
  let size : Int := (Text.toDigits 10 coefficient).length + exponent
  if coefficient = 0 ∨ size < 300 then false
  else if 320 < size then true
  else if 0 ≤ exponent then realLimit ≤ coefficient * Nat.pow 10 exponent.toNat
  else realLimit * Nat.pow 10 (-exponent).toNat ≤ coefficient

/-- A number as far as a double can hold it: one that is too large is refused,
    and one that is too small becomes infinite. -/
def Real.round (negative : Bool) (coefficient : Nat) (exponent : Int) : Option Real :=
  if exceeds coefficient exponent then
    if negative then some (.infinite true) else none
  else some (.finite (if negative then -coefficient else coefficient) exponent)

/-- Reads an exponent with its mark, if there is one. -/
def exponent? : List Char → Option (Int × List Char)
  | 'e' :: rest | 'E' :: rest => do
    let (negative, rest) := sign rest
    let (ds, rest) ← digitRun? 10 rest
    let n : Int := ofDigits 10 ds
    return (if negative then -n else n, rest)
  | _ => none

/-- Reads a number that has a name. -/
def named? (cs : List Char) : Option (Real × List Char) :=
  let (negative, cs) := sign cs
  match dropFront? "inf".toList cs with
  | some rest => some (.infinite negative, rest)
  | none => (dropFront? "nan".toList cs).map fun rest => (.undefined, rest)

/-- Reads a number with a fraction, an exponent or both. -/
def fractional? (cs : List Char) : Option (Real × List Char) := do
  let (negative, ds, cs) ← whole? cs
  match cs with
  | '.' :: rest =>
    let (fraction, rest) ← digitRun? 10 rest
    let (power, rest) := (exponent? rest).getD (0, rest)
    let r ← Real.round negative (ofDigits 10 (ds ++ fraction)) (power - fraction.length)
    return (r, rest)
  | cs =>
    let (power, rest) ← exponent? cs
    return (← Real.round negative (ofDigits 10 ds) power, rest)

/-- Reads a number that is not an integer. -/
def real? (cs : List Char) : Option (Real × List Char) :=
  (fractional? cs).orElse fun _ => named? cs

end Toml

end ControlPlane
