import ControlPlane.Text.Numeral
import ControlPlane.Toml.Value

/-!
# Moments of a Document

Dates and times, with every part in its fixed number of digits. A date may be
followed by a time, after a letter or a blank, and the time of a date by an
offset. A date has to exist in the calendar; a minute may have a leap second.

## Main definitions

* `number?`: Reads a number of fixed length within bounds.
* `date?`, `timeOfDay?`, `offset?`: The parts.
* `moment?`: Reads a moment.
-/

namespace ControlPlane

namespace Toml

open Text (digit? ofDigits)

/-- Reads a number of exactly so many digits within bounds. -/
def number? (places low high : Nat) (cs : List Char) : Option (Nat × List Char) := do
  let ds ← (cs.take places).mapM (digit? 10)
  let n := ofDigits 10 ds
  if ds.length = places ∧ low ≤ n ∧ n ≤ high then some (n, cs.drop places) else none

/-- Reads one certain character. -/
def mark? (mark : Char) : List Char → Option (List Char)
  | c :: rest => if c = mark then some rest else none
  | [] => none

/-- The number of days of a month. -/
def daysIn (year month : Nat) : Nat :=
  if month = 2 then
    if year % 4 = 0 ∧ (year % 100 ≠ 0 ∨ year % 400 = 0) then 29 else 28
  else if month = 4 ∨ month = 6 ∨ month = 9 ∨ month = 11 then 30
  else 31

/-- Reads a date. -/
def date? (cs : List Char) : Option (Date × List Char) := do
  let (year, cs) ← number? 4 0 9999 cs
  let (month, cs) ← number? 2 1 12 (← mark? '-' cs)
  let (day, cs) ← number? 2 1 (daysIn year month) (← mark? '-' cs)
  return (⟨year, month, day⟩, cs)

/-- Reads the fraction of a second with its point, if there is one. -/
def fraction : List Char → List Nat × List Char
  | '.' :: rest =>
    match Text.digits 10 rest with
    | ([], _) => ([], '.' :: rest)
    | read => read
  | cs => ([], cs)

/-- Reads a time of day. -/
def timeOfDay? (cs : List Char) : Option (TimeOfDay × List Char) := do
  let (hour, cs) ← number? 2 0 23 cs
  let (minute, cs) ← number? 2 0 59 (← mark? ':' cs)
  let (second, cs) ← number? 2 0 60 (← mark? ':' cs)
  let (digits, cs) := fraction cs
  return (⟨hour, minute, second, digits⟩, cs)

/-- Reads an offset in hours and minutes. -/
def offset? : List Char → Option (Int × List Char)
  | 'Z' :: rest | 'z' :: rest => some (0, rest)
  | c :: rest => do
    guard (c = '+' ∨ c = '-')
    let (hours, rest) ← number? 2 0 23 rest
    let (minutes, rest) ← number? 2 0 59 (← mark? ':' rest)
    let total : Int := hours * 60 + minutes
    return (if c = '-' then -total else total, rest)
  | [] => none

/-- Reads what follows a date: a time after its mark, and perhaps an offset. -/
def timeAfter? : List Char → Option (TimeOfDay × Option Int × List Char)
  | c :: rest => do
    guard (c = 'T' ∨ c = 't' ∨ c = ' ')
    let (time, rest) ← timeOfDay? rest
    match offset? rest with
    | some (offset, rest) => return (time, some offset, rest)
    | none => return (time, none, rest)
  | [] => none

/-- Reads a moment. -/
def moment? (cs : List Char) : Option (Moment × List Char) :=
  match date? cs with
  | some (date, cs) =>
    match timeAfter? cs with
    | some (time, offset, rest) => some (⟨some date, some time, offset⟩, rest)
    | none => some (⟨some date, none, none⟩, cs)
  | none => (timeOfDay? cs).map fun (time, rest) => (⟨none, some time, none⟩, rest)

end Toml

end ControlPlane
