/-!
# Values of a Document

What a configuration document says once it is read: texts, numbers, truth
values, moments, lists, and tables of named values.

A table remembers how it came to be. A document may speak of one table in
several places, but only in some orders: the header of a table may follow those
of the tables below it, a dotted key may extend only what dotted keys have made,
and what stands between braces is complete.

## Main definitions

* `Real`, `Moment`: The numbers with a fraction, and dates and times.
* `Origin`: How a table came to be.
* `Value`: Anything that a key can name.
* `Table`: The named values of a table, in the order of their first mention.
* `Table.find?`, `Table.put`: Looking up and replacing by key.
-/

namespace ControlPlane

namespace Toml

/-- A number that is not an integer. A finite one is a coefficient times a power
    of ten. -/
inductive Real where
  | finite (coefficient : Int) (exponent : Int)
  | infinite (negative : Bool)
  | undefined
  deriving DecidableEq

/-- A date. -/
structure Date where
  year : Nat
  month : Nat
  day : Nat
  deriving DecidableEq

/-- A time of day. The fraction of the second is kept as its digits. -/
structure TimeOfDay where
  hour : Nat
  minute : Nat
  second : Nat
  fraction : List Nat := []
  deriving DecidableEq

/-- A date, a time or both, and with both perhaps an offset in minutes. -/
structure Moment where
  date : Option Date := none
  time : Option TimeOfDay := none
  offset : Option Int := none
  deriving DecidableEq

/-- How a table came to be. -/
inductive Origin where
  /-- It has a header of its own. -/
  | header
  /-- Only the header of a table below it was seen. -/
  | implied
  /-- Dotted keys lead through it. -/
  | dotted
  /-- It stands between braces. -/
  | inline
  deriving DecidableEq

/-- Anything that a key can name. -/
inductive Value where
  | text (s : String)
  | integer (n : Int)
  | real (r : Real)
  | boolean (b : Bool)
  | moment (m : Moment)
  | list (items : List Value)
  | table (origin : Origin) (entries : List (String × Value))
  /-- A list of tables, each with a header of its own. -/
  | tables (elements : List (List (String × Value)))

/-- The named values of a table. -/
abbrev Table := List (String × Value)

namespace Table

/-- The value that a key names. -/
def find? (key : String) (t : Table) : Option Value :=
  (List.find? (fun entry => entry.1 = key) t).map Prod.snd

/-- The table with a new value for a key, in its old place if it has one. -/
def put (key : String) (v : Value) (t : Table) : Table :=
  if t.any fun entry => entry.1 = key then
    t.map fun entry => if entry.1 = key then (key, v) else entry
  else t ++ [(key, v)]

end Table

end Toml

end ControlPlane
