import ControlPlane.Toml.Value

/-!
# Tables of a Document

How the lines of a document build up its tables. A header opens a table, which
must not have been opened before, and later lines give values to keys of the
open table. A dotted key leads through tables that dotted keys have made, and no
key is given a value twice.

## Main definitions

* `Table.assign?`: Gives a value to a dotted key.
* `Table.openTable?`, `Table.openElement?`: Opens a table, and the next one of a
  list of tables.
* `Table.within?`: Does something to an open table.
-/

namespace ControlPlane

namespace Toml

namespace Table

/-- Does something to the last of a list of tables. -/
def onLast? (act : Table → Option Table) : List Table → Option (List Table)
  | [] => none
  | [t] => (act t).map fun t => [t]
  | t :: rest => (onLast? act rest).map fun rest => t :: rest

/-- Gives a value to a key, on which dots may lead through other tables. Those
    that are missing come to be; those that are there must have come to be in the
    same way. Only on the way to yet another table may the path also lead through
    one that no header has opened so far. -/
def assign? : (path : List String) → Value → Table → Option Table
  | [], _, _ => none
  | [key], v, t => if (t.find? key).isSome then none else some (t.put key v)
  | key :: rest, v, t =>
    match t.find? key with
    | none => (assign? rest v []).map fun sub => t.put key (.table .dotted sub)
    | some (.table .dotted sub) =>
      (assign? rest v sub).map fun sub => t.put key (.table .dotted sub)
    | some (.table .implied sub) =>
      if rest.length < 2 then none
      else (assign? rest v sub).map fun sub => t.put key (.table .implied sub)
    | some (.tables elements) =>
      if rest.length < 2 then none
      else (onLast? (assign? rest v) elements).map fun elements => t.put key (.tables elements)
    | some _ => none

/-- Opens a table. It may be there already if only tables below it were opened. -/
def openTable? : (path : List String) → Table → Option Table
  | [], _ => none
  | [key], t =>
    match t.find? key with
    | none => some (t.put key (.table .header []))
    | some (.table .implied sub) => some (t.put key (.table .header sub))
    | some _ => none
  | key :: rest, t =>
    match t.find? key with
    | none => (openTable? rest []).map fun sub => t.put key (.table .implied sub)
    | some (.table .inline _) => none
    | some (.table origin sub) =>
      (openTable? rest sub).map fun sub => t.put key (.table origin sub)
    | some (.tables elements) =>
      (onLast? (openTable? rest) elements).map fun elements => t.put key (.tables elements)
    | some _ => none

/-- Opens the next one of a list of tables. -/
def openElement? : (path : List String) → Table → Option Table
  | [], _ => none
  | [key], t =>
    match t.find? key with
    | none => some (t.put key (.tables [[]]))
    | some (.tables elements) => some (t.put key (.tables (elements ++ [[]])))
    | some _ => none
  | key :: rest, t =>
    match t.find? key with
    | none => (openElement? rest []).map fun sub => t.put key (.table .implied sub)
    | some (.table .inline _) => none
    | some (.table origin sub) =>
      (openElement? rest sub).map fun sub => t.put key (.table origin sub)
    | some (.tables elements) =>
      (onLast? (openElement? rest) elements).map fun elements => t.put key (.tables elements)
    | some _ => none

/-- Does something to a table that was opened before. -/
def within? (act : Table → Option Table) : (path : List String) → Table → Option Table
  | [], t => act t
  | key :: rest, t =>
    match t.find? key with
    | some (.table origin sub) =>
      (within? act rest sub).map fun sub => t.put key (.table origin sub)
    | some (.tables elements) =>
      (onLast? (within? act rest) elements).map fun elements => t.put key (.tables elements)
    | _ => none

end Table

end Toml

end ControlPlane
