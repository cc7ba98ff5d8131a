import ControlPlane.Toml.Moment
import ControlPlane.Toml.Number
import ControlPlane.Toml.Table
import ControlPlane.Toml.Text

/-!
# Documents

Reading a document: first the text becomes a list of statements, one for each
line that says something, and then the statements build up the table that the
document describes.

Lists and tables between braces nest, but not without limit.

## Main definitions

* `value?`: Reads a value.
* `Statement`: What a line of a document says.
* `statements?`: Reads the statements of a document.
* `Document.ofStatements?`: The table that statements describe.
* `Document.ofText?`: Reads a document.
-/

namespace ControlPlane

namespace Toml

/-- How deep lists and tables may nest, and how many keys a dotted key may join. -/
def depthLimit : Nat := 79

/-- Reads a value that holds no other values. -/
def scalar? (cs : List Char) : Option (Value × List Char) :=
  match cs with
  | '"' :: _ | '\x27' :: _ => (text? cs).map fun (s, rest) => (.text s, rest)
  | 't' :: 'r' :: 'u' :: 'e' :: rest => some (.boolean true, rest)
  | 'f' :: 'a' :: 'l' :: 's' :: 'e' :: rest => some (.boolean false, rest)
  | cs =>
    match moment? cs with
    | some (m, rest) => some (.moment m, rest)
    | none =>
      match real? cs with
      | some (r, rest) => some (.real r, rest)
      | none => (integer? cs).map fun (n, rest) => (.integer n, rest)

/-- Reads the items of a list after its opening bracket, at most as many as
    stated. A comma may follow the last one. -/
def items? (value : List Char → Option (Value × List Char)) :
    (most : Nat) → List Char → Option (List Value × List Char)
  | 0, _ => none
  | most + 1, cs =>
    match dropGap false cs with
    | ']' :: rest => some ([], rest)
    | cs => do
      let (v, cs) ← value cs
      match dropGap false cs with
      | ',' :: rest =>
        let (vs, rest) ← items? value most rest
        return (v :: vs, rest)
      | ']' :: rest => return ([v], rest)
      | _ => none

/-- Reads a dotted key, an equals sign and a value. -/
def keyValue? (value : List Char → Option (Value × List Char)) (cs : List Char) :
    Option (List String × Value × List Char) := do
  let (path, cs) ← path? depthLimit cs
  let (v, cs) ← value (dropSpaces (← mark? '=' cs))
  return (path, v, cs)

/-- Reads keys with their values up to a closing brace, at most as many as stated
    and at least one. -/
def keyValues? (value : List Char → Option (Value × List Char)) :
    (most : Nat) → List Char → Option (List (List String × Value) × List Char)
  | 0, _ => none
  | most + 1, cs => do
    let (path, v, cs) ← keyValue? value cs
    match dropSpaces cs with
    | ',' :: rest =>
      let (others, rest) ← keyValues? value most rest
      return ((path, v) :: others, rest)
    | '}' :: rest => return ([(path, v)], rest)
    | _ => none

/-- Gives values to keys one after the other. -/
def Table.assignAll? (t : Table) : List (List String × Value) → Option Table
  | [] => some t
  | (path, v) :: rest => do (← t.assign? path v).assignAll? rest

/-- Reads a value in which lists and tables nest at most as deep as stated. -/
def value? : (depth : Nat) → List Char → Option (Value × List Char)
  | depth + 1, '[' :: rest =>
    (items? (value? depth) rest.length rest).map fun (items, rest) => (.list items, rest)
  | depth + 1, '{' :: rest =>
    match dropSpaces rest with
    | '}' :: rest => some (.table .inline [], rest)
    | cs => do
      let (assignments, rest) ← keyValues? (value? depth) cs.length cs
      return (.table .inline (← Table.assignAll? [] assignments), rest)
  | _, cs => scalar? cs

/-- What a line of a document says. -/
inductive Statement where
  /-- The lines after it are about this table. -/
  | header (path : List String)
  /-- The lines after it are about a new element of this list of tables. -/
  | element (path : List String)
  | assignment (path : List String) (value : Value)

/-- Reads what a line says, and the line end after it. -/
def statement? (cs : List Char) : Option (Statement × List Char) :=
  match cs with
  | '[' :: '[' :: rest => do
    let (path, cs) ← path? depthLimit rest
    let cs ← mark? ']' (← mark? ']' cs)
    return (.element path, ← lineEnd? cs)
  | '[' :: rest => do
    let (path, cs) ← path? depthLimit rest
    return (.header path, ← lineEnd? (← mark? ']' cs))
  | cs => do
    let (path, v, cs) ← keyValue? (value? depthLimit) cs
    return (.assignment path v, ← lineEnd? cs)

/-- Reads the statements of a document of at most so many lines. -/
def statements? : (most : Nat) → List Char → Option (List Statement)
  | 0, _ => none
  | most + 1, cs =>
    match dropSpaces cs with
    | [] => some []
    | c :: rest =>
      if c = '#' ∨ c = '\n' ∨ c = '\r' then do
        statements? most (← lineEnd? (c :: rest))
      else do
        let (s, rest) ← statement? (c :: rest)
        return s :: (← statements? most rest)

namespace Document

/-- The table that statements describe, from a table and the path of the one that
    is open in it. -/
def extend? (opened : List String) (t : Table) : List Statement → Option Table
  | [] => some t
  | .header path :: rest => do extend? path (← t.openTable? path) rest
  | .element path :: rest => do extend? path (← t.openElement? path) rest
  | .assignment path v :: rest => do
    extend? opened (← t.within? (fun t => t.assign? path v) opened) rest

/-- The table that statements describe. -/
def ofStatements? (ss : List Statement) : Option Table :=
  extend? [] [] ss

/-- Reads a document. A byte-order mark at its beginning does not count. -/
def ofText? (s : String) : Option Table := do
  let cs := match s.toList with
    | '\ufeff' :: rest => rest
    | cs => cs
  ofStatements? (← statements? (cs.length + 1) cs)

end Document

end Toml

end ControlPlane
