import ControlPlane.Pattern.Item
import ControlPlane.Text.Split

/-!
# Sets in Patterns

A set between brackets stands for any one of its members. Members are items,
ranges of characters, named classes of ASCII and sets again; two sets can also be
combined by what they share, by their difference, or by what is in only one.

Reading a set answers how deeply it is nested, since patterns may be nested only
so far.

## Main definitions

* `depthLimit`: How deep a pattern may be nested.
* `depthTogether`: How deep things are nested that stand side by side.
* `PatternSet.named?`: Reads a named class of ASCII.
* `PatternSet.open?`: Reads the beginning of a set.
* `PatternSet.member?`: Reads an item or a range.
* `PatternSet.members?`: Reads a set from its first member to its end.
-/

namespace ControlPlane

namespace Pattern

/-- How deep a pattern may be nested. -/
def depthLimit : Nat := 250

/-- How deep things are nested that stand side by side, given how deep each of them
    is. Two of them or more make a level of their own. -/
def depthTogether (depths : List Nat) : Nat :=
  depths.foldl max 0 + if depths.length < 2 then 0 else 1

namespace PatternSet

/-- The names of the classes of ASCII. -/
def names : List String :=
  ["alnum", "alpha", "ascii", "blank", "cntrl", "digit", "graph", "lower", "print", "punct",
    "space", "upper", "word", "xdigit"]

/-- Reads a named class behind its opening bracket, and tells whether it is the class
    of all other characters. -/
def named? : List Char → Option (Bool × List Char)
  | ':' :: cs =>
    let complement := cs.head? = some '^'
    match Text.splitFirst ':' (if complement then cs.drop 1 else cs) with
    | some (name, ']' :: rest) =>
      if String.ofList name ∈ names then some (complement, rest) else none
    | _ => none
  | _ => none

/-- A named class stands for something. -/
def isNamedSupported (m : Manner) (complement : Bool) : Bool :=
  if m.characters then !m.anyCase else !complement

/-- How many hyphens a set begins with, which stand for themselves, and what follows
    them. -/
def hyphens (m : Manner) : (fuel : Nat) → List Char → Nat × List Char
  | fuel + 1, '-' :: rest =>
    let (count, rest) := hyphens m fuel (m.skip rest)
    (count + 1, rest)
  | _, cs => (0, cs)

/-- Reads the beginning of a set behind its opening bracket: the sign that makes it
    the set of all others, and the members that stand for themselves only there. The
    answer is how many of these there are. -/
def open? (m : Manner) (cs : List Char) : Option (Nat × List Char) :=
  let cs := m.skip cs
  let complement := cs.head? = some '^'
  let cs := if complement then m.skip (cs.drop 1) else cs
  let (count, rest) := hyphens m cs.length cs
  if complement && !m.characters then none
  else if count ≠ 0 && !(Item.literal '-' false).isSupportedInSet m then none
  else match count, rest with
    | 0, ']' :: rest =>
      if (Item.literal ']' false).isSupportedInSet m then some (1, rest) else none
    | count, rest => some (count, rest)

/-- Reads an item. -/
def item? (m : Manner) : List Char → Option (Item × List Char)
  | [] => none
  | '\\' :: rest => Item.escaped? m rest
  | c :: rest => some (.literal c false, rest)

/-- Reads an item or a range. A hyphen makes a range unless it ends the set or is
    one of two. -/
def member? (m : Manner) (cs : List Char) : Option (List Char) :=
  match item? m cs with
  | none => none
  | some (first, rest) =>
    if !first.isSupportedInSet m then none
    else match m.skip rest with
      | '-' :: after =>
        match m.skip after with
        | ']' :: _ | '-' :: _ => some ('-' :: after)
        | cs =>
          match first, item? m cs with
          | .literal low _, some (.literal high asOctet, rest) =>
            if low ≤ high ∧ (Item.literal high asOctet).isSupportedInSet m then some rest else none
          | _, _ => none
      | rest => some rest

/-- How deep a set is nested whose members stand behind another set, if there is
    one, with which they are combined. -/
def depthBehind (before : Option Nat) (depths : List Nat) : Nat :=
  match before with
  | none => depthTogether depths
  | some before => max before (depthTogether depths) + 1

/-- Reads members up to the end of a set, in which sets may be nested so many levels
    further. The answer is how deep they are nested. -/
def members? (m : Manner) : (fuel levels : Nat) → (before : Option Nat) → (depths : List Nat) →
    List Char → Option (Nat × List Char)
  | 0, _, _, _, _ => none
  | fuel + 1, levels, before, depths, cs =>
    match m.skip cs with
    | [] => none
    | ']' :: rest => some (depthBehind before depths, rest)
    | '[' :: rest =>
      match named? rest with
      | some (complement, rest) =>
        if isNamedSupported m complement then members? m fuel levels before (0 :: depths) rest else none
      | none =>
        match levels, open? m rest with
        | 0, _ | _, none => none
        | level + 1, some (count, rest) =>
          match members? m fuel level none (List.replicate count 0) rest with
          | none => none
          | some (depth, rest) => members? m fuel levels before ((depth + 1) :: depths) rest
    | '&' :: '&' :: rest | '-' :: '-' :: rest | '~' :: '~' :: rest =>
      members? m fuel levels (some (depthBehind before depths)) [] rest
    | cs =>
      match member? m cs with
      | none => none
      | some rest => members? m fuel levels before (0 :: depths) rest

/-- Reads a set behind its opening bracket. -/
def ofText? (m : Manner) (cs : List Char) : Option (Nat × List Char) :=
  match open? m cs with
  | none => none
  | some (count, rest) =>
    (members? m (rest.length + 1) depthLimit none (List.replicate count 0) rest).map
      fun (depth, rest) => (depth + 1, rest)

end PatternSet

end Pattern

end ControlPlane
