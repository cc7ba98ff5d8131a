import ControlPlane.Pattern.Set
import ControlPlane.Text.Letter

/-!
# Patterns

Patterns describe texts: items in a row, alternatives, groups and repetitions. A
pattern is only read here and never applied, so all that matters is whether it can
be read at all.

A group may carry a name, or settings for what is in it; settings in parentheses of
their own last to the end of the group that they stand in. What is repeated is the
item just before the sign, so there must be one. The longer form of repetition,
with counts between braces, cannot occur, because patterns stand between braces
themselves.

## Main definitions

* `Manner.adjust?`: The manner that settings ask for.
* `opening?`: Reads the beginning of a group.
* `alternatives?`: Reads alternatives up to the end of their group.
* `isValid`: A text is a pattern.
-/

namespace ControlPlane

namespace Pattern

/-- The letters of the settings. -/
def settings : List Char :=
  ['i', 'm', 's', 'U', 'u', 'R', 'x']

/-- The manner that settings ask for: those before a hyphen are turned on and those
    behind it off. No setting is named twice, and none is missing behind the
    hyphen. -/
def Manner.adjust? (m : Manner) (letters : List Char) : Option Manner :=
  if letters.all (fun c => c ∈ '-' :: settings) ∧ letters.Nodup ∧ letters.getLast? ≠ some '-' then
    let value (letter : Char) (current : Bool) : Bool :=
      if letter ∈ letters then letter ∈ letters.takeWhile (· ≠ '-') else current
    some ⟨value 'x' m.spaced, value 'u' m.characters, value 'i' m.anyCase⟩
  else none

/-- What a parenthesis opens. -/
inductive Opening where
  /-- A group, perhaps with a name, and the manner in which it is read. -/
  | group (name : Option (List Char)) (manner : Manner)
  /-- Settings for what is left of the group around them. -/
  | settings (manner : Manner)

/-- A text can name a group. -/
def isGroupName : List Char → Bool
  | [] => false
  | c :: rest =>
    (c = '_' || Text.isLetter c) &&
      rest.all fun c => c ∈ ['_', '.', '[', ']'] || Text.isLetterOrNumeral c

/-- Reads the name of a group up to the angle behind it. -/
def named? (m : Manner) (cs : List Char) : Option (Opening × List Char) :=
  match Text.splitFirst '>' cs with
  | some (name, rest) => if isGroupName name then some (.group (some name) m, rest) else none
  | none => none

/-- Reads settings up to the sign behind them. A colon makes them those of a group. -/
def adjusted? (m : Manner) (cs : List Char) : Option (Opening × List Char) :=
  let letters := cs.takeWhile fun c => c ≠ ':' ∧ c ≠ ')'
  match m.adjust? letters, cs.dropWhile fun c => c ≠ ':' ∧ c ≠ ')' with
  | some adjusted, ':' :: rest => some (.group none adjusted, rest)
  | some adjusted, ')' :: rest =>
    if letters.isEmpty then none else some (.settings adjusted, rest)
  | _, _ => none

/-- Reads the beginning of a group behind its parenthesis. Groups that look ahead or
    back are refused. -/
def opening? (m : Manner) (cs : List Char) : Option (Opening × List Char) :=
  match m.skip cs with
  | '?' :: 'P' :: '<' :: rest => named? m rest
  | '?' :: '<' :: rest =>
    if rest.head? = some '!' ∨ rest.head? = some '=' then none else named? m rest
  | '?' :: rest => adjusted? m rest
  | rest => some (.group none m, rest)

/-- What was read of a group: how deep each alternative before the last one is
    nested, and each item of the last one. Settings are no items that could be
    repeated, and have no depth. -/
structure Progress where
  alternatives : List Nat := []
  items : List (Option Nat) := []

namespace Progress

/-- One more item. -/
def item (p : Progress) (depth : Nat) : Progress :=
  { p with items := some depth :: p.items }

/-- How deep the items of the last alternative are nested. -/
def itemDepth (p : Progress) : Nat :=
  depthTogether (p.items.map (·.getD 0))

/-- A new alternative. -/
def alternative (p : Progress) : Progress :=
  { alternatives := p.itemDepth :: p.alternatives }

/-- Repeats the last item, if it can be repeated. -/
def repeated? (p : Progress) : Option Progress :=
  match p.items with
  | some depth :: before => some { p with items := some (depth + 1) :: before }
  | _ => none

/-- How deep everything is nested. -/
def depth (p : Progress) : Nat :=
  depthTogether (p.itemDepth :: p.alternatives)

end Progress

/-- A group that was read: how deep it is nested, the names so far, and what follows
    it. -/
structure Reading where
  depth : Nat
  names : List (List Char)
  rest : List Char

/-- The item that a sign stands for by itself. -/
def Item.ofSign : Char → Item
  | '.' => .any
  | '^' | '$' => .edge
  | c => .literal c false

/-- Reads alternatives up to the end of their group, or of the text outside all
    groups. So many groups are open. No two groups have the same name. -/
def alternatives? : (fuel : Nat) → (level : Nat) → Manner → (names : List (List Char)) →
    Progress → List Char → Option Reading
  | 0, _, _, _, _, _ => none
  | fuel + 1, level, m, names, p, cs =>
    match m.skip cs with
    | [] => if level = 0 then some ⟨p.depth, names, []⟩ else none
    | ')' :: rest => if level = 0 then none else some ⟨p.depth, names, rest⟩
    | '|' :: rest => alternatives? fuel level m names p.alternative rest
    | '*' :: rest | '+' :: rest | '?' :: rest =>
      match p.repeated? with
      | none => none
      | some p =>
        alternatives? fuel level m names p (if rest.head? = some '?' then rest.drop 1 else rest)
    | '\x7b' :: _ => none
    | '[' :: rest =>
      match PatternSet.ofText? m rest with
      | none => none
      | some (depth, rest) => alternatives? fuel level m names (p.item depth) rest
    | '(' :: rest =>
      match opening? m rest with
      | none => none
      | some (.settings adjusted, rest) =>
        alternatives? fuel level adjusted names { p with items := none :: p.items } rest
      | some (.group name adjusted, rest) =>
        if depthLimit ≤ level ∨ name.any names.contains then none
        else match alternatives? fuel (level + 1) adjusted (name.toList ++ names) {} rest with
          | none => none
          | some read => alternatives? fuel level m read.names (p.item (read.depth + 1)) read.rest
    | '\\' :: rest =>
      match Item.escaped? m rest with
      | none => none
      | some (item, rest) =>
        if item.isSupported m then alternatives? fuel level m names (p.item 0) rest else none
    | c :: rest =>
      if (Item.ofSign c).isSupported m then alternatives? fuel level m names (p.item 0) rest
      else none

/-- The text is a pattern. -/
def isValid (cs : List Char) : Bool :=
  match alternatives? (cs.length + 1) 0 {} [] {} cs with
  | some read => read.depth ≤ depthLimit
  | none => false

end Pattern

end ControlPlane
