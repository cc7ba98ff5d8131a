import ControlPlane.Text.Blank
import ControlPlane.Text.Numeral

/-!
# Items of Patterns

The single items that a pattern is made of: characters, classes of characters and
places between characters. A backslash begins the items that have no sign of their
own, and takes the meaning from those that do.

Patterns can be read in several manners. Nothing is known here about characters
beyond ASCII but their numbers, so an item that would have to know more stands
for nothing: the classes of digits, blanks and words can only be had for octets,
and the two cases of letters too. On the other hand, an item for octets must not
take a character apart.

## Main definitions

* `Manner`: How a part of a pattern is read.
* `Manner.skip`: What follows the blanks and remarks that mean nothing.
* `Item`: One item.
* `Item.escaped?`: Reads what follows a backslash.
* `Item.isSupported`, `Item.isSupportedInSet`: Whether an item stands for anything.
-/

namespace ControlPlane

namespace Pattern

/-- How a part of a pattern is read. -/
structure Manner where
  /-- Blanks between items, and remarks behind a number sign, mean nothing. -/
  spaced : Bool := false
  /-- Items stand for characters, and otherwise for octets. -/
  characters : Bool := true
  /-- Letters stand for both of their cases. -/
  anyCase : Bool := false
  deriving DecidableEq

/-- What follows blanks and remarks. A remark lasts to the end of its line. -/
def skipBlanks : (inRemark : Bool) → List Char → List Char
  | _, [] => []
  | true, c :: rest => skipBlanks (c ≠ '\n') rest
  | false, c :: rest =>
    if Text.isBlank c then skipBlanks false rest
    else if c = '#' then skipBlanks true rest
    else c :: rest

/-- What follows the blanks and remarks that mean nothing. -/
def Manner.skip (m : Manner) (cs : List Char) : List Char :=
  if m.spaced then skipBlanks false cs else cs

/-- One item of a pattern. -/
inductive Item where
  /-- A character, perhaps written as an octet. -/
  | literal (c : Char) (asOctet : Bool)
  /-- Any character. -/
  | any
  /-- The beginning or the end of a line or of the text. -/
  | edge
  /-- The beginning or the end of a word, or the lack of it. -/
  | wordEdge
  /-- The digits, the blanks or the characters of words, or all others. -/
  | kind (complement : Bool)
  deriving DecidableEq

namespace Item

/-- Reads so many hexadecimal digits. -/
def hexDigits? (m : Manner) : (count : Nat) → (value : Nat) → List Char →
    Option (Nat × List Char)
  | 0, value, cs => some (value, cs)
  | count + 1, value, cs =>
    match m.skip cs with
    | [] => none
    | c :: rest => (Text.digit? 16 c).bind fun d => hexDigits? m count (value * 16 + d) rest

/-- Reads the number of a character in so many hexadecimal digits. -/
def numbered? (m : Manner) (count : Nat) (cs : List Char) : Option (Item × List Char) :=
  match hexDigits? m count 0 cs with
  | none => none
  | some (value, rest) =>
    if value.isValidChar then some (.literal (Char.ofNat value) (count = 2), rest) else none

/-- The control characters that have letters of their own. -/
def controls : List (Char × Char) :=
  [('a', '\x07'), ('f', '\x0c'), ('t', '\t'), ('n', '\n'), ('r', '\x0d'), ('v', '\x0b')]

/-- Reads what follows a backslash. Signs of ASCII lose their meaning; letters have
    one, or are refused as digits are. -/
def escaped? (m : Manner) : List Char → Option (Item × List Char)
  | [] => none
  | c :: rest =>
    if c = 'x' then numbered? m 2 rest
    else if c = 'u' then numbered? m 4 rest
    else if c = 'U' then numbered? m 8 rest
    else if c ∈ ['d', 's', 'w'] then some (.kind false, rest)
    else if c ∈ ['D', 'S', 'W'] then some (.kind true, rest)
    else if c ∈ ['A', 'z'] then some (.edge, rest)
    else if c ∈ ['b', 'B', '<', '>'] then some (.wordEdge, rest)
    else match controls.find? fun control => control.1 = c with
      | some (_, control) => some (.literal control false, rest)
      | none => if c.toNat < 0x80 ∧ !c.isAlphanum then some (.literal c false, rest) else none

/-- The item stands for something by itself. -/
def isSupported (m : Manner) : Item → Bool
  | .literal c asOctet => if m.characters then !m.anyCase else !(asOctet && 0x80 ≤ c.toNat)
  | .any => m.characters
  | .edge => true
  | .wordEdge => !m.characters
  | .kind complement => !m.characters && !complement

/-- The item stands for something in a set. -/
def isSupportedInSet (m : Manner) : Item → Bool
  | .literal c _ => if m.characters then !m.anyCase else c.toNat < 0x80
  | .kind complement => !m.characters && !complement
  | .any | .edge | .wordEdge => false

end Item

end Pattern

end ControlPlane
