/-!
# Places in Text

A place in a text is the number of octets before it. A place can fall inside a
character that takes more than one octet; nothing can be cut there.

## Main definitions

* `seek`: The first of some characters, and its place.
* `dropTo?`: What follows a place.
* `takeTo?`: What comes before a place.
* `cut?`: What lies between two places.
-/

namespace ControlPlane

namespace Text

/-- The first character that is looked for, its place, and what follows it. The place
    of the first character of all is given. -/
def seek (isSought : Char → Bool) : (place : Nat) → List Char → Option (Char × Nat × List Char)
  | _, [] => none
  | place, c :: rest =>
    if isSought c then some (c, place, rest) else seek isSought (place + c.utf8Size) rest

/-- What follows a place. -/
def dropTo? : (place : Nat) → List Char → Option (List Char)
  | 0, cs => some cs
  | _ + 1, [] => none
  | place + 1, c :: rest =>
    if c.utf8Size ≤ place + 1 then dropTo? (place + 1 - c.utf8Size) rest else none

/-- What comes before a place. -/
def takeTo? : (place : Nat) → List Char → Option (List Char)
  | 0, _ => some []
  | _ + 1, [] => none
  | place + 1, c :: rest =>
    if c.utf8Size ≤ place + 1 then (takeTo? (place + 1 - c.utf8Size) rest).map (c :: ·) else none

/-- What lies between two places, the first one no further than the last one. -/
def cut? (first last : Nat) (cs : List Char) : Option (List Char) :=
  (dropTo? first cs).bind fun rest => takeTo? (last - first) rest

end Text

end ControlPlane
