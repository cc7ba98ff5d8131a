/-!
# Splitting Text

Cutting a text at one separator. The separator itself belongs to neither part,
and a text without it is not cut.

## Main definitions

* `splitFirst`: Cuts at the first separator.
* `splitLast`: Cuts at the last separator.
* `splitAll`: Cuts at every separator.
* `dropFront?`: What follows a given beginning.
* `lowerCase`: The letters of ASCII in lower case.
-/

namespace ControlPlane

namespace Text

/-- The parts before and after the first separator. -/
def splitFirst (separator : Char) : List Char → Option (List Char × List Char)
  | [] => none
  | c :: rest =>
    if c = separator then some ([], rest)
    else (splitFirst separator rest).map fun (front, back) => (c :: front, back)

/-- The parts before and after the last separator. -/
def splitLast (separator : Char) : List Char → Option (List Char × List Char)
  | [] => none
  | c :: rest =>
    match splitLast separator rest with
    | some (front, back) => some (c :: front, back)
    | none => if c = separator then some ([], rest) else none

/-- The parts between all the separators, one more than there are separators. -/
def splitAll (separator : Char) : List Char → List (List Char)
  | [] => [[]]
  | c :: rest =>
    if c = separator then [] :: splitAll separator rest
    else match splitAll separator rest with
      | [] => [[c]]
      | part :: parts => (c :: part) :: parts

/-- The characters that follow a given beginning. -/
def dropFront? : (front : List Char) → List Char → Option (List Char)
  | [], cs => some cs
  | _ :: _, [] => none
  | f :: front, c :: cs => if f = c then dropFront? front cs else none

/-- The text with the letters of ASCII in lower case. -/
def lowerCase (s : String) : String :=
  String.ofList (s.toList.map Char.toLower)

end Text

end ControlPlane
