/-!
# Layout of a Document

What separates the meaningful parts of a document: blanks, line ends and
comments. A line ends with a line feed, alone or after a carriage return; a
carriage return by itself is never allowed. Only tabs and printing characters
may stand in a comment.

## Main definitions

* `isSpace`, `isPlain`: Blanks within a line, and what may stand anywhere in one.
* `dropSpaces`: What follows the blanks.
* `newline?`: What follows a line end.
* `lineEnd?`: What follows blanks, a comment if there is one, and the line end.
* `dropBlankLines`, `dropGap`: What follows blanks and line ends, without and with
  comments.
-/

namespace ControlPlane

namespace Toml

/-- A blank within a line. -/
def isSpace (c : Char) : Bool :=
  c = ' ' || c = '\t'

/-- A character that may stand in a line: a tab, or anything but a control character. -/
def isPlain (c : Char) : Bool :=
  c = '\t' || (0x20 ≤ c.toNat && c.toNat ≠ 0x7F)

/-- What follows the blanks. -/
def dropSpaces (cs : List Char) : List Char :=
  cs.dropWhile isSpace

/-- What follows a line end. -/
def newline? : List Char → Option (List Char)
  | '\n' :: rest => some rest
  | '\r' :: '\n' :: rest => some rest
  | _ => none

/-- What follows a comment, if one begins here. -/
def dropComment : List Char → List Char
  | '#' :: rest => rest.dropWhile isPlain
  | cs => cs

/-- What follows the rest of a line in which nothing more is said. The end of
    the document is a line end too. -/
def lineEnd? (cs : List Char) : Option (List Char) :=
  match dropComment (dropSpaces cs) with
  | [] => some []
  | rest => newline? rest

/-- What follows blanks and line ends. -/
def dropBlankLines : List Char → List Char
  | '\n' :: rest => dropBlankLines rest
  | '\r' :: '\n' :: rest => dropBlankLines rest
  | c :: rest => if isSpace c then dropBlankLines rest else c :: rest
  | [] => []

/-- What follows blanks, line ends and comments; in the middle of a comment if so
    stated. -/
def dropGap : (comment : Bool) → List Char → List Char
  | _, [] => []
  | _, '\n' :: rest => dropGap false rest
  | _, '\r' :: '\n' :: rest => dropGap false rest
  | true, c :: rest => if isPlain c then dropGap true rest else c :: rest
  | false, c :: rest =>
    if isSpace c then dropGap false rest
    else if c = '#' then dropGap true rest
    else c :: rest

/-- Dropping blank lines never lengthens what is left. -/
theorem length_dropBlankLines_le (cs : List Char) :
    (dropBlankLines cs).length ≤ cs.length := by
  fun_induction dropBlankLines cs with
  | case1 rest ih => simp only [List.length_cons]; omega
  | case2 rest ih => simp only [List.length_cons]; omega
  | case3 c rest _ _ _ ih => simp only [List.length_cons]; omega
  | case4 => simp
  | case5 => simp

end Toml

end ControlPlane
