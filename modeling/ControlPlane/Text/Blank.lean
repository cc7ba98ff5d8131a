/-!
# Blank Characters

Blank space at the ends of a configuration entry carries no meaning. Blank is
the white-space property of the character standard, which is wider than the
blanks of ASCII: it holds the no-break space, the ideographic space and the two
line separators, and it leaves out the zero-width space and the byte-order mark.

## Main definitions

* `isBlank`: The character is blank.
* `trimBlank`: A list of characters without the blanks at both ends.
* `trim`: The same for a text.
-/

namespace ControlPlane

namespace Text

/-- The character has the white-space property. -/
def isBlank (c : Char) : Bool :=
  (0x09 ≤ c.toNat && c.toNat ≤ 0x0D) || c.toNat == 0x20 || c.toNat == 0x85 || c.toNat == 0xA0 ||
    c.toNat == 0x1680 || (0x2000 ≤ c.toNat && c.toNat ≤ 0x200A) || c.toNat == 0x2028 ||
    c.toNat == 0x2029 || c.toNat == 0x202F || c.toNat == 0x205F || c.toNat == 0x3000

/-- The characters without the blanks at both ends. -/
def trimBlank (cs : List Char) : List Char :=
  ((cs.dropWhile isBlank).reverse.dropWhile isBlank).reverse

/-- The text without the blanks at both ends. -/
def trim (s : String) : String :=
  String.ofList (trimBlank s.toList)

end Text

end ControlPlane
