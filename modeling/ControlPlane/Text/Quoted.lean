import ControlPlane.Text.Numeral
import ControlPlane.Text.Printable

/-!
# Quoted Text

Configuration entries and request targets are shown in messages between
quotation marks, so that blanks, control characters and look-alikes in them
can be seen. A character that is not shown as it is becomes an escape: a letter
after a backslash for the common ones, and otherwise its code point in
hexadecimal between braces. The apostrophe needs no escape.

## Main definitions

* `escape`: The written form of one character.
* `quoted`: A text between quotation marks.
-/

namespace ControlPlane

namespace Text

/-- The written form of one character inside quotation marks. -/
def escape (c : Char) : List Char :=
  if c = '\x00' then ['\\', '0']
  else if c = '\t' then ['\\', 't']
  else if c = '\r' then ['\\', 'r']
  else if c = '\n' then ['\\', 'n']
  else if c = '"' then ['\\', '"']
  else if c = '\\' then ['\\', '\\']
  else if isGraphemeExtender c || !isPrintable c then
    '\\' :: 'u' :: '\x7b' :: (toDigits 16 c.toNat ++ ['\x7d'])
  else [c]

/-- The text between quotation marks, each character in its written form. -/
def quoted (s : String) : String :=
  String.ofList ('"' :: (s.toList.flatMap escape ++ ['"']))

end Text

end ControlPlane
