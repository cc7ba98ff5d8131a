/-!
# Text From Octets

Header values and bodies arrive as octets. They are shown as text by decoding
UTF-8 and putting a replacement character for what does not decode: one for
each maximal run of octets that begins a character but does not complete it,
and one for each octet that can begin none.

## Main definitions

* `Lead`: What the first octet of a character says about the ones after it.
* `lead?`: Reads a first octet.
* `continueWith`: Reads the octets owed after a first one.
* `decodeLossy`: The text of any sequence of octets.
-/

namespace ControlPlane

namespace Text

/-- The character that stands for octets that do not decode. -/
def replacement : Char := '\ufffd'

/-- What the first octet of a character says: its share of the code point, how
    many octets are owed after it, and the range the next one must lie in. The
    range rules out overlong forms, surrogates and code points past the last. -/
structure Lead where
  payload : Nat
  owed : Nat
  low : UInt8 := 0x80
  high : UInt8 := 0xBF

/-- Reads the first octet of a character, or nothing if it can begin none. -/
def lead? (b : UInt8) : Option Lead :=
  let n := b.toNat
  if n < 0x80 then some ⟨n, 0, 0x80, 0xBF⟩
  else if n < 0xC2 then none
  else if n < 0xE0 then some ⟨n - 0xC0, 1, 0x80, 0xBF⟩
  else if n < 0xF0 then
    some ⟨n - 0xE0, 2, if n = 0xE0 then 0xA0 else 0x80, if n = 0xED then 0x9F else 0xBF⟩
  else if n < 0xF5 then
    some ⟨n - 0xF0, 3, if n = 0xF0 then 0x90 else 0x80, if n = 0xF4 then 0x8F else 0xBF⟩
  else none

/-- Reads the octets still owed. Answers the code point if all are there, and
    what follows the last octet that fitted. -/
def continueWith : (owed : Nat) → (low high : UInt8) → (point : Nat) → List UInt8 →
    Option Nat × List UInt8
  | 0, _, _, point, rest => (some point, rest)
  | _ + 1, _, _, _, [] => (none, [])
  | owed + 1, low, high, point, b :: rest =>
    if low ≤ b ∧ b ≤ high then
      continueWith owed 0x80 0xBF (point * 64 + b.toNat % 64) rest
    else (none, b :: rest)

/-- Reading the octets owed never lengthens what is left. -/
theorem length_continueWith_le (owed : Nat) (low high : UInt8) (point : Nat) (bs : List UInt8) :
    (continueWith owed low high point bs).2.length ≤ bs.length := by
  induction owed generalizing low high point bs with
  | zero => simp [continueWith]
  | succ owed ih =>
    cases bs with
    | nil => simp [continueWith]
    | cons b rest =>
      simp only [continueWith]
      split
      · exact Nat.le_trans (ih ..) (by simp)
      · simp

/-- The characters that octets decode to, with a replacement character for each
    run that does not decode. -/
def decodeLossy : List UInt8 → List Char
  | [] => []
  | b :: rest =>
    match lead? b with
    | none => replacement :: decodeLossy rest
    | some lead =>
      let read := continueWith lead.owed lead.low lead.high lead.payload rest
      (read.1.map Char.ofNat).getD replacement :: decodeLossy read.2
termination_by bs => bs.length
decreasing_by
  · simp
  · have h := length_continueWith_le lead.owed lead.low lead.high lead.payload rest
    simp only [List.length_cons]
    omega

/-- The text of any sequence of octets. -/
def ofOctets (octets : List UInt8) : String :=
  String.ofList (decodeLossy octets)

/-- The text of octets that are well-formed UTF-8. -/
def ofUtf8? (octets : ByteArray) : Option String :=
  String.fromUTF8? octets

end Text

end ControlPlane
