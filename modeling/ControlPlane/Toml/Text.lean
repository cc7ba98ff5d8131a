import ControlPlane.Text.Numeral
import ControlPlane.Toml.Layout

/-!
# Texts of a Document

Texts stand between quotation marks, on one line or between tripled marks on
several. Double marks allow escapes, single ones take everything as it is. A
line end right after opening tripled marks does not count, and neither do a
backslash at the end of a line and the blanks and line ends that follow it. Up
to two marks may stand right before the closing three.

## Main definitions

* `escape?`: What an escape stands for.
* `lineText?`: Reads a text on one line after its opening mark.
* `tallText?`: Reads a text on several lines after its opening marks.
* `text?`: Reads a text of any form.
* `key?`, `path?`: Reads a key, and several joined by dots.
-/

namespace ControlPlane

namespace Toml

/-- The code point that exactly so many hexadecimal digits name, if it is a
    character. -/
def codePoint? (digits : Nat) (cs : List Char) : Option (Char × List Char) := do
  let ds ← (cs.take digits).mapM (Text.digit? 16)
  let point := Text.ofDigits 16 ds
  if ds.length = digits ∧ point.isValidChar then some (Char.ofNat point, cs.drop digits)
  else none

/-- What an escape stands for, read after its backslash. -/
def escape? : List Char → Option (Char × List Char)
  | 'b' :: rest => some ('\x08', rest)
  | 't' :: rest => some ('\t', rest)
  | 'n' :: rest => some ('\n', rest)
  | 'f' :: rest => some ('\x0c', rest)
  | 'r' :: rest => some ('\r', rest)
  | '"' :: rest => some ('"', rest)
  | '\\' :: rest => some ('\\', rest)
  | 'u' :: rest => codePoint? 4 rest
  | 'U' :: rest => codePoint? 8 rest
  | _ => none

/-- A code point leaves no more than there was. -/
theorem length_le_of_codePoint? {n : Nat} {cs rest : List Char} {c : Char}
    (h : codePoint? n cs = some (c, rest)) : rest.length ≤ cs.length := by
  simp only [codePoint?, bind, Option.bind_eq_some_iff] at h
  obtain ⟨_, _, h⟩ := h
  split at h
  · injection h with h
    injection h with _ h
    rw [← h]
    simp
  · contradiction

/-- An escape leaves less than there was. -/
theorem length_lt_of_escape? {cs rest : List Char} {c : Char}
    (h : escape? cs = some (c, rest)) : rest.length < cs.length := by
  unfold escape? at h
  split at h
  case h_8 => have := length_le_of_codePoint? h; simp only [List.length_cons]; omega
  case h_9 => have := length_le_of_codePoint? h; simp only [List.length_cons]; omega
  case h_10 => simp at h
  all_goals
    simp only [Option.some.injEq, Prod.mk.injEq] at h
    obtain ⟨_, rfl⟩ := h
    simp

/-- Reads a text on one line, up to its closing mark. -/
def lineText? (mark : Char) (escapes : Bool) : List Char → Option (List Char × List Char)
  | [] => none
  | c :: rest =>
    if c = mark then some ([], rest)
    else if escapes ∧ c = '\\' then
      match _h : escape? rest with
      | none => none
      | some (e, after) =>
        (lineText? mark escapes after).map fun (body, rest) => (e :: body, rest)
    else if isPlain c then
      (lineText? mark escapes rest).map fun (body, rest) => (c :: body, rest)
    else none
termination_by cs => cs.length
decreasing_by
  · have := length_lt_of_escape? _h; simp only [List.length_cons]; omega
  · simp

/-- Reads the closing marks of a text on several lines, with the marks before
    them that belong to the text. -/
def closingMarks? (mark : Char) (cs : List Char) : Option (List Char × List Char) :=
  let marks := (cs.takeWhile (· = mark)).length
  if marks < 3 then none
  else some (List.replicate (min (marks - 3) 2) mark, cs.drop (min marks 5))

/-- What follows a backslash at the end of a line, read after the backslash. -/
def joinedLine? (cs : List Char) : Option (List Char) :=
  (newline? (dropSpaces cs)).map dropBlankLines

/-- What follows a line end is shorter. -/
theorem length_lt_of_newline? {cs rest : List Char} (h : newline? cs = some rest) :
    rest.length < cs.length := by
  unfold newline? at h
  split at h
  case h_3 => simp at h
  all_goals
    simp only [Option.some.injEq] at h
    subst h
    simp only [List.length_cons]
    omega

/-- Dropping blanks never lengthens what is left. -/
theorem length_dropSpaces_le (cs : List Char) : (dropSpaces cs).length ≤ cs.length := by
  have h := congrArg List.length (List.takeWhile_append_dropWhile (p := isSpace) (l := cs))
  simp only [List.length_append] at h
  unfold dropSpaces
  omega

/-- What follows a joined line is shorter. -/
theorem length_lt_of_joinedLine? {cs rest : List Char} (h : joinedLine? cs = some rest) :
    rest.length < cs.length := by
  simp only [joinedLine?, Option.map_eq_some_iff] at h
  obtain ⟨after, h, rfl⟩ := h
  have h₁ := length_lt_of_newline? h
  have h₂ := length_dropSpaces_le cs
  have h₃ := length_dropBlankLines_le after
  omega

/-- Reads a text on several lines, up to its closing marks. -/
def tallText? (mark : Char) (escapes : Bool) (cs : List Char) :
    Option (List Char × List Char) :=
  match closingMarks? mark cs with
  | some closed => some closed
  | none =>
    match cs with
    | [] => none
    | c :: rest =>
      if escapes ∧ c = '\\' then
        match _hj : joinedLine? rest with
        | some after => tallText? mark escapes after
        | none =>
          match _h : escape? rest with
          | none => none
          | some (e, after) =>
            (tallText? mark escapes after).map fun (body, rest) => (e :: body, rest)
      else if isPlain c then
        (tallText? mark escapes rest).map fun (body, rest) => (c :: body, rest)
      else
        match _hn : newline? (c :: rest) with
        | none => none
        | some after =>
          (tallText? mark escapes after).map fun (body, rest) => ('\n' :: body, rest)
termination_by cs.length
decreasing_by
  · have := length_lt_of_joinedLine? _hj; simp only [List.length_cons]; omega
  · have := length_lt_of_escape? _h; simp only [List.length_cons]; omega
  · simp
  · exact length_lt_of_newline? _hn

/-- Reads a text after an opening mark of the given kind. -/
def quotedText? (mark : Char) (escapes : Bool) : List Char → Option (List Char × List Char)
  | a :: b :: rest =>
    if a = mark ∧ b = mark then tallText? mark escapes ((newline? rest).getD rest)
    else lineText? mark escapes (a :: b :: rest)
  | cs => lineText? mark escapes cs

/-- Reads a text of any form. -/
def text? : List Char → Option (String × List Char)
  | '"' :: rest => (quotedText? '"' true rest).map fun (body, rest) => (String.ofList body, rest)
  | '\x27' :: rest =>
    (quotedText? '\x27' false rest).map fun (body, rest) => (String.ofList body, rest)
  | _ => none

/-- A character of a key without marks. -/
def isBare (c : Char) : Bool :=
  c.isAlphanum || c = '-' || c = '_'

/-- Reads one key: a text on one line, or some characters without marks. -/
def key? : List Char → Option (String × List Char)
  | '"' :: rest => (lineText? '"' true rest).map fun (body, rest) => (String.ofList body, rest)
  | '\x27' :: rest =>
    (lineText? '\x27' false rest).map fun (body, rest) => (String.ofList body, rest)
  | cs =>
    match cs.takeWhile isBare with
    | [] => none
    | name => some (String.ofList name, cs.dropWhile isBare)

/-- Reads keys joined by dots, with the blanks around each, at most as many as
    stated. -/
def path? : (most : Nat) → List Char → Option (List String × List Char)
  | 0, _ => none
  | most + 1, cs => do
    let (key, cs) ← key? (dropSpaces cs)
    match dropSpaces cs with
    | '.' :: rest =>
      let (keys, cs) ← path? most rest
      return (key :: keys, cs)
    | cs => return ([key], cs)

end Toml

end ControlPlane
