import ControlPlane.Text.Split

/-!
# Request Targets

What a request line may ask for. A target is a path with an optional query, a
whole address with a scheme, an authority alone, or an asterisk. What counts
afterwards is its path and query: the fragment is cut off, and an address
without a path has the path `/`. An authority alone has no path and stands for
itself.

Paths and queries may hold characters that should have been escaped, as long as
they cannot be taken for something else.

## Main definitions

* `pathAndQuery?`: The path and the query of a text that holds both.
* `authorityLength?`: How many characters of a text are its authority.
* `scheme`: What a text says about its scheme.
* `target?`: What a target asks for, if it is valid.
-/

namespace ControlPlane

namespace Http

/-- The longest target, in octets. -/
def maxTargetLength : Nat := 65534

/-- The code point is that of a character outside ASCII. -/
def isBeyondAscii (c : Char) : Bool :=
  0x80 ≤ c.toNat

/-- The character may stand in a path. -/
def isPathChar (c : Char) : Bool :=
  let n := c.toNat
  n == 0x21 || (0x24 ≤ n && n ≤ 0x3B) || n == 0x3D || (0x40 ≤ n && n ≤ 0x5F) ||
    (0x61 ≤ n && n ≤ 0x7A) || n == 0x7C || n == 0x7E || c == '"' || c == '\x7b' || c == '\x7d' ||
    isBeyondAscii c

/-- The character may stand in a query. -/
def isQueryChar (c : Char) : Bool :=
  let n := c.toNat
  n == 0x21 || (0x24 ≤ n && n ≤ 0x3B) || n == 0x3D || (0x3F ≤ n && n ≤ 0x7E) || isBeyondAscii c

/-- The characters of a query, up to a fragment. -/
def query? : List Char → Option (List Char)
  | [] => some []
  | c :: rest =>
    if c = '#' then some []
    else if isQueryChar c then (query? rest).map (c :: ·)
    else none

/-- The characters of a path and the query after it, up to a fragment. -/
def pathAndQuery? : List Char → Option (List Char)
  | [] => some []
  | c :: rest =>
    if c = '?' then (query? rest).map (c :: ·)
    else if c = '#' then some []
    else if isPathChar c then (pathAndQuery? rest).map (c :: ·)
    else none

/-- The character may stand in an authority, beside the percent sign. -/
def isAuthorityChar (c : Char) : Bool :=
  c.isAlphanum || "!$&'()*+,-.:;=@[]_~".toList.contains c

/-- What reading an authority has seen. -/
structure AuthorityScan where
  length : Nat := 0
  /-- Colons that may come before a port. -/
  colons : Nat := 0
  opened : Bool := false
  closed : Bool := false
  /-- A percent sign outside user information and brackets. -/
  percent : Bool := false
  /-- How many characters end with the last at-sign. -/
  atSign : Option Nat := none

/-- Reads one more character of an authority. -/
def AuthorityScan.next (s : AuthorityScan) (c : Char) : Option AuthorityScan :=
  let s' := { s with length := s.length + 1 }
  if c = ':' then if 8 ≤ s.colons then none else some { s' with colons := s.colons + 1 }
  else if c = '[' then if s.percent || s.opened then none else some { s' with opened := true }
  else if c = ']' then
    if !s.opened || s.closed then none
    else some { s' with closed := true, colons := 0, percent := false }
  else if c = '@' then some { s' with colons := 0, percent := false, atSign := some s'.length }
  else if c = '%' then some { s' with percent := true }
  else if isAuthorityChar c then some s'
  else none

/-- Reads an authority up to a path, a query or a fragment. -/
def AuthorityScan.run (s : AuthorityScan) : List Char → Option AuthorityScan
  | [] => some s
  | c :: rest =>
    if c = '/' || c = '?' || c = '#' then some s
    else (s.next c).bind fun s' => AuthorityScan.run s' rest

/-- How many characters at the front are an authority. Brackets come in a pair,
    at most one colon leads to a port, the host is not empty after an at-sign,
    and no percent sign is left outside user information and brackets. -/
def authorityLength? (cs : List Char) : Option Nat := do
  let s ← ({} : AuthorityScan).run cs
  if s.opened != s.closed || 1 < s.colons || s.atSign == some s.length && 0 < s.length || s.percent then
    none
  else some s.length

/-- The character may stand in a scheme. -/
def isSchemeChar (c : Char) : Bool :=
  c.isAlphanum || c == '+' || c == '-' || c == '.'

/-- What a text says about its scheme. -/
inductive Scheme where
  | absent
  /-- The scheme, which may be empty, has this many characters. -/
  | present (length : Nat)
  | tooLong
  deriving DecidableEq

/-- Reads the scheme before a colon and two slashes. -/
def scheme (cs : List Char) : Scheme :=
  let name := cs.takeWhile isSchemeChar
  match cs.drop name.length with
  | ':' :: '/' :: '/' :: _ =>
    if cs.length ≤ 3 then .absent
    else if 64 < name.length then .tooLong
    else .present name.length
  | _ => .absent

/-- The path and the query, with a slash for nothing at all. -/
def slashIfEmpty : List Char → String
  | [] => "/"
  | cs => String.ofList cs

/-- What a target of several characters that is no path asks for. -/
def addressTarget? (cs : List Char) : Option String :=
  match scheme cs with
  | .tooLong => none
  | .absent =>
    (authorityLength? cs).bind fun n => if n = cs.length then some (String.ofList cs) else none
  | .present length =>
    let rest := cs.drop (length + 3)
    (authorityLength? rest).bind fun n =>
      if n = 0 then none else (pathAndQuery? (rest.drop n)).map slashIfEmpty

/-- What a target asks for, if it is valid: its path and query, or an authority
    that stands alone. -/
def target? (text : String) : Option String :=
  if maxTargetLength < text.utf8ByteSize then none
  else match text.toList with
    | [] => none
    | ['*'] => some "*"
    | [c] =>
      if c = '/' then some "/"
      else (authorityLength? [c]).bind fun n => if n = 1 then some text else none
    | '/' :: rest => (pathAndQuery? ('/' :: rest)).map slashIfEmpty
    | cs => addressTarget? cs

end Http

end ControlPlane
