import ControlPlane.Proofs.Address.RoundTrip
import ControlPlane.Proofs.Endpoint.Grammar
import ControlPlane.Text.Letter

/-!
# Endpoints Read Back

An endpoint that is written out is read as itself, unless its host would be taken apart. The
writer and the reader go by different signs. The writer looks for a colon in the host and
puts brackets around a host with one. The reader looks for a bracket in front, and ends the
host at the first closing bracket.

So they disagree about two kinds of hosts only. One with a colon must not have a closing
bracket, or the reader stops there. One without a colon is written without brackets and must
not begin with one of its own. Whether it has a closing bracket as well does not matter: the
reader either ends the host there or refuses the text.

A port is always written, so the default port plays no part. Nothing that is meant as a host
is of either kind: an address is written with digits, points and colons, and a name has no
brackets.

## Main definitions

* `Kept`: The hosts that writer and reader agree about.
* `IsHostName`: The names of hosts.
* `RoundTrip`: When an endpoint is read back.

## Theorems

* `reads_toText`: An endpoint with such a host is read back.
* `kept_of_reads`: No other endpoint is.
* `kept_of_address`, `kept_of_name`: What is meant as a host is kept.
* `roundTrip`: When an endpoint is read back, for every endpoint.
-/

namespace ControlPlane

namespace Endpoint

variable {d : UInt16} {e : Endpoint} {host : String}

/-- The host has a colon and no closing bracket, or it has no colon and does not begin with an
    opening bracket. -/
def Kept (host : String) : Prop :=
  (':' ∈ host.toList ∧ ']' ∉ host.toList) ∨ (':' ∉ host.toList ∧ Unbracketed host)

/-- The text is made of letters and numerals of any script, and of hyphens, points and low
    lines. -/
def IsHostName (host : String) : Prop :=
  ∀ c ∈ host.toList, Text.isLetterOrNumeral c = true ∨ c ∈ ['-', '.', '_']

/-- When an endpoint is read back from its written form. -/
structure RoundTrip (e : Endpoint) : Prop where
  /-- Exactly if writer and reader agree about its host. -/
  exact : ∀ d, ofText e.toText d = .ok e ↔ Kept e.host
  /-- So it is if the host is an address of either family, in any notation of it. -/
  address : ∀ a, Address.ofText? e.host = some a → ∀ d, ofText e.toText d = .ok e
  /-- So it is if the host is an address as it is written out. -/
  written : ∀ a : Address, e.host = a.toText → ∀ d, ofText e.toText d = .ok e
  /-- So it is if the host is a name. -/
  name : IsHostName e.host → ∀ d, ofText e.toText d = .ok e
  /-- So it is if the host is empty and stands for every interface. -/
  empty : e.host = "" → ∀ d, ofText e.toText d = .ok e

/-! ### The written form -/

theorem toText_of_colon (h : ':' ∈ e.host.toList) :
    e.toText = "[" ++ e.host ++ "]:" ++ Text.decimal e.port.toNat := by
  rw [toText, if_pos h]

theorem toText_of_no_colon (h : ':' ∉ e.host.toList) :
    e.toText = e.host ++ ":" ++ Text.decimal e.port.toNat := by
  rw [toText, if_neg h]

/-- The port is written as a number, and the number is that of the port. -/
theorem isPort_decimal (port : UInt16) : IsPort (Text.decimal port.toNat) port := by
  rw [IsPort, ← Text.unsigned?_eq_some_iff, Text.decimal, String.toList_ofList]
  exact Text.unsigned?_toDigits port.toNat_lt

/-- A sign that is no digit is no part of a written port. -/
theorem not_mem_decimal {c : Char} (h : c.isDigit = false) (n : Nat) :
    c ∉ (Text.decimal n).toList := by
  rw [Text.decimal, String.toList_ofList]
  intro hmem
  have hnumeral := Text.digitsOnly?_eq_some_iff.mp (Text.digitsOnly?_toDigits n)
  rw [hnumeral.digits c hmem] at h
  cases h

/-- In front of a colon, a text begins as it does alone. -/
theorem unbracketed_append_iff (text : String) :
    Unbracketed (host ++ ":" ++ text) ↔ Unbracketed host := by
  rw [Unbracketed, Unbracketed, toList_hostWithPort]
  cases host.toList with
  | nil => exact ⟨fun _ => nofun, fun _ heq => absurd (Option.some.inj heq) (by decide)⟩
  | cons c rest => rfl

/-! ### Which endpoints are read back -/

/-- An endpoint is read back if writer and reader agree about its host. -/
theorem reads_toText (h : Kept e.host) (d : UInt16) : ∃ form, Reads d form e.toText e := by
  rcases h with ⟨hcolon, hfree⟩ | ⟨hcolon, hstart⟩
  · rw [toText_of_colon hcolon]
    exact ⟨.bracketedWithPort, .bracketedWithPort hfree (isPort_decimal e.port)⟩
  · rw [toText_of_no_colon hcolon]
    have hport : ':' ∉ (Text.decimal e.port.toNat).toList := not_mem_decimal rfl _
    have hsingle : (e.host ++ ":" ++ Text.decimal e.port.toNat).toList.count ':' = 1 := by
      rw [toList_hostWithPort, List.count_append, List.count_cons_self,
        List.count_eq_zero.mpr hcolon, List.count_eq_zero.mpr hport]
    exact ⟨.hostWithPort, .hostWithPort ((unbracketed_append_iff _).mpr hstart) hsingle
      (isPort_decimal e.port)⟩

/-- A text that is read with brackets around the host begins with one and has another, and
    the host has no closing one. In the other forms, no bracket comes first. -/
theorem brackets_of_reads {form : Form} {s : String} (h : Reads d form s e) :
    Unbracketed s ∨ (']' ∈ s.toList ∧ ']' ∉ e.host.toList) := by
  cases h with
  | bracketed free =>
      rw [toList_bracketed]
      exact .inr ⟨by simp, free⟩
  | bracketedWithPort free number =>
      rw [toList_bracketedWithPort]
      exact .inr ⟨by simp, free⟩
  | host start free => exact .inl start
  | hostWithPort start single number => exact .inl start
  | bare start several => exact .inl start

/-- An endpoint that is read back has a host that writer and reader agree about. -/
theorem kept_of_reads {form : Form} (h : Reads d form e.toText e) : Kept e.host := by
  have hbrackets := brackets_of_reads h
  by_cases hcolon : ':' ∈ e.host.toList
  · rw [toText_of_colon hcolon] at hbrackets
    rcases hbrackets with hstart | ⟨_, hfree⟩
    · exact absurd (by rw [toList_bracketedWithPort]; rfl) hstart
    · exact .inl ⟨hcolon, hfree⟩
  · rw [toText_of_no_colon hcolon, unbracketed_append_iff] at hbrackets
    rcases hbrackets with hstart | ⟨hmem, hfree⟩
    · exact .inr ⟨hcolon, hstart⟩
    · -- The closing bracket could only stand in the host.
      rw [toList_hostWithPort, List.mem_append, List.mem_cons] at hmem
      rcases hmem with hhost | heq | hport
      · exact absurd hhost hfree
      · exact absurd heq (by decide)
      · exact absurd hport (not_mem_decimal rfl _)

theorem ofText_toText_iff (d : UInt16) : ofText e.toText d = .ok e ↔ Kept e.host := by
  rw [ofText_eq_ok_iff]
  exact ⟨fun ⟨_, h⟩ => kept_of_reads h, fun h => reads_toText h d⟩

/-! ### What is meant as a host -/

/-- Without brackets, nothing can go wrong. -/
theorem kept_of_free (hopening : '[' ∉ host.toList) (hclosing : ']' ∉ host.toList) :
    Kept host := by
  by_cases hcolon : ':' ∈ host.toList
  · exact .inl ⟨hcolon, hclosing⟩
  · exact .inr ⟨hcolon, fun hhead => hopening (List.mem_of_head? hhead)⟩

/-- An address is written without brackets. -/
theorem kept_of_address {a : Address} (h : Address.ofText? host = some a) : Kept host := by
  have hparts := Address.isPart_of_ofChars? h
  exact kept_of_free (fun hmem => absurd (hparts _ hmem) (by decide))
    fun hmem => absurd (hparts _ hmem) (by decide)

/-- So is a name, since no bracket is a letter or a numeral. -/
theorem kept_of_name (h : IsHostName host) : Kept host := by
  have hopening : ¬ (Text.isLetterOrNumeral '[' = true ∨ '[' ∈ ['-', '.', '_']) := by
    decide +kernel
  have hclosing : ¬ (Text.isLetterOrNumeral ']' = true ∨ ']' ∈ ['-', '.', '_']) := by
    decide +kernel
  exact kept_of_free (fun hmem => hopening (h _ hmem)) fun hmem => hclosing (h _ hmem)

/-- When an endpoint is read back. -/
theorem roundTrip (e : Endpoint) : RoundTrip e := by
  constructor
  case exact => exact ofText_toText_iff
  case address => exact fun a h d => (ofText_toText_iff d).mpr (kept_of_address h)
  case written =>
    intro a h d
    have haddress : Address.ofText? e.host = some a := by rw [h, Address.ofText?_toText]
    exact (ofText_toText_iff d).mpr (kept_of_address haddress)
  case name => exact fun h d => (ofText_toText_iff d).mpr (kept_of_name h)
  case empty =>
    intro h d
    refine (ofText_toText_iff d).mpr (.inr ?_)
    rw [h]
    exact ⟨nofun, nofun⟩

-- Brackets of the host's own are taken for those of the notation.
example : (⟨"[a]", 80⟩ : Endpoint).toText = "[a]:80" ∧
    ofText? "[a]:80" 8332 = some ⟨"a", 80⟩ := by
  decide +kernel

end Endpoint

end ControlPlane
