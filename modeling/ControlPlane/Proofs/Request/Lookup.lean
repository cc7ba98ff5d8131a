import ControlPlane.Proofs.Exchange.OneReply
import ControlPlane.Proofs.Request.Arrival

/-!
# Looking a Header Field Up

A handler that asks for a header field gets the value that was sent first under its name, in
whatever case the letters of the name were sent and are asked for. It gets nothing exactly if
no field of the name was sent.

The fields of a request are not in the order in which they were sent, and a field may have
been moved in front of others that were sent before it. This does not change what comes first
of a name: a field is only moved up to one of the same name that came earlier
(`Http.find?_gather`).

Nothing that is done to a request changes its head, so it gives the same answers at any time
while it is served, whatever becomes of its body and of the reply.

## Main definitions

* `RequestLine.SentFirst`: A value was sent before all others of its name.
* `RequestHead.Lookup`: What a request answers about its fields.

## Theorems

* `firstValue?_headers_eq_some_iff`, `firstValue?_headers_eq_none_iff`: What the head of a
  request answers.
* `lookup_of_line`: What any request answers about its fields.
-/

namespace ControlPlane

/-- The value was sent under the name, and no other was before it. The case of letters does
    not count in names. -/
def RequestLine.SentFirst (line : RequestLine) (name : String) (octets : List UInt8) : Prop :=
  ∃ before written after, line.headers = before ++ (written, octets) :: after ∧
    Text.lowerCase written = Text.lowerCase name ∧
      ∀ earlier ∈ before, Text.lowerCase earlier.1 ≠ Text.lowerCase name

namespace RequestHead

variable {line : RequestLine} {peer : SocketAddress} {head : RequestHead}

/-- What a request answers about its fields, with any body, under any conditions and after any
    operations on it. -/
structure Lookup (line : RequestLine) (peer : SocketAddress) : Prop where
  /-- There is a request for all valid fields. -/
  valid : (Http.Method.ofToken? line.method).isSome = true →
    (Http.target? line.target).isSome = true → (∀ field ∈ line.headers, IsValid field) →
      ∃ head, ofLine line peer = .ok head
  /-- It answers with the value that was sent first under the name, as text. -/
  found : ∀ head, ofLine line peer = .ok head → ∀ body c ops name value,
    (Session.run ⟨c, { head, body }⟩ ops).1.exchange.header name = some value ↔
      ∃ octets, line.SentFirst name octets ∧ value = Text.ofOctets octets
  /-- It answers with nothing exactly if no field was sent under the name. -/
  missing : ∀ head, ofLine line peer = .ok head → ∀ body c ops name,
    (Session.run ⟨c, { head, body }⟩ ops).1.exchange.header name = none ↔
      ∀ field ∈ line.headers, Text.lowerCase field.1 ≠ Text.lowerCase name

/-! ### Names -/

theorem toLower_toLower (c : Char) : c.toLower.toLower = c.toLower := by
  unfold Char.toLower
  grind

theorem lowerCase_lowerCase (s : String) :
    Text.lowerCase (Text.lowerCase s) = Text.lowerCase s := by
  rw [Text.lowerCase, Text.lowerCase, String.toList_ofList, List.map_map]
  congr 1
  exact List.map_congr_left fun c _ => toLower_toLower c

/-- A name is asked for as it was sent or as it is kept. -/
theorem sameName_lowerCase (written name : String) :
    Http.sameName (Text.lowerCase written) name = Http.sameName written name := by
  rw [Http.sameName, lowerCase_lowerCase, Http.sameName]

theorem sameName_iff (written name : String) :
    Http.sameName written name = true ↔ Text.lowerCase written = Text.lowerCase name :=
  beq_iff_eq

/-! ### Fields -/

/-- Fields are looked up in the order in which they were sent. -/
theorem firstValue?_headers (h : ofLine line peer = .ok head) (name : String) :
    Http.firstValue? name head.headers =
      (line.headers.find? fun field => Http.sameName field.1 name).map
        fun field => Text.ofOctets field.2 := by
  have hheaders : head.headers = Http.gather line.sent :=
    ((ofLine_eq_ok_iff line peer head).mp h).2.2.2.2
  have hsame : ∀ a b : Http.Field, a.1 = b.1 → Http.sameName a.1 name = Http.sameName b.1 name :=
    fun a b hname => by rw [hname]
  have hname : ((fun field : Http.Field => Http.sameName field.1 name) ∘
      fun field : String × List UInt8 => (Text.lowerCase field.1, Text.ofOctets field.2)) =
      fun field => Http.sameName field.1 name :=
    funext fun field => sameName_lowerCase field.1 name
  rw [Http.firstValue?, hheaders, Http.find?_gather hsame, RequestLine.sent, List.find?_map,
    hname, Option.map_map]
  rfl

/-- What the head of a request answers. -/
theorem firstValue?_headers_eq_some_iff (h : ofLine line peer = .ok head) (name value : String) :
    Http.firstValue? name head.headers = some value ↔
      ∃ octets, line.SentFirst name octets ∧ value = Text.ofOctets octets := by
  rw [firstValue?_headers h, Option.map_eq_some_iff]
  constructor
  · rintro ⟨⟨written, octets⟩, hfind, hvalue⟩
    rcases List.find?_eq_some_iff_append.mp hfind with ⟨hname, before, after, hsplit, hothers⟩
    refine ⟨octets, ⟨before, written, after, hsplit, (sameName_iff written name).mp hname, ?_⟩,
      hvalue.symm⟩
    intro earlier hmem heq
    have hnot := hothers earlier hmem
    rw [(sameName_iff earlier.1 name).mpr heq] at hnot
    cases hnot
  · rintro ⟨octets, ⟨before, written, after, hsplit, hname, hothers⟩, hvalue⟩
    refine ⟨(written, octets), List.find?_eq_some_iff_append.mpr
      ⟨(sameName_iff written name).mpr hname, before, after, hsplit, ?_⟩, hvalue.symm⟩
    intro earlier hmem
    rw [Bool.not_eq_true', Bool.eq_false_iff]
    exact fun hsame => hothers earlier hmem ((sameName_iff earlier.1 name).mp hsame)

theorem firstValue?_headers_eq_none_iff (h : ofLine line peer = .ok head) (name : String) :
    Http.firstValue? name head.headers = none ↔
      ∀ field ∈ line.headers, Text.lowerCase field.1 ≠ Text.lowerCase name := by
  rw [firstValue?_headers h, Option.map_eq_none_iff, List.find?_eq_none]
  exact forall₂_congr fun field _ => not_congr (sameName_iff field.1 name)

/-! ### Requests -/

/-- Nothing that is done to a request changes what it answers. -/
theorem header_of_run (s : Session) (ops : List Exchange.Operation) (name : String) :
    (s.run ops).1.exchange.header name = Http.firstValue? name s.exchange.head.headers := by
  rw [Exchange.header, Session.head_of_run]

/-- A request answers with the field that was sent first. -/
theorem lookup_of_line (line : RequestLine) (peer : SocketAddress) : Lookup line peer := by
  constructor
  case valid =>
    intro hmethod htarget hvalid
    rcases Option.isSome_iff_exists.mp hmethod with ⟨method, hm⟩
    rcases Option.isSome_iff_exists.mp htarget with ⟨target, ht⟩
    exact ⟨⟨peer, method, target, Http.gather line.sent⟩,
      (ofLine_eq_ok_iff line peer _).mpr ⟨hm, ht, hvalid, rfl, rfl⟩⟩
  case found =>
    intro head h body c ops name value
    rw [header_of_run]
    exact firstValue?_headers_eq_some_iff h name value
  case missing =>
    intro head h body c ops name
    rw [header_of_run]
    exact firstValue?_headers_eq_none_iff h name

-- A field that is moved up in front of another is still not the first of its name.
example : (ofLine ⟨"GET", "/", [("b", [0x31]), ("A", [0x32]), ("B", [0x33])]⟩
    ⟨.v4 0x7F000001, 4000, 0⟩).toOption.map (fun head =>
      (head.headers, Http.firstValue? "B" head.headers)) =
    some ([("b", "1"), ("b", "3"), ("a", "2")], some "1") := by
  decide +kernel

end RequestHead

end ControlPlane
