import ControlPlane.Proofs.Http.Fields
import ControlPlane.Request

/-!
# The Order of Header Fields

A handler sees the header fields of a request with their names in lower case and their values
as text. It sees every field that was sent, as often as it was sent, and the fields of one
name in the order in which they were sent. So it can ask for the first value of a name, or
for all of them.

The order among different names is another matter. A field stands where its name came first,
behind the earlier fields of that name, whatever was sent in between. The list of fields is
the list as it was sent exactly if the fields of each name were sent together. With two
fields of one name around a field of another name it is not, and nothing in the list tells
where the second one had been.

## Main definitions

* `RequestHead.IsValid`: A field that may be sent.
* `RequestLine.sent`: The fields as a handler would see them in the order in which they were
  sent.
* `RequestHead.Arrival`: What becomes of the fields of a request.

## Theorems

* `readFields_eq_ok_iff`: Fields are read if all of them are valid.
* `ofLine_eq_ok_iff`: The head of a request.
* `arrival_of_line`: What becomes of the fields of any request.
-/

namespace ControlPlane

/-- The fields of a request as a handler would see them in the order in which they were
    sent. -/
def RequestLine.sent (line : RequestLine) : List Http.Field :=
  line.headers.map fun field => (Text.lowerCase field.1, Text.ofOctets field.2)

namespace RequestHead

open Http (named Clustered)

/-- The field may be sent: its name is one, and its value too. -/
def IsValid (field : String × List UInt8) : Prop :=
  Http.IsFieldName field.1 ∧ Http.isFieldValue field.2 = true

/-- Fields are read if all of them are valid, and their names are then in lower case. -/
theorem readFields_eq_ok_iff (fields kept : List (String × List UInt8)) :
    readFields fields = .ok kept ↔
      (∀ field ∈ fields, IsValid field) ∧
        kept = fields.map fun field => (Text.lowerCase field.1, field.2) := by
  induction fields generalizing kept with
  | nil =>
      rw [readFields, Except.ok.injEq]
      exact ⟨fun h => ⟨nofun, h.symm⟩, fun h => h.2.symm⟩
  | cons field rest ih =>
      rw [readFields, List.forall_mem_cons]
      cases hname : Http.fieldName? field.1 with
      | none =>
          -- A name that is not kept is not valid.
          refine ⟨nofun, fun ⟨⟨hvalid, _⟩, _⟩ => ?_⟩
          rw [(Http.fieldName?_eq_some_iff field.1 _).mpr ⟨hvalid.1, rfl⟩] at hname
          exact absurd hname nofun
      | some lower =>
          rcases (Http.fieldName?_eq_some_iff field.1 lower).mp hname with ⟨hlegal, hlower⟩
          by_cases hvalue : Http.isFieldValue field.2 = true
          · simp only [if_pos hvalue]
            cases hrest : readFields rest with
            | error fault =>
                refine ⟨nofun, fun ⟨⟨_, hothers⟩, _⟩ => ?_⟩
                rw [(ih _).mpr ⟨hothers, rfl⟩] at hrest
                exact absurd hrest nofun
            | ok others =>
                rcases (ih others).mp hrest with ⟨hvalid, hothers⟩
                rw [Except.ok.injEq, hothers, ← hlower, List.map_cons]
                exact ⟨fun h => ⟨⟨⟨hlegal, hvalue⟩, hvalid⟩, h.symm⟩, fun h => h.2.symm⟩
          · simp only [if_neg hvalue]
            exact ⟨nofun, fun ⟨⟨hvalid, _⟩, _⟩ => absurd hvalid.2 hvalue⟩

/-- The head of a request, if all its parts are valid. Its fields are those that were sent,
    as a message keeps them. -/
theorem ofLine_eq_ok_iff (line : RequestLine) (peer : SocketAddress) (head : RequestHead) :
    ofLine line peer = .ok head ↔
      Http.Method.ofToken? line.method = some head.method ∧
        Http.target? line.target = some head.target ∧
        (∀ field ∈ line.headers, IsValid field) ∧
        head.peer = peer ∧ head.headers = Http.gather line.sent := by
  -- Decoding values and gathering fields may change places.
  have hshown : shown (line.headers.map fun field => (Text.lowerCase field.1, field.2)) =
      Http.gather line.sent := by
    rw [shown, ← Http.gather_map, List.map_map]
    rfl
  unfold ofLine
  cases hmethod : Http.Method.ofToken? line.method with
  | none => exact ⟨nofun, fun h => absurd h.1 nofun⟩
  | some method =>
      cases htarget : Http.target? line.target with
      | none => exact ⟨nofun, fun h => absurd h.2.1 nofun⟩
      | some target =>
          cases hread : readFields line.headers with
          | error fault =>
              refine ⟨nofun, fun ⟨_, _, hvalid, _⟩ => ?_⟩
              rw [(readFields_eq_ok_iff _ _).mpr ⟨hvalid, rfl⟩] at hread
              exact absurd hread nofun
          | ok kept =>
              rcases (readFields_eq_ok_iff _ _).mp hread with ⟨hvalid, hkept⟩
              simp only [Except.ok.injEq, hkept, hshown, Option.some.injEq]
              constructor
              · intro h
                rw [← h]
                exact ⟨rfl, rfl, hvalid, rfl, rfl⟩
              · rintro ⟨hm, ht, _, hp, hh⟩
                rw [hm, ht, ← hp, ← hh]

/-- What becomes of the fields of a request. -/
structure Arrival (line : RequestLine) (peer : SocketAddress) : Prop where
  /-- There is a head exactly if all parts of the request are valid. -/
  valid : (∃ head, ofLine line peer = .ok head) ↔
    (Http.Method.ofToken? line.method).isSome = true ∧ (Http.target? line.target).isSome = true ∧
      ∀ field ∈ line.headers, IsValid field
  /-- The fields are those that were sent, each as often as it was sent. -/
  complete : ∀ head, ofLine line peer = .ok head → head.headers.Perm line.sent
  /-- Those of one name are in the order in which they were sent. -/
  within : ∀ head, ofLine line peer = .ok head → ∀ name,
    named name head.headers = named name line.sent
  /-- They stand together, and the names come in the order in which they came first. -/
  blocks : ∀ head, ofLine line peer = .ok head →
    head.headers = (line.sent.map Prod.fst).eraseDups.flatMap fun name => named name line.sent
  /-- So the fields are in the order in which they were sent exactly if those of each name
      were sent together. -/
  kept : ∀ head, ofLine line peer = .ok head → (head.headers = line.sent ↔ Clustered line.sent)

/-- The fields of a request keep their order among those of the same name, and all of them
    keep it if those of each name were sent together. -/
theorem arrival_of_line (line : RequestLine) (peer : SocketAddress) : Arrival line peer := by
  have hheaders : ∀ head, ofLine line peer = .ok head → head.headers = Http.gather line.sent :=
    fun head h => ((ofLine_eq_ok_iff line peer head).mp h).2.2.2.2
  constructor
  case valid =>
    simp only [ofLine_eq_ok_iff, Option.isSome_iff_exists]
    constructor
    · rintro ⟨head, hmethod, htarget, hvalid, _⟩
      exact ⟨⟨_, hmethod⟩, ⟨_, htarget⟩, hvalid⟩
    · rintro ⟨⟨method, hmethod⟩, ⟨target, htarget⟩, hvalid⟩
      exact ⟨⟨peer, method, target, Http.gather line.sent⟩, hmethod, htarget, hvalid, rfl, rfl⟩
  case complete =>
    intro head h
    rw [hheaders head h]
    exact Http.perm_gather line.sent
  case within =>
    intro head h name
    rw [hheaders head h, Http.named_gather]
  case blocks =>
    intro head h
    rw [hheaders head h, Http.gather_eq_flatMap]
  case kept =>
    intro head h
    rw [hheaders head h]
    exact Http.gather_eq_self_iff line.sent

/-- A request whose two fields of one name were sent around a field of another name. -/
def interleaved : RequestLine :=
  ⟨"GET", "/", [("a", [0x31]), ("b", [0x32]), ("a", [0x33])]⟩

/-- The second field of the name is seen before the field that was sent before it. -/
theorem headers_interleaved_ne :
    ∃ head, ofLine interleaved ⟨.v4 0x7F000001, 4000, 0⟩ = .ok head ∧
      head.headers = [("a", "1"), ("a", "3"), ("b", "2")] ∧
      interleaved.sent = [("a", "1"), ("b", "2"), ("a", "3")] ∧
      head.headers ≠ interleaved.sent := by
  have hsent : interleaved.sent = [("a", "1"), ("b", "2"), ("a", "3")] := by decide +kernel
  have hvalid : ∀ field ∈ interleaved.headers, IsValid field := by
    have hname : Http.IsFieldName "a" ∧ Http.IsFieldName "b" := by decide
    intro field hmem
    simp only [interleaved, List.mem_cons, List.not_mem_nil, or_false] at hmem
    rcases hmem with rfl | rfl | rfl
    · exact ⟨hname.1, rfl⟩
    · exact ⟨hname.2, rfl⟩
    · exact ⟨hname.1, rfl⟩
  have hkept : Http.gather interleaved.sent = [("a", "1"), ("a", "3"), ("b", "2")] := by
    rw [hsent]
    decide +kernel
  refine ⟨⟨⟨.v4 0x7F000001, 4000, 0⟩, .get, "/", Http.gather interleaved.sent⟩, ?_, hkept, hsent,
    ?_⟩
  · rw [ofLine_eq_ok_iff]
    exact ⟨rfl, rfl, hvalid, rfl, rfl⟩
  · rw [hkept, hsent]
    decide

end RequestHead

end ControlPlane
