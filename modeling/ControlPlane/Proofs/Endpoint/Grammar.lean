import ControlPlane.Endpoint
import ControlPlane.Proofs.Text.Numeral
import ControlPlane.Proofs.Text.Split

/-!
# The Grammar of Endpoints

An entry has one of five forms. `Reads` writes them down as texts put together from a host, the
brackets, a colon and a port, without saying how a reader takes them apart; the reader cuts at
the first closing bracket or at the last colon. The two descriptions agree on every text.

No text has two forms. The opening bracket decides between the first two and the other three,
what follows the first closing bracket between those two, and the number of colons between
those three (`Form.of`). So nothing about the default port enters into whether there is a form.

## Main definitions

* `Form`: The forms of an entry.
* `Reads`: The texts of each form and their endpoints.
* `Form.of`: The only form that a text can have.
* `Grammar`: What the reader does with one text, under every default port.

## Theorems

* `reads_of_ofText?`, `ofText?_of_reads`: The reader against the forms.
* `form_eq_of_reads`: A text has only one form.
* `grammar`: What the reader does, for every text.
-/

namespace ControlPlane

namespace Endpoint

variable {s : String} {d : UInt16} {e : Endpoint} {cs rest : List Char}

/-- The forms of an entry. -/
inductive Form where
  | bracketed
  | bracketedWithPort
  | host
  | hostWithPort
  /-- An address with several colons, without brackets and without a port. -/
  | bare
  deriving DecidableEq

/-- The text does not begin with a bracket. -/
def Unbracketed (s : String) : Prop :=
  s.toList.head? ≠ some '['

/-- The text is the number of a port, in decimal notation. -/
def IsPort (text : String) (port : UInt16) : Prop :=
  Text.Unsigned 65536 text.toList port.toNat

/-- The text has the form, and under the default port it is the text of this endpoint. -/
inductive Reads (d : UInt16) : Form → String → Endpoint → Prop where
  | bracketed {host : String} (free : ']' ∉ host.toList) :
      Reads d .bracketed ("[" ++ host ++ "]") ⟨host, d⟩
  | bracketedWithPort {host text : String} {port : UInt16} (free : ']' ∉ host.toList)
      (number : IsPort text port) :
      Reads d .bracketedWithPort ("[" ++ host ++ "]:" ++ text) ⟨host, port⟩
  | host {host : String} (start : Unbracketed host) (free : ':' ∉ host.toList) :
      Reads d .host host ⟨host, d⟩
  | hostWithPort {host text : String} {port : UInt16} (start : Unbracketed (host ++ ":" ++ text))
      (single : (host ++ ":" ++ text).toList.count ':' = 1) (number : IsPort text port) :
      Reads d .hostWithPort (host ++ ":" ++ text) ⟨host, port⟩
  | bare {host : String} (start : Unbracketed host) (several : 2 ≤ host.toList.count ':') :
      Reads d .bare host ⟨host, d⟩

/-- The form of a text without a bracket, by the number of its colons. -/
def Form.ofColons : (colons : Nat) → Form
  | 0 => .host
  | 1 => .hostWithPort
  | _ + 2 => .bare

/-- The only form that a text can have. -/
def Form.of (s : String) : Form :=
  match s.toList with
  | '[' :: rest =>
    match Text.splitFirst ']' rest with
    | some (_, []) => .bracketed
    | _ => .bracketedWithPort
  | cs => ofColons (cs.count ':')

/-- What the reader does with a text. -/
structure Grammar (s : String) : Prop where
  /-- An endpoint is read where the text has a form, and it is the endpoint of that form. -/
  accepts : ∀ d e, ofText s d = .ok e ↔ ∃ form, Reads d form s e
  /-- A text without a form is refused, and the error names the whole text. -/
  refuses : ∀ d error, ofText s d = .error error ↔ error = ⟨s⟩ ∧ ∀ form e, ¬ Reads d form s e
  /-- The text has no two forms, not even under two default ports. -/
  exclusive : ∀ {d d' form form' e e'}, Reads d form s e → Reads d' form' s e' → form = form'
  /-- Under one default port it has no two endpoints. -/
  functional : ∀ {d form form' e e'}, Reads d form s e → Reads d form' s e' → e = e'
  /-- Whether the text is read does not depend on the default port. -/
  independent : ∀ d d', (∃ e, ofText s d = .ok e) ↔ ∃ e, ofText s d' = .ok e

/-! ### The characters of the forms -/

theorem toList_bracketed (host : String) :
    ("[" ++ host ++ "]").toList = '[' :: (host.toList ++ [']']) := by
  simp only [String.toList_append, String.reduceToList, List.cons_append, List.nil_append]

theorem toList_bracketedWithPort (host text : String) :
    ("[" ++ host ++ "]:" ++ text).toList = '[' :: (host.toList ++ ']' :: ':' :: text.toList) := by
  simp only [String.toList_append, String.reduceToList, List.cons_append, List.nil_append,
    List.append_assoc]

theorem toList_hostWithPort (host text : String) :
    (host ++ ":" ++ text).toList = host.toList ++ ':' :: text.toList := by
  simp only [String.toList_append, String.reduceToList, List.cons_append, List.nil_append,
    List.append_assoc]

/-- With a single colon, neither part has another. -/
theorem not_mem_of_single {host text : String}
    (h : (host ++ ":" ++ text).toList.count ':' = 1) :
    ':' ∉ host.toList ∧ ':' ∉ text.toList := by
  rw [toList_hostWithPort, List.count_append, List.count_cons_self] at h
  constructor
  · exact List.count_eq_zero.mp (by omega)
  · exact List.count_eq_zero.mp (by omega)

theorem port?_eq_some_iff {text : String} {port : UInt16} :
    port? text.toList = some port ↔ IsPort text port := by
  rw [port?, Option.map_eq_some_iff, IsPort, ← Text.unsigned?_eq_some_iff]
  constructor
  · intro h
    rcases h with ⟨n, hread, hport⟩
    have hlt := (Text.unsigned?_eq_some_iff.mp hread).lt
    rw [← hport, UInt16.toNat_ofNat_of_lt' hlt]
    exact hread
  · intro h
    exact ⟨port.toNat, h, UInt16.ofNat_toNat⟩

/-! ### From a text to its form -/

/-- After the bracket come a host, the second bracket, and then nothing or a port. -/
theorem reads_of_bracketed? (hs : s.toList = '[' :: rest) (h : bracketed? rest d = some e) :
    ∃ form, Reads d form s e := by
  unfold bracketed? at h
  split at h
  case h_1 => cases h
  case h_4 => cases h
  case h_2 host hcut =>
      cases h
      rcases Text.splitFirst_eq_some_iff.mp hcut with ⟨hrest, hfree⟩
      have htext : s = "[" ++ String.ofList host ++ "]" := by
        rw [← String.toList_inj, hs, hrest, toList_bracketed, String.toList_ofList]
      rw [htext]
      exact ⟨.bracketed, .bracketed (by rwa [String.toList_ofList])⟩
  case h_3 host port hcut =>
      rw [Option.map_eq_some_iff] at h
      rcases h with ⟨p, hport, heq⟩
      cases heq
      rcases Text.splitFirst_eq_some_iff.mp hcut with ⟨hrest, hfree⟩
      have htext : s = "[" ++ String.ofList host ++ "]:" ++ String.ofList port := by
        rw [← String.toList_inj, hs, hrest, toList_bracketedWithPort, String.toList_ofList,
          String.toList_ofList]
      rw [htext]
      refine ⟨.bracketedWithPort, .bracketedWithPort ?_ (port?_eq_some_iff.mp ?_)⟩
      · rwa [String.toList_ofList]
      · rwa [String.toList_ofList]

/-- Without a bracket, the colons decide. -/
theorem reads_of_plain? (hs : Unbracketed s) (h : plain? s.toList d = some e) :
    ∃ form, Reads d form s e := by
  unfold plain? at h
  split at h
  case h_1 hcut =>
      cases h
      rw [String.ofList_toList]
      exact ⟨.host, .host hs (Text.splitLast_eq_none_iff.mp hcut)⟩
  case h_2 host port hcut =>
      rcases Text.splitLast_eq_some_iff.mp hcut with ⟨htext, hlast⟩
      have hcount : s.toList.count ':' = host.count ':' + 1 := by
        rw [htext, List.count_append, List.count_cons_self, List.count_eq_zero.mpr hlast]
      split at h
      case isTrue hmore =>
          -- A colon before the last one makes two.
          cases h
          have hpos := List.count_pos_iff.mpr hmore
          rw [String.ofList_toList]
          exact ⟨.bare, .bare hs (by omega)⟩
      case isFalse hfree =>
          rw [Option.map_eq_some_iff] at h
          rcases h with ⟨p, hport, heq⟩
          cases heq
          have hzero := List.count_eq_zero.mpr hfree
          have hparts : s = String.ofList host ++ ":" ++ String.ofList port := by
            rw [← String.toList_inj, htext, toList_hostWithPort, String.toList_ofList,
              String.toList_ofList]
          rw [hparts] at hs hcount ⊢
          refine ⟨.hostWithPort, .hostWithPort hs (by omega) (port?_eq_some_iff.mp ?_)⟩
          rwa [String.toList_ofList]

/-- Every endpoint that is read has a form. -/
theorem reads_of_ofText? (h : ofText? s d = some e) : ∃ form, Reads d form s e := by
  unfold ofText? at h
  split at h
  case h_1 rest hs => exact reads_of_bracketed? hs h
  case h_2 hs =>
      refine reads_of_plain? ?_ h
      intro hhead
      rcases List.head?_eq_some_iff.mp hhead with ⟨rest, hcons⟩
      exact hs rest hcons

/-! ### From a form to the text -/

/-- Without a bracket, the whole text is read by its colons. -/
theorem ofText?_of_unbracketed (hs : Unbracketed s) : ofText? s d = plain? s.toList d := by
  unfold ofText?
  split
  case h_1 rest hcons => exact absurd (by rw [hcons]; rfl) hs
  case h_2 => rfl

/-- A text with a form is read as its endpoint. -/
theorem ofText?_of_reads {form : Form} (h : Reads d form s e) : ofText? s d = some e := by
  cases h with
  | @bracketed host free =>
      simp only [ofText?, toList_bracketed, bracketed?, Text.splitFirst_append free,
        String.ofList_toList]
  | @bracketedWithPort host text port free number =>
      simp only [ofText?, toList_bracketedWithPort, bracketed?, Text.splitFirst_append free,
        port?_eq_some_iff.mpr number, Option.map_some, String.ofList_toList]
  | host start free =>
      rw [ofText?_of_unbracketed start, plain?, Text.splitLast_of_not_mem free,
        String.ofList_toList]
  | hostWithPort start single number =>
      rcases not_mem_of_single single with ⟨hhost, htext⟩
      rw [ofText?_of_unbracketed start, toList_hostWithPort, plain?,
        Text.splitLast_append _ htext]
      simp only [if_neg hhost, port?_eq_some_iff.mpr number, Option.map_some,
        String.ofList_toList]
  | bare start several =>
      -- What stands before the last of several colons has a colon too.
      have hmem : ':' ∈ s.toList := List.count_pos_iff.mp (by omega)
      rcases Text.exists_last hmem with ⟨front, back, hcs, hback⟩
      have hcount : s.toList.count ':' = front.count ':' + 1 := by
        rw [hcs, List.count_append, List.count_cons_self, List.count_eq_zero.mpr hback]
      have hfront : ':' ∈ front := List.count_pos_iff.mp (by omega)
      have hcut : Text.splitLast ':' s.toList = some (front, back) :=
        Text.splitLast_eq_some_iff.mpr ⟨hcs, hback⟩
      rw [ofText?_of_unbracketed start, plain?, hcut]
      simp only [if_pos hfront, String.ofList_toList]

theorem form_of_unbracketed (hs : Unbracketed s) :
    Form.of s = Form.ofColons (s.toList.count ':') := by
  unfold Form.of
  split
  case h_1 rest hcons => exact absurd (by rw [hcons]; rfl) hs
  case h_2 => rfl

/-- A text has only one form. -/
theorem form_eq_of_reads {form : Form} (h : Reads d form s e) : form = Form.of s := by
  cases h with
  | bracketed free => simp only [Form.of, toList_bracketed, Text.splitFirst_append free]
  | bracketedWithPort free number =>
      simp only [Form.of, toList_bracketedWithPort, Text.splitFirst_append free]
  | host start free => rw [form_of_unbracketed start, List.count_eq_zero.mpr free, Form.ofColons]
  | hostWithPort start single number => rw [form_of_unbracketed start, single, Form.ofColons]
  | bare start several =>
      rcases Nat.exists_eq_add_of_le' several with ⟨more, hcount⟩
      rw [form_of_unbracketed start, hcount, Form.ofColons]

/-- The form stays under another default port. -/
theorem exists_reads_of_reads {form : Form} (h : Reads d form s e) (d' : UInt16) :
    ∃ e', Reads d' form s e' := by
  cases h with
  | bracketed free => exact ⟨_, .bracketed free⟩
  | bracketedWithPort free number => exact ⟨_, .bracketedWithPort free number⟩
  | host start free => exact ⟨_, .host start free⟩
  | hostWithPort start single number => exact ⟨_, .hostWithPort start single number⟩
  | bare start several => exact ⟨_, .bare start several⟩

/-! ### The whole grammar -/

theorem ofText_eq_ok_iff : ofText s d = .ok e ↔ ∃ form, Reads d form s e := by
  constructor
  · intro h
    unfold ofText at h
    split at h
    case h_1 read hread =>
        cases h
        exact reads_of_ofText? hread
    case h_2 => cases h
  · intro h
    rcases h with ⟨form, hreads⟩
    rw [ofText, ofText?_of_reads hreads]

theorem ofText_eq_error_iff {error : InvalidEndpoint} :
    ofText s d = .error error ↔ error = ⟨s⟩ ∧ ∀ form e, ¬ Reads d form s e := by
  constructor
  · intro h
    constructor
    · unfold ofText at h
      split at h
      case h_1 => cases h
      case h_2 =>
          cases h
          rfl
    · intro form e hreads
      rw [ofText_eq_ok_iff.mpr ⟨form, hreads⟩] at h
      cases h
  · intro h
    rcases h with ⟨herror, hno⟩
    cases hread : ofText? s d with
    | none => rw [ofText, hread, herror]
    | some e =>
        rcases reads_of_ofText? hread with ⟨form, hreads⟩
        exact absurd hreads (hno form e)

/-- The forms are what the reader goes by. -/
theorem grammar (s : String) : Grammar s := by
  constructor
  case accepts =>
      intro d e
      exact ofText_eq_ok_iff
  case refuses =>
      intro d error
      exact ofText_eq_error_iff
  case exclusive =>
      intro d d' form form' e e' h h'
      rw [form_eq_of_reads h, form_eq_of_reads h']
  case functional =>
      intro d form form' e e' h h'
      have heq := (ofText?_of_reads h).symm.trans (ofText?_of_reads h')
      exact Option.some.inj heq
  case independent =>
      -- One direction for any two ports gives the other.
      have hone : ∀ d d', (∃ e, ofText s d = .ok e) → ∃ e, ofText s d' = .ok e := by
        intro d d' h
        rcases h with ⟨e, hread⟩
        rcases ofText_eq_ok_iff.mp hread with ⟨form, hreads⟩
        rcases exists_reads_of_reads hreads d' with ⟨e', hreads'⟩
        exact ⟨e', ofText_eq_ok_iff.mpr ⟨form, hreads'⟩⟩
      exact fun d d' => ⟨hone d d', hone d' d⟩

-- A sign is part of a port, and a port may be left out only with its colon.
example : ofText? "[::1]:+080" 8332 = some ⟨"::1", 80⟩ ∧ ofText? "localhost:" 8332 = none := by
  decide +kernel

end Endpoint

end ControlPlane
