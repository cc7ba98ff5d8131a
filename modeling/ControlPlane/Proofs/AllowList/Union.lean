import ControlPlane.Proofs.AllowList.Host
import ControlPlane.Proofs.Config.Reading

/-!
# Lists of More Entries

An allow list is the union of its entries. Whether a peer is admitted is a question about
each entry on its own: the peer is on the host itself, or some entry is read as a subnet that
holds it (`isAllowed_iff`). Neither the order of the entries nor how often they are repeated
comes into it, and a further entry can only add to the peers that are admitted.

The guard against the all-zero address does not disturb this. It looks at the peer and not
at the entries, so it refuses that peer whichever of the lists is asked.

A list cannot be made if some entry cannot be read. That does not depend on the order
either; which entry the fault names does.

## Main definitions

* `AllowList.Union`: What the list of some entries and of others comes to.

## Theorems

* `isAllowed_iff`: Whom the list of some entries admits.
* `isAllowed_mono`: Further entries revoke nothing.
* `isAllowed_of_isHost`: Every list admits the host itself.
* `union_of_append`: The list of two lists of entries is the union of their lists.
-/

namespace ControlPlane

namespace AllowList

variable {entries others : List String} {list larger : AllowList}

/-- Whom the list of some entries admits: the host itself, and the peers in the subnet of
    some entry, except for the one that is all zero. -/
theorem isAllowed_iff (h : ofEntries entries = .ok list) (peer : Address) :
    list.isAllowed peer = true ↔
      peer.isHost = true ∨ (peer.isUnspecified = false ∧
        ∃ entry ∈ entries, ∃ s, Subnet.ofText (Text.trim entry) = .ok s ∧
          s.contains peer = true) := by
  rcases subnets_of_ofEntries h with ⟨subnets, hread, hlist⟩
  have hsubnets : list = ⟨loopback ++ subnets⟩ := by rw [← hlist]
  have hholds : (∃ s ∈ subnets, s.contains peer = true) ↔
      ∃ entry ∈ entries, ∃ s, Subnet.ofText (Text.trim entry) = .ok s ∧
        s.contains peer = true := by
    simp only [mem_of_readEntries hread]
    constructor
    · rintro ⟨s, ⟨entry, hentry, hs⟩, hpeer⟩
      exact ⟨entry, hentry, s, hs, hpeer⟩
    · rintro ⟨entry, hentry, s, hs, hpeer⟩
      exact ⟨s, ⟨entry, hentry, hs⟩, hpeer⟩
  rw [hsubnets, isAllowed_loopback_append, hholds]

/-- Further entries revoke nothing. -/
theorem isAllowed_mono (hsub : entries ⊆ others) (h : ofEntries entries = .ok list)
    (hlarger : ofEntries others = .ok larger) {peer : Address} (hpeer : list.isAllowed peer = true) :
    larger.isAllowed peer = true := by
  rw [isAllowed_iff h] at hpeer
  rw [isAllowed_iff hlarger]
  rcases hpeer with hhost | ⟨hzero, entry, hentry, hholds⟩
  · exact Or.inl hhost
  · exact Or.inr ⟨hzero, entry, hsub hentry, hholds⟩

/-- Every list admits the host itself. -/
theorem isAllowed_of_isHost (h : ofEntries entries = .ok list) {peer : Address}
    (hpeer : peer.isHost = true) : list.isAllowed peer = true :=
  (isAllowed_iff h peer).mpr (Or.inl hpeer)

/-- What the list of the entries `x` and then `y` comes to. -/
structure Union (x y : List String) : Prop where
  /-- A list can be made exactly if each of its entries can be read. -/
  made : (∃ left, ofEntries x = .ok left) ↔
    ∀ entry ∈ x, ∃ s, Subnet.ofText (Text.trim entry) = .ok s
  /-- It admits the host itself, and the peers in the subnet of some entry, except for the one
      that is all zero. -/
  meaning : ∀ left, ofEntries x = .ok left → ∀ peer, left.isAllowed peer = true ↔
    peer.isHost = true ∨ (peer.isUnspecified = false ∧
      ∃ entry ∈ x, ∃ s, Subnet.ofText (Text.trim entry) = .ok s ∧ s.contains peer = true)
  /-- The list of all the entries can be made exactly if both lists can. -/
  exists_iff : (∃ list, ofEntries (x ++ y) = .ok list) ↔
    (∃ left, ofEntries x = .ok left) ∧ ∃ right, ofEntries y = .ok right
  /-- If not, the first of all the entries that cannot be read is named, without the blanks
      around it. -/
  fault : (¬ ∃ list, ofEntries (x ++ y) = .ok list) →
    ∃ front entry back, x ++ y = front ++ entry :: back ∧
      (∀ earlier ∈ front, ∃ s, Subnet.ofText (Text.trim earlier) = .ok s) ∧
      (¬ ∃ s, Subnet.ofText (Text.trim entry) = .ok s) ∧
      ofEntries (x ++ y) = .error ⟨Text.trim entry⟩
  /-- It admits whom one of the two lists admits. -/
  admits : ∀ list left right, ofEntries (x ++ y) = .ok list → ofEntries x = .ok left →
    ofEntries y = .ok right → ∀ peer,
      list.isAllowed peer = (left.isAllowed peer || right.isAllowed peer)
  /-- Two lists with the same entries, in whatever order and however often, can both be made
      or neither, and they admit the same peers. -/
  order : (∀ entry, entry ∈ x ↔ entry ∈ y) →
    ((∃ left, ofEntries x = .ok left) ↔ ∃ right, ofEntries y = .ok right) ∧
      ∀ left right, ofEntries x = .ok left → ofEntries y = .ok right → ∀ peer,
        left.isAllowed peer = right.isAllowed peer
  /-- A list with all the entries of another one, wherever they stand, admits all its peers. -/
  grows : x ⊆ y → ∀ left right, ofEntries x = .ok left → ofEntries y = .ok right → ∀ peer,
    left.isAllowed peer = true → right.isAllowed peer = true
  /-- Every list admits the older addresses whose first octet is 127, also in mapped form, and
      the one newer address that leads back to the host. -/
  host : ∀ left, ofEntries x = .ok left →
    (∀ bits, (Address.octets bits).head? = some 127 →
      left.isAllowed (.v4 bits) = true ∧ left.isAllowed (.v6 (Address.mapped bits)) = true) ∧
    left.isAllowed (.v6 Address.loopback6) = true

/-- An allow list is the union of its entries. -/
theorem union_of_append (x y : List String) : Union x y := by
  constructor
  case made => simp only [exists_ofEntries_iff, parses_iff]
  case meaning => exact fun left hleft peer => isAllowed_iff hleft peer
  case exists_iff => simp only [exists_ofEntries_iff, List.forall_mem_append]
  case fault =>
    intro hnone
    cases hlist : ofEntries (x ++ y) with
    | ok list => exact absurd ⟨list, hlist⟩ hnone
    | error fault =>
        rcases (ofEntries_eq_error_iff (x ++ y) fault).mp hlist with ⟨entry, hfirst, hfault⟩
        rcases List.find?_eq_some_iff_append.mp hfirst with ⟨hfails, front, back, hsplit, hfront⟩
        -- What is said with `parses` is said of the reader itself.
        simp only [Bool.not_not, Bool.not_eq_true', ← Bool.not_eq_true, parses_iff] at hfails hfront
        exact ⟨front, entry, back, hsplit, hfront, hfails, by rw [hfault]⟩
  case admits =>
    intro list left right hlist hleft hright peer
    rw [Bool.eq_iff_iff, Bool.or_eq_true]
    constructor
    · intro hpeer
      rcases (isAllowed_iff hlist peer).mp hpeer with hhost | ⟨hzero, entry, hentry, hholds⟩
      · exact Or.inl (isAllowed_of_isHost hleft hhost)
      · -- The entry is in one of the two lists, and that list admits the peer for it.
        rcases List.mem_append.mp hentry with hx | hy
        · exact Or.inl ((isAllowed_iff hleft peer).mpr (Or.inr ⟨hzero, entry, hx, hholds⟩))
        · exact Or.inr ((isAllowed_iff hright peer).mpr (Or.inr ⟨hzero, entry, hy, hholds⟩))
    · rintro (hpeer | hpeer)
      · exact isAllowed_mono (List.subset_append_left x y) hleft hlist hpeer
      · exact isAllowed_mono (List.subset_append_right x y) hright hlist hpeer
  case order =>
    intro hsame
    constructor
    · simp only [exists_ofEntries_iff, hsame]
    · intro left right hleft hright peer
      rw [Bool.eq_iff_iff, isAllowed_iff hleft, isAllowed_iff hright]
      simp only [hsame]
  case grows =>
    intro hsub left right hleft hright peer
    exact isAllowed_mono hsub hleft hright
  case host =>
    intro left hleft
    refine ⟨fun bits hoctet => ⟨?_, ?_⟩, isAllowed_of_isHost hleft rfl⟩
    · exact isAllowed_of_isHost hleft (decide_eq_true hoctet)
    · -- A mapped address is the host's if the older one is.
      refine isAllowed_of_isHost hleft ?_
      rw [Address.isHost, Address.canonical_mapped]
      exact decide_eq_true hoctet

end AllowList

end ControlPlane
