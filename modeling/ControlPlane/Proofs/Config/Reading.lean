import ControlPlane.AllowList
import ControlPlane.Endpoint

/-!
# Reading Entries in a Row

Allow entries and bind entries are read in the same manner: one after the other, without the
blanks around them, up to the first that cannot be read. What comes of it is said once, for
any reader (`mapM_eq_ok_iff`, `mapM_eq_error_iff`), and the two kinds of entries are cases of
it.

Either every entry can be read, and then there is one thing for each of them, in order; or
there is a first one that cannot, and the fault is the one of that entry. The faults of both
kinds hold the text that was to be read, so the fault is that entry without its blanks.

## Main definitions

* `AllowList.parses`, `Endpoint.parses`: An entry can be read.

## Theorems

* `mapM_eq_ok_iff`: What was read is there for each item.
* `exists_mapM_eq_ok_iff`: All can be read if each can.
* `mapM_eq_error_iff`: The first item that cannot be read is the one at fault.
* `AllowList.mem_of_readEntries`: The subnets read are those that some entry is read as.
* `AllowList.exists_ofEntries_iff`, `AllowList.ofEntries_eq_error_iff`: When a list can be
  made, and why not.
* `Endpoint.readEntries_eq_error_iff`: Which bind entry is named.
-/

namespace ControlPlane

/-! ### Any reader -/

section

variable {α β ε : Type} {read : α → Except ε β}

/-- What was read is there for each item, in order. -/
theorem mapM_eq_ok_iff {items : List α} {results : List β} :
    items.mapM read = .ok results ↔ items.map read = results.map .ok := by
  induction items generalizing results with
  | nil =>
      constructor
      · intro h
        rw [← Except.ok.inj h]
        rfl
      · intro h
        rw [List.map_eq_nil_iff.mp h.symm]
        rfl
  | cons item rest ih =>
      rw [List.mapM_cons, List.map_cons]
      -- One item that cannot be read is enough for both sides to fail.
      cases hfirst : read item with
      | error fault => cases results <;> exact ⟨nofun, nofun⟩
      | ok first =>
          constructor
          · intro h
            cases hrest : rest.mapM read with
            | error fault =>
                rw [hrest] at h
                exact absurd h nofun
            | ok others =>
                rw [hrest] at h
                rw [← Except.ok.inj h, List.map_cons, ih.mp hrest]
          · intro h
            cases results with
            | nil => exact absurd h nofun
            | cons result others =>
                rw [List.map_cons, List.cons.injEq] at h
                rw [ih.mpr h.2, Except.ok.inj h.1]
                rfl

/-- All items can be read if each of them can. -/
theorem exists_mapM_eq_ok_iff {items : List α} :
    (∃ results, items.mapM read = .ok results) ↔ ∀ item ∈ items, ∃ result, read item = .ok result := by
  simp only [mapM_eq_ok_iff]
  induction items with
  | nil => exact ⟨fun _ => nofun, fun _ => ⟨[], rfl⟩⟩
  | cons item rest ih =>
      rw [List.forall_mem_cons, ← ih]
      constructor
      · rintro ⟨results, h⟩
        cases results with
        | nil => exact absurd h nofun
        | cons result others =>
            rw [List.map_cons, List.map_cons, List.cons.injEq] at h
            exact ⟨⟨result, h.1⟩, others, h.2⟩
      · rintro ⟨⟨result, hfirst⟩, others, hrest⟩
        exact ⟨result :: others, by rw [List.map_cons, List.map_cons, hfirst, hrest]⟩

/-- The first item that cannot be read is the one at fault. -/
theorem mapM_eq_error_iff {items : List α} {fault : ε} :
    items.mapM read = .error fault ↔
      ∃ item, items.find? (fun item => !(read item).isOk) = some item ∧
        read item = .error fault := by
  induction items with
  | nil => exact ⟨nofun, fun ⟨_, hfound, _⟩ => absurd hfound nofun⟩
  | cons item rest ih =>
      rw [List.mapM_cons, List.find?_cons]
      cases hfirst : read item with
      | error first =>
          -- The search stops here, and so does the reading.
          constructor
          · intro h
            exact ⟨item, rfl, hfirst.trans (congrArg _ (Except.error.inj h))⟩
          · rintro ⟨other, hfound, hfault⟩
            rw [← Option.some.inj hfound, hfirst] at hfault
            exact congrArg _ (Except.error.inj hfault)
      | ok result =>
          refine Iff.trans ?_ ih
          cases hrest : rest.mapM read with
          | error other => exact Iff.rfl
          | ok others => exact ⟨nofun, nofun⟩

/-- So the fault is known by that item, if faults are. -/
theorem mapM_eq_error_iff_of_named {items : List α} {fault : ε} {named : α → ε}
    (hnamed : ∀ item fault, read item = .error fault → fault = named item) :
    items.mapM read = .error fault ↔
      ∃ item, items.find? (fun item => !(read item).isOk) = some item ∧ fault = named item := by
  rw [mapM_eq_error_iff]
  constructor
  · rintro ⟨item, hfound, hfault⟩
    exact ⟨item, hfound, hnamed item fault hfault⟩
  · rintro ⟨item, hfound, hfault⟩
    refine ⟨item, hfound, ?_⟩
    have hfails := List.find?_some hfound
    cases hread : read item with
    | error other => rw [hfault, hnamed item other hread]
    | ok result =>
        rw [hread] at hfails
        exact absurd hfails nofun

theorem isOk_iff {outcome : Except ε β} : outcome.isOk = true ↔ ∃ result, outcome = .ok result := by
  cases outcome with
  | error fault => exact ⟨nofun, nofun⟩
  | ok result => exact ⟨fun _ => ⟨result, rfl⟩, fun _ => rfl⟩

end

/-! ### Allow entries -/

theorem Subnet.eq_of_ofText_error {text : String} {fault : InvalidSubnet}
    (h : ofText text = .error fault) : fault = ⟨text⟩ := by
  unfold ofText at h
  cases hread : ofText? text with
  | none =>
      rw [hread] at h
      exact (Except.error.inj h).symm
  | some s =>
      rw [hread] at h
      exact absurd h nofun

namespace AllowList

variable {entries : List String}

/-- The entry can be read as a subnet. -/
def parses (entry : String) : Bool :=
  (Subnet.ofText (Text.trim entry)).isOk

theorem parses_iff (entry : String) :
    parses entry = true ↔ ∃ s, Subnet.ofText (Text.trim entry) = .ok s := by
  rw [parses, isOk_iff]

theorem readEntries_eq_mapM (entries : List String) :
    readEntries entries = entries.mapM fun entry => Subnet.ofText (Text.trim entry) := by
  induction entries with
  | nil => rfl
  | cons entry rest ih =>
      rw [readEntries, List.mapM_cons, ih]
      cases Subnet.ofText (Text.trim entry) with
      | error fault => rfl
      | ok first => cases rest.mapM fun entry => Subnet.ofText (Text.trim entry) <;> rfl

/-- The subnets read are those that some entry is read as. -/
theorem mem_of_readEntries {subnets : List Subnet} (h : readEntries entries = .ok subnets)
    (s : Subnet) :
    s ∈ subnets ↔ ∃ entry ∈ entries, Subnet.ofText (Text.trim entry) = .ok s := by
  rw [readEntries_eq_mapM, mapM_eq_ok_iff] at h
  have hresult : s ∈ subnets ↔ Except.ok s ∈ subnets.map (.ok : Subnet → Except InvalidSubnet _) := by
    simp only [List.mem_map, Except.ok.injEq, exists_eq_right]
  rw [hresult, ← h, List.mem_map]

/-- A list holds the subnets of the host and those of its entries. -/
theorem subnets_of_ofEntries {list : AllowList} (h : ofEntries entries = .ok list) :
    ∃ subnets, readEntries entries = .ok subnets ∧ list.subnets = loopback ++ subnets := by
  cases hread : readEntries entries with
  | error e => simp only [ofEntries, hread, reduceCtorEq] at h
  | ok subnets =>
      simp only [ofEntries, hread, Except.ok.injEq] at h
      exact ⟨subnets, rfl, by rw [← h]⟩

/-- A list can be made of entries that can all be read. -/
theorem exists_ofEntries_iff (entries : List String) :
    (∃ list, ofEntries entries = .ok list) ↔ ∀ entry ∈ entries, parses entry = true := by
  simp only [parses_iff]
  rw [← exists_mapM_eq_ok_iff, ← readEntries_eq_mapM]
  unfold ofEntries
  cases readEntries entries with
  | error fault => exact ⟨nofun, nofun⟩
  | ok subnets => exact ⟨fun _ => ⟨subnets, rfl⟩, fun _ => ⟨_, rfl⟩⟩

/-- Otherwise the first entry that cannot be read is named. -/
theorem ofEntries_eq_error_iff (entries : List String) (fault : InvalidSubnet) :
    ofEntries entries = .error fault ↔
      ∃ entry, entries.find? (fun entry => !parses entry) = some entry ∧
        fault = ⟨Text.trim entry⟩ := by
  have hread : ofEntries entries = .error fault ↔ readEntries entries = .error fault := by
    unfold ofEntries
    cases readEntries entries with
    | error other => simp only [Except.error.injEq]
    | ok subnets => exact ⟨nofun, nofun⟩
  rw [hread, readEntries_eq_mapM]
  unfold parses
  exact mapM_eq_error_iff_of_named fun _ _ => Subnet.eq_of_ofText_error

end AllowList

/-! ### Bind entries -/

namespace Endpoint

variable {port : UInt16} {entries : List String}

theorem eq_of_ofText_error {text : String} {fault : InvalidEndpoint}
    (h : ofText text port = .error fault) : fault = ⟨text⟩ := by
  unfold ofText at h
  cases hread : ofText? text port with
  | none =>
      rw [hread] at h
      exact (Except.error.inj h).symm
  | some e =>
      rw [hread] at h
      exact absurd h nofun

/-- The entry can be read as an endpoint. -/
def parses (port : UInt16) (entry : String) : Bool :=
  (ofText (Text.trim entry) port).isOk

theorem parses_iff (port : UInt16) (entry : String) :
    parses port entry = true ↔ ∃ e, ofText (Text.trim entry) port = .ok e := by
  rw [parses, isOk_iff]

theorem readEntries_eq_mapM (port : UInt16) (entries : List String) :
    readEntries port entries = entries.mapM fun entry => ofText (Text.trim entry) port := by
  induction entries with
  | nil => rfl
  | cons entry rest ih =>
      rw [readEntries, List.mapM_cons, ih]
      cases ofText (Text.trim entry) port with
      | error fault => rfl
      | ok first => cases rest.mapM fun entry => ofText (Text.trim entry) port <;> rfl

/-- If not all entries can be read, the first that cannot be is named. -/
theorem readEntries_eq_error_iff (port : UInt16) (entries : List String) (fault : InvalidEndpoint) :
    readEntries port entries = .error fault ↔
      ∃ entry, entries.find? (fun entry => !parses port entry) = some entry ∧
        fault = ⟨Text.trim entry⟩ := by
  rw [readEntries_eq_mapM]
  unfold parses
  exact mapM_eq_error_iff_of_named fun _ _ => eq_of_ofText_error

end Endpoint

end ControlPlane
