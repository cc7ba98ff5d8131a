import ControlPlane.Config.Problem
import ControlPlane.Proofs.Config.Reading
import Mathlib.Data.List.Forall2

/-!
# Entries of a Valid Configuration

A configuration without problems has entries that can all be read, so neither making the
allow list nor choosing the endpoints fails over one of them. What is read is in the order
of the entries, one thing for each.

The default port matters to an endpoint in one way only. Whether an entry is an endpoint,
and of which host, does not depend on it; the entry either has a port of its own or takes
the default.

## Main definitions

* `Endpoint.OwnsOrTakes`: An endpoint has a port of its own or takes the default one.
* `Endpoint.OfEntry`: The endpoint of a bind entry.

## Theorems

* `entries_of_problems`: Without problems, all entries can be read.
* `ofText_default`: What an endpoint owes to the default port.
* `ofEntries_of_read`: An allow list of such entries can be made.
* `readEntries_of_read`: The endpoints of such entries can be had, in order.
-/

namespace ControlPlane

/-- All entries of a configuration without problems can be read. -/
theorem Config.entries_of_problems {c : Config} (h : c.problems = []) :
    (∀ entry ∈ c.serving.allow, ∃ s, Subnet.ofText (Text.trim entry) = .ok s) ∧
      ∀ entry ∈ c.serving.bind, ∃ e, Endpoint.ofText (Text.trim entry) c.serving.port = .ok e := by
  rcases List.append_eq_nil_iff.mp h with ⟨hentries, _⟩
  rcases List.append_eq_nil_iff.mp hentries with ⟨hallow, hbind⟩
  constructor
  · intro entry hmem
    have hnone := List.filterMap_eq_nil_iff.mp hallow entry hmem
    cases hread : Subnet.ofText (Text.trim entry) with
    | ok s => exact ⟨s, rfl⟩
    | error e => simp only [allowProblem?, hread, reduceCtorEq] at hnone
  · intro entry hmem
    have hnone := List.filterMap_eq_nil_iff.mp hbind entry hmem
    cases hread : Endpoint.ofText (Text.trim entry) c.serving.port with
    | ok e => exact ⟨e, rfl⟩
    | error e => simp only [bindProblem?, hread, reduceCtorEq] at hnone

/-- An allow list of entries that can be read can be made. -/
theorem AllowList.ofEntries_of_read {entries : List String}
    (h : ∀ entry ∈ entries, ∃ s, Subnet.ofText (Text.trim entry) = .ok s) :
    ∃ list, ofEntries entries = .ok list :=
  (exists_ofEntries_iff entries).mpr fun entry hmem => (parses_iff entry).mpr (h entry hmem)

namespace Endpoint

/-- The endpoint has a port of its own, or it takes the default one. -/
def OwnsOrTakes (read : UInt16 → Option Endpoint) (port : UInt16) (e : Endpoint) : Prop :=
  (∀ other, read other = some e) ∨ e.port = port ∧ ∀ other, read other = some ⟨e.host, other⟩

theorem bracketed?_default {rest : List Char} {port : UInt16} {e : Endpoint}
    (h : bracketed? rest port = some e) : OwnsOrTakes (bracketed? rest) port e := by
  unfold OwnsOrTakes bracketed? at *
  rcases hsplit : Text.splitFirst ']' rest with _ | ⟨host, after⟩
  · simp only [hsplit, reduceCtorEq] at h
  · cases after with
    | nil =>
        simp only [hsplit, Option.some.injEq] at h ⊢
        rw [← h]
        exact Or.inr ⟨rfl, fun _ => rfl⟩
    | cons c own =>
        by_cases hcolon : c = ':'
        · subst hcolon
          simp only [hsplit] at h
          exact Or.inl fun _ => h
        · simp only [hsplit, reduceCtorEq] at h

theorem plain?_default {cs : List Char} {port : UInt16} {e : Endpoint}
    (h : plain? cs port = some e) : OwnsOrTakes (plain? cs) port e := by
  unfold OwnsOrTakes plain? at *
  rcases hsplit : Text.splitLast ':' cs with _ | ⟨host, own⟩
  · simp only [hsplit, Option.some.injEq] at h ⊢
    rw [← h]
    exact Or.inr ⟨rfl, fun _ => rfl⟩
  · by_cases hcolon : ':' ∈ host
    · simp only [hsplit, if_pos hcolon, Option.some.injEq] at h ⊢
      rw [← h]
      exact Or.inr ⟨rfl, fun _ => rfl⟩
    · simp only [hsplit, if_neg hcolon] at h ⊢
      exact Or.inl fun _ => h

/-- What an endpoint owes to the default port. -/
theorem ofText_default {s : String} {port : UInt16} {e : Endpoint} (h : ofText s port = .ok e) :
    OwnsOrTakes (ofText? s) port e := by
  have hread : ofText? s port = some e := by
    unfold ofText at h
    cases hsome : ofText? s port with
    | none => simp only [hsome, reduceCtorEq] at h
    | some read =>
        simp only [hsome, Except.ok.injEq] at h
        rw [h]
  unfold OwnsOrTakes ofText? at *
  split at hread
  case h_1 => exact bracketed?_default hread
  case h_2 => exact plain?_default hread

/-- The endpoint is the one of a bind entry, with a port of its own or the default one. -/
structure OfEntry (port : UInt16) (entry : String) (e : Endpoint) : Prop where
  read : ofText (Text.trim entry) port = .ok e
  port : OwnsOrTakes (ofText? (Text.trim entry)) port e

/-- The endpoints of entries that can be read can be had, in the order of the entries. -/
theorem readEntries_of_read {port : UInt16} {entries : List String}
    (h : ∀ entry ∈ entries, ∃ e, ofText (Text.trim entry) port = .ok e) :
    ∃ endpoints, readEntries port entries = .ok endpoints ∧
      List.Forall₂ (OfEntry port) entries endpoints := by
  induction entries with
  | nil => exact ⟨[], rfl, .nil⟩
  | cons entry rest ih =>
      rcases h entry List.mem_cons_self with ⟨e, he⟩
      rcases ih fun other hmem => h other (List.mem_cons_of_mem entry hmem) with
        ⟨endpoints, hrest, hall⟩
      refine ⟨e :: endpoints, ?_, .cons ⟨he, ofText_default he⟩ hall⟩
      simp only [readEntries, he, hrest]

end Endpoint

end ControlPlane
