import ControlPlane.Proofs.Config.Overrides
import ControlPlane.Proofs.Config.Settings

/-!
# Where Settings Come From

Every setting of the configuration that the program starts with comes from one of three
places. If the command line gives the setting, it is what is given there. Otherwise, if the
document sets it, it is what the document sets it to. Otherwise it is the default. So it is
for each setting by itself, whatever is given or set for the others (`layered_of_config`).

This leaves no choice: no other configuration is made up in this manner
(`eq_of_layered`). And nothing else that a document may hold counts. A document with further
keys that name no setting, or with further sections that set nothing, gives the same
configuration, and it is refused for the same reason if it is refused.

An option that may be repeated gives all its values together, and they take the place of all
that the document has. Dumps can only be switched on by the command line.

## Main definitions

* `Setting.given?`: What the command line gives to a setting.
* `CommandLine.Overrides`: The document that a command line overrides.
* `CommandLine.Layered`: Every setting comes from the first place that has it.
* `CommandLine.Precedence`: Where the settings come from.

## Theorems

* `value_onto`: What was given goes before what was there.
* `config_eq_start`: The document decides.
* `layered_of_config`, `eq_of_layered`: The configuration that the program starts with.
* `precedence_of_files`: Where the settings come from, for all command lines and files.
-/

namespace ControlPlane

open Toml (Table)

/-- What the command line gives to the setting, if the setting has an option and that was
    given. -/
def Setting.given? {α : Type} : Setting α → CommandLine → Option α
  | .port, l => l.port
  | .bind, l => if l.bind = [] then none else some l.bind
  | .allow, l => if l.allow = [] then none else some l.allow
  | .threads, l => l.threads
  | .queue, l => l.queue
  | .timeout, l => l.timeout
  | .dumps, l => if l.dumps then some true else none
  | .headerBytes, _ | .blockBytes, _ | .filter, _ | .metrics, _ | .metricsAddress, _ => none

namespace CommandLine

variable {l : CommandLine} {files : Files} {t : Table} {c : Config}

/-- The document that a command line overrides: that in the file, or an empty one if no file is
    named. -/
inductive Overrides (l : CommandLine) (files : Files) : Table → Prop
  | unnamed (none : l.file = none) : Overrides l files []
  | document (path : String) (octets : ByteArray) (text : String) (t : Table)
      (named : l.file = some path) (read : files path = .ok octets)
      (decoded : Text.ofUtf8? octets = some text)
      (parsed : Toml.Document.ofText? text = some t) : Overrides l files t

/-- Every setting comes from the first place that has it. -/
structure Layered (l : CommandLine) (t : Table) (c : Config) : Prop where
  /-- It is what the command line gives. -/
  given : ∀ α (s : Setting α) a, s.given? l = some a → s.value c = a
  /-- Otherwise it is what the document sets it to. -/
  written : ∀ α (s : Setting α) v, s.given? l = none → s.SetTo t v →
    s.kind v = some (s.value c)
  /-- Otherwise it is the default. -/
  default : ∀ α (s : Setting α), s.given? l = none → (∀ v, ¬ s.SetTo t v) →
    s.value c = s.value {}

/-- Where the settings come from. -/
structure Precedence (l : CommandLine) (files : Files) : Prop where
  /-- The program starts only if there is a document to override. -/
  document : ∀ c, l.config files = .ok c → ∃ t, Overrides l files t
  /-- Then every setting comes from the first place that has it. -/
  layered : ∀ t c, Overrides l files t → l.config files = .ok c → Layered l t c
  /-- There is no other configuration of which this is true. -/
  only : ∀ t c, Overrides l files t → l.config files = .ok c → ∀ c', Layered l t c' → c' = c
  /-- A document that differs only in things that name no setting has the same outcome. -/
  foreign : ∀ files' t t', Overrides l files t → Overrides l files' t' →
    Relation.EqvGen Setting.Padded t t' → l.config files' = l.config files

/-! ### The command line -/

/-- What was given goes before what was there. -/
theorem value_onto {α : Type} (s : Setting α) (l : CommandLine) (c : Config) :
    s.value (l.onto c) = (s.given? l).getD (s.value c) := by
  cases s
  case bind =>
    rcases hbind : l.bind with _ | ⟨entry, rest⟩ <;>
      simp [Setting.value, onto, Setting.given?, hbind]
  case allow =>
    rcases hallow : l.allow with _ | ⟨entry, rest⟩ <;>
      simp [Setting.value, onto, Setting.given?, hallow]
  case dumps =>
    cases hdumps : l.dumps <;> simp [Setting.value, onto, Setting.given?, hdumps]
  all_goals rfl

/-! ### The document -/

/-- The configuration that the program starts with, from the document that is overridden. -/
def start (l : CommandLine) (t : Table) : Except ConfigFault Config :=
  match Mentioned.ofTable? t with
  | none => .error .document
  | some m =>
    match (m.onto {}).accept with
    | .error fault => .error fault
    | .ok c => (l.onto c).accept

/-- Nothing but the document matters of the files. -/
theorem config_eq_start (h : Overrides l files t) : l.config files = l.start t := by
  cases h with
  | unnamed none =>
      simp only [config, base, none]
      rfl
  | document path octets text t named read decoded parsed =>
      simp only [config, base, named, Config.ofFile, read, decoded, Config.ofDocument, parsed,
        Option.bind_some, start]
      cases Mentioned.ofTable? t <;> rfl

theorem exists_overrides (h : l.config files = .ok c) : ∃ t, Overrides l files t := by
  cases hfile : l.file with
  | none => exact ⟨[], .unnamed hfile⟩
  | some path =>
      simp only [config, base, hfile, Config.ofFile] at h
      cases hread : files path with
      | error fault => simp only [hread, reduceCtorEq] at h
      | ok octets =>
          simp only [hread] at h
          cases hdecoded : Text.ofUtf8? octets with
          | none => simp only [hdecoded, reduceCtorEq] at h
          | some text =>
              simp only [hdecoded, Config.ofDocument] at h
              cases hparsed : Toml.Document.ofText? text with
              | none => simp only [hparsed, Option.bind_none, reduceCtorEq] at h
              | some t => exact ⟨t, .document path octets text t hfile hread hdecoded hparsed⟩

/-- The configuration that the program starts with was mentioned and given. -/
theorem eq_onto_of_start (h : l.start t = .ok c) :
    ∃ m, Mentioned.ofTable? t = some m ∧ c = l.onto (m.onto {}) := by
  unfold start at h
  cases hread : Mentioned.ofTable? t with
  | none => simp only [hread, reduceCtorEq] at h
  | some m =>
      simp only [hread] at h
      cases haccept : (m.onto {}).accept with
      | error fault => simp only [haccept, reduceCtorEq] at h
      | ok kept =>
          simp only [haccept] at h
          have hkept := (Config.accept_eq_ok_iff.mp haccept).2
          exact ⟨m, rfl, hkept ▸ (Config.accept_eq_ok_iff.mp h).2⟩

/-! ### Both -/

/-- Every setting comes from the first place that has it. -/
theorem layered_of_start (h : l.start t = .ok c) : Layered l t c := by
  rcases eq_onto_of_start h with ⟨m, hread, rfl⟩
  have hsaid := Setting.ofTable?_eq_some_iff.mp hread
  constructor
  case given =>
    intro α s a hgiven
    rw [value_onto, hgiven, Option.getD_some]
  case written =>
    intro α s v hgiven hset
    have hkind : (s.kind v).map some = some (s.mentioned m) :=
      (Setting.said?_of_setTo hset).symm.trans (hsaid α s)
    rcases Option.map_eq_some_iff.mp hkind with ⟨a, ha, hmentioned⟩
    rw [value_onto, hgiven, Option.getD_none, Setting.value_onto, ← hmentioned,
      Option.getD_some, ha]
  case default =>
    intro α s hgiven hunset
    have hmentioned : s.mentioned m = none := by
      cases hm : s.mentioned m with
      | none => rfl
      | some a =>
          rcases Setting.setTo_of_said? ((hsaid α s).trans (congrArg some hm)) with ⟨v, hset, _⟩
          exact absurd hset (hunset v)
    rw [value_onto, hgiven, Option.getD_none, Setting.value_onto, hmentioned, Option.getD_none]

/-- There is only one such configuration. -/
theorem eq_of_layered {c' : Config} (h : Layered l t c) (h' : Layered l t c') : c' = c := by
  refine Setting.eq_of_values fun α s => ?_
  cases hgiven : s.given? l with
  | some a => exact (h'.given α s a hgiven).trans (h.given α s a hgiven).symm
  | none =>
      by_cases hset : ∃ v, s.SetTo t v
      · rcases hset with ⟨v, hset⟩
        exact Option.some.inj
          ((h'.written α s v hgiven hset).symm.trans (h.written α s v hgiven hset))
      · have hunset : ∀ v, ¬ s.SetTo t v := fun v hv => hset ⟨v, hv⟩
        exact (h'.default α s hgiven hunset).trans (h.default α s hgiven hunset).symm

/-- Where the settings come from. -/
theorem precedence_of_files (l : CommandLine) (files : Files) : Precedence l files := by
  constructor
  case document => exact fun c h => exists_overrides h
  case layered =>
    intro t c hover h
    exact layered_of_start ((config_eq_start hover).symm.trans h)
  case only =>
    intro t c hover h c' h'
    exact eq_of_layered (layered_of_start ((config_eq_start hover).symm.trans h)) h'
  case foreign =>
    intro files' t t' hover hover' hpadded
    rw [config_eq_start hover', config_eq_start hover, start, start,
      Setting.ofTable?_congr hpadded]

-- A setting from each place, and a key that names none.
example : (({ file := some "server.toml", timeout := some 5 } : CommandLine).config fun _ =>
    .ok "[rpc]\nthreads = 8\nserver_timeout_secs = 9\ncolour = 1".toUTF8).toOption =
      some { serving := { threads := 8, timeout := 5 } } := by
  decide +kernel

end CommandLine

end ControlPlane
