import ControlPlane.CommandLine

/-!
# Overrides of a File

The command line overrides settings of a file, and the program starts with the outcome if it
makes sense. The file has to make sense as well, before anything of it is overridden. So a
problem of the file stands, also if it is one that the command line would have mended, and
its problems are told alone, without those that the command line would add.

The default configuration makes sense (`problems_default`). Without a file only the
overridden one is therefore judged, and so it is with a file that makes sense by itself. With
any other file the outcome is that of the overridden configuration only if both have the
very same problems.

## Main definitions

* `CommandLine.Source`: The configuration that is overridden.
* `CommandLine.Judged`: When the program starts, with what, and why it does not.

## Theorems

* `accept_eq_ok_iff`, `accept_eq_error_iff`: When a configuration makes sense.
* `problems_default`: The default configuration does.
* `base_of_source`: A file is judged by itself.
* `judged_of_source`: What is judged, for all command lines and files.
-/

namespace ControlPlane

namespace Config

variable {c : Config}

theorem accept_eq_ok_iff {kept : Config} : c.accept = .ok kept ↔ c.problems = [] ∧ kept = c := by
  unfold accept
  cases c.problems with
  | nil => exact ⟨fun h => ⟨rfl, (Except.ok.inj h).symm⟩, fun h => congrArg Except.ok h.2.symm⟩
  | cons p ps => exact ⟨nofun, fun h => absurd h.1 nofun⟩

theorem accept_eq_error_iff {fault : ConfigFault} :
    c.accept = .error fault ↔ c.problems ≠ [] ∧ fault = .problems c.problems := by
  unfold accept
  cases c.problems with
  | nil => exact ⟨nofun, fun h => absurd rfl h.1⟩
  | cons p ps =>
      exact ⟨fun h => ⟨nofun, (Except.error.inj h).symm⟩,
        fun h => congrArg Except.error h.2.symm⟩

/-- Every setting has a default that makes sense. -/
theorem problems_default : ({} : Config).problems = [] := rfl

end Config

namespace CommandLine

variable {l : CommandLine} {files : Files} {d : Config}

/-- The configuration that a command line overrides, whether it makes sense or not: that of
    the document in the file, or the default one if no file is named. -/
inductive Source (l : CommandLine) (files : Files) : Config → Prop
  | unnamed (none : l.file = none) : Source l files {}
  | document (path : String) (octets : ByteArray) (text : String) (m : Mentioned)
      (named : l.file = some path) (read : files path = .ok octets)
      (decoded : Text.ofUtf8? octets = some text)
      (meant : (Toml.Document.ofText? text).bind Mentioned.ofTable? = some m) :
      Source l files (m.onto {})

/-- The configuration that is overridden is judged by itself first. -/
theorem base_of_source (h : Source l files d) : l.base files = d.accept := by
  cases h with
  | unnamed none =>
      rw [base, none]
      exact (Config.accept_eq_ok_iff.mpr ⟨Config.problems_default, rfl⟩).symm
  | document path octets text m named read decoded meant =>
      simp only [base, named, Config.ofFile, read, decoded, Config.ofDocument, meant]

/-- When the program starts, with what, and why it does not. -/
structure Judged (l : CommandLine) (files : Files) (d : Config) : Prop where
  /-- It starts with the overridden configuration if both that and the one before make
      sense. -/
  starts : ∀ c, l.config files = .ok c ↔
    d.problems = [] ∧ (l.onto d).problems = [] ∧ c = l.onto d
  /-- Otherwise it tells the problems of the one before, or if there are none, those of the
      overridden one. -/
  refuses : ∀ fault, l.config files = .error fault ↔
    (d.problems ≠ [] ∧ fault = .problems d.problems) ∨
      (d.problems = [] ∧ (l.onto d).problems ≠ [] ∧ fault = .problems (l.onto d).problems)
  /-- So the overridden configuration decides alone exactly if the one before has no problems
      or the same ones. -/
  alone : l.config files = (l.onto d).accept ↔
    d.problems = [] ∨ d.problems = (l.onto d).problems

theorem judged_of_source (l : CommandLine) (files : Files) (d : Config) (h : Source l files d) :
    Judged l files d := by
  have hbase := base_of_source h
  by_cases hd : d.problems = []
  · -- The configuration before makes sense, and the overridden one decides.
    have hconfig : l.config files = (l.onto d).accept := by
      rw [config, hbase, Config.accept_eq_ok_iff.mpr ⟨hd, rfl⟩]
    constructor
    case starts =>
      intro c
      rw [hconfig, Config.accept_eq_ok_iff]
      exact ⟨fun h => ⟨hd, h⟩, fun h => h.2⟩
    case refuses =>
      intro fault
      rw [hconfig, Config.accept_eq_error_iff]
      constructor
      · exact fun h => Or.inr ⟨hd, h⟩
      · rintro (⟨hsome, _⟩ | ⟨_, h⟩)
        · exact absurd hd hsome
        · exact h
    case alone => exact ⟨fun _ => Or.inl hd, fun _ => hconfig⟩
  · -- Its problems are told, whatever the overridden one is like.
    have hconfig : l.config files = .error (.problems d.problems) := by
      rw [config, hbase, Config.accept_eq_error_iff.mpr ⟨hd, rfl⟩]
    constructor
    case starts =>
      intro c
      rw [hconfig]
      exact ⟨nofun, fun h => absurd h.1 hd⟩
    case refuses =>
      intro fault
      rw [hconfig, Except.error.injEq]
      constructor
      · exact fun heq => Or.inl ⟨hd, heq.symm⟩
      · rintro (⟨_, heq⟩ | ⟨hnone, _⟩)
        · exact heq.symm
        · exact absurd hnone hd
    case alone =>
      rw [hconfig, eq_comm, Config.accept_eq_error_iff]
      constructor
      · rintro ⟨_, heq⟩
        exact Or.inr (ConfigFault.problems.inj heq)
      · rintro (h | heq)
        · exact absurd h hd
        · exact ⟨fun h => hd (heq.trans h), congrArg ConfigFault.problems heq⟩

/-- Every file holds a document that sets the idle time to zero. -/
def idleless : Files :=
  fun _ => .ok "[rpc]\nserver_timeout_secs = 0".toUTF8

/-- The configuration of that document. -/
def idlelessConfig : Config :=
  ({ timeout := some 0 } : Mentioned).onto {}

/-- A command line that names such a file and overrides the idle time. -/
def mending : CommandLine where
  file := some "control-plane.toml"
  timeout := some 5

set_option maxRecDepth 10000 in
theorem source_mending : Source mending idleless idlelessConfig :=
  .document "control-plane.toml" _ "[rpc]\nserver_timeout_secs = 0" _ rfl rfl (by decide +kernel)
    (by decide +kernel)

/-- The file is judged, although the command line would have mended it. -/
theorem judged_of_source_mending :
    Source mending idleless idlelessConfig ∧ Judged mending idleless idlelessConfig :=
  ⟨source_mending, judged_of_source _ _ _ source_mending⟩

/-- The overridden configuration makes sense, and still the program does not start: it tells
    the problem of the file. -/
theorem config_mending_ne :
    Source mending idleless idlelessConfig ∧ (mending.onto idlelessConfig).problems = [] ∧
      mending.config idleless = .error (.problems [.timeout]) := by
  refine ⟨source_mending, rfl, ?_⟩
  rw [config, base_of_source source_mending]
  rfl

end CommandLine

end ControlPlane
