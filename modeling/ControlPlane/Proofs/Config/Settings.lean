import ControlPlane.Config.Document
import Mathlib.Data.List.Basic
import Mathlib.Logic.Relation

/-!
# Settings of a Document

A configuration is its settings, and a document is read setting by setting. What a document
says about one setting does not depend on what it says about the others, except that all of
it must be readable (`ofTable?_eq_some_iff`). So each setting can be looked at by itself, and
a statement about all of them is one statement about any of them.

A document sets a setting to a value in the section where the setting belongs: a table has
the value under the key of the setting, and a list has it in the place of that key. Keys that
name no setting are passed over wherever they stand, and a section in which nothing is set
says as much as none (`said?_congr`).

## Main definitions

* `Section`, `Setting`: The sections and the settings.
* `Setting.value`: A setting of a configuration.
* `Setting.said?`: What a document says about a setting.
* `Setting.SetTo`: A document sets a setting to a value.
* `Setting.Padded`: A document has one thing more, which names no setting.

## Theorems

* `eq_of_values`: A configuration is its settings.
* `value_onto`: A document's values go before others.
* `ofTable?_eq_some_iff`: A document is read setting by setting.
* `said?_of_setTo`, `setTo_of_said?`: What is said is what was set.
* `said?_congr`, `ofTable?_congr`: What names no setting makes no difference.
-/

namespace ControlPlane

open Toml (Table Value)

namespace Toml.Table

/-! ### Looking up -/

theorem find?_cons_self (key : String) (v : Value) (rest : Table) :
    Table.find? key ((key, v) :: rest) = some v := by
  simp only [Table.find?, List.find?_cons, decide_true, Option.map_some]

theorem find?_cons_of_ne {key other : String} (h : other ≠ key) (v : Value) (rest : Table) :
    Table.find? key ((other, v) :: rest) = Table.find? key rest := by
  simp only [Table.find?, List.find?_cons, h, decide_false]

/-- A list has the value of a key in the place of the key. -/
theorem find?_zip {key : String} {keys : List String} (h : key ∈ keys) (items : List Value) :
    Table.find? key (keys.zip items) = items[keys.idxOf key]? := by
  induction keys generalizing items with
  | nil => cases h
  | cons first rest ih =>
      cases items with
      | nil => rfl
      | cons item others =>
          rw [List.zip_cons_cons]
          by_cases hfirst : first = key
          · rw [hfirst, find?_cons_self, List.idxOf_cons_self, List.getElem?_cons_zero]
          · have hmem : key ∈ rest := (List.mem_cons.mp h).resolve_left (Ne.symm hfirst)
            rw [find?_cons_of_ne hfirst, ih hmem, List.idxOf_cons_ne rest hfirst,
              List.getElem?_cons_succ]

theorem find?_append (key : String) (front back : Table) :
    Table.find? key (front ++ back) = (Table.find? key front).or (Table.find? key back) := by
  rw [Table.find?, List.find?_append, Option.map_or, Table.find?, Table.find?]

/-- A key is found whatever other keys there are. -/
theorem find?_insert_of_ne {key other : String} (h : other ≠ key) (v : Value)
    (front back : Table) :
    Table.find? key (front ++ (other, v) :: back) = Table.find? key (front ++ back) := by
  rw [find?_append, find?_append, find?_cons_of_ne h]

theorem find?_insert_self {key : String} {front : Table} (h : front.find? key = none) (v : Value)
    (back : Table) : Table.find? key (front ++ (key, v) :: back) = some v := by
  rw [find?_append, h, find?_cons_self, Option.none_or]

end Toml.Table

/-- The sections of a configuration. -/
inductive Section where
  | serving
  | limits
  | observability
  deriving DecidableEq

/-- The settings of a server, by the kind of thing they are set to. -/
inductive Setting : Type → Type where
  | port : Setting UInt16
  | bind : Setting (List String)
  | allow : Setting (List String)
  | threads : Setting UInt64
  | queue : Setting UInt64
  | timeout : Setting UInt64
  | headerBytes : Setting UInt64
  | blockBytes : Setting UInt64
  | filter : Setting String
  | dumps : Setting Bool
  | metrics : Setting Bool
  | metricsAddress : Setting String

namespace Section

/-- The key of the section in a document. -/
def name : Section → String
  | .serving => "rpc"
  | .limits => "limits"
  | .observability => "observability"

/-- The keys of its settings, in order. -/
def keys : Section → List String
  | .serving => ["port", "bind", "allow_ip", "threads", "work_queue", "server_timeout_secs"]
  | .limits => ["max_header_bytes", "excessive_block_size"]
  | .observability => ["log_filter", "http_trace", "metrics_enabled", "metrics_address"]

theorem name_inj {home other : Section} (h : home.name = other.name) : home = other := by
  cases home <;> cases other <;> first | rfl | exact absurd h (by decide)

end Section

namespace Setting

variable {α : Type}

/-- The section where the setting belongs. -/
def home : Setting α → Section
  | .port | .bind | .allow | .threads | .queue | .timeout => .serving
  | .headerBytes | .blockBytes => .limits
  | .filter | .dumps | .metrics | .metricsAddress => .observability

/-- The key of the setting in its section. -/
def key : Setting α → String
  | .port => "port"
  | .bind => "bind"
  | .allow => "allow_ip"
  | .threads => "threads"
  | .queue => "work_queue"
  | .timeout => "server_timeout_secs"
  | .headerBytes => "max_header_bytes"
  | .blockBytes => "excessive_block_size"
  | .filter => "log_filter"
  | .dumps => "http_trace"
  | .metrics => "metrics_enabled"
  | .metricsAddress => "metrics_address"

/-- The place of the setting among those of its section. -/
def place (s : Setting α) : Nat :=
  s.home.keys.idxOf s.key

/-- The setting in a configuration. -/
def value : Setting α → Config → α
  | .port, c => c.serving.port
  | .bind, c => c.serving.bind
  | .allow, c => c.serving.allow
  | .threads, c => c.serving.threads
  | .queue, c => c.serving.queue
  | .timeout, c => c.serving.timeout
  | .headerBytes, c => c.limits.headerBytes
  | .blockBytes, c => c.limits.blockBytes
  | .filter, c => c.observability.filter
  | .dumps, c => c.observability.dumps
  | .metrics, c => c.observability.metrics
  | .metricsAddress, c => c.observability.metricsAddress

/-- What was mentioned for the setting. -/
def mentioned : Setting α → Mentioned → Option α
  | .port, m => m.port
  | .bind, m => m.bind
  | .allow, m => m.allow
  | .threads, m => m.threads
  | .queue, m => m.queue
  | .timeout, m => m.timeout
  | .headerBytes, m => m.headerBytes
  | .blockBytes, m => m.blockBytes
  | .filter, m => m.filter
  | .dumps, m => m.dumps
  | .metrics, m => m.metrics
  | .metricsAddress, m => m.metricsAddress

/-- What a value means to the setting, if it is of its kind. -/
def kind : Setting α → Value → Option α
  | .port => Value.port?
  | .bind | .allow => Value.texts?
  | .threads | .queue | .timeout | .headerBytes | .blockBytes => Value.size?
  | .filter | .metricsAddress => Value.text?
  | .dumps | .metrics => Value.flag?

/-- What a document says about the setting. -/
def said? (s : Setting α) (t : Table) : Option (Option α) :=
  (Mentioned.section? s.home.name s.home.keys t).bind (Mentioned.setting? s.kind s.key)

/-- The document sets the setting to the value. -/
inductive SetTo (s : Setting α) (t : Table) : Value → Prop
  /-- Its section is a table, which has the key. -/
  | named {origin : Toml.Origin} {entries : Table} {v : Value}
      (there : t.find? s.home.name = some (.table origin entries))
      (found : entries.find? s.key = some v) : SetTo s t v
  /-- Its section is a list, which is long enough. -/
  | placed {items : List Value} {v : Value} (there : t.find? s.home.name = some (.list items))
      (found : items[s.place]? = some v) : SetTo s t v
  /-- Its section is a list of tables with headers of their own, which is long enough. -/
  | headed {elements : List Table} {entries : Table}
      (there : t.find? s.home.name = some (.tables elements))
      (found : elements[s.place]? = some entries) : SetTo s t (.table .header entries)

/-- The second document is the first with one more thing in it, which names no setting. -/
inductive Padded : Table → Table → Prop
  /-- A key that names no section. -/
  | key (front back : Table) (key : String) (v : Value)
      (foreign : ∀ home : Section, key ≠ home.name) :
      Padded (front ++ back) (front ++ (key, v) :: back)
  /-- A key of a section that names no setting of it. -/
  | within (front back : Table) (home : Section) (origin : Toml.Origin) (before after : Table)
      (key : String) (v : Value) (foreign : key ∉ home.keys) :
      Padded (front ++ (home.name, .table origin (before ++ after)) :: back)
        (front ++ (home.name, .table origin (before ++ (key, v) :: after)) :: back)
  /-- A section without keys. -/
  | bare (front back : Table) (home : Section) (origin : Toml.Origin)
      (absent : Table.find? home.name (front ++ back) = none) :
      Padded (front ++ back) (front ++ (home.name, .table origin []) :: back)

variable {s : Setting α} {t t' : Table} {v : Value} {a : α}

/-! ### Configurations -/

/-- A configuration is its settings. -/
theorem eq_of_values {c c' : Config} (h : ∀ α (s : Setting α), s.value c = s.value c') :
    c = c' := by
  rcases c with ⟨⟨_, _, _, _, _, _⟩, ⟨_, _⟩, ⟨_, _, _, _⟩⟩
  rcases c' with ⟨⟨_, _, _, _, _, _⟩, ⟨_, _⟩, ⟨_, _, _, _⟩⟩
  have hport := h _ .port
  have hbind := h _ .bind
  have hallow := h _ .allow
  have hthreads := h _ .threads
  have hqueue := h _ .queue
  have htimeout := h _ .timeout
  have hheader := h _ .headerBytes
  have hblock := h _ .blockBytes
  have hfilter := h _ .filter
  have hdumps := h _ .dumps
  have hmetrics := h _ .metrics
  have haddress := h _ .metricsAddress
  simp only [value] at *
  simp only [*]

/-- What was mentioned goes before what was there. -/
theorem value_onto (s : Setting α) (m : Mentioned) (c : Config) :
    s.value (m.onto c) = (s.mentioned m).getD (s.value c) := by
  cases s <;> rfl

/-! ### Documents -/

/-- In a section that can be read, a setting is looked for by its key. -/
theorem said?_of_section? (s : Setting α) {entries : Table}
    (h : Mentioned.section? s.home.name s.home.keys t = some entries) :
    s.said? t = Mentioned.setting? s.kind s.key entries := by
  rw [said?, h, Option.bind_some]

/-- One reading after the other. -/
theorem read_eq_some_iff {β γ : Type} {first : Option β} {next : β → Option γ} {c : γ} :
    (first >>= next) = some c ↔ ∃ b, first = some b ∧ next b = some c :=
  Option.bind_eq_some_iff

/-- A document is read setting by setting. -/
theorem ofTable?_eq_some_iff {m : Mentioned} :
    Mentioned.ofTable? t = some m ↔ ∀ α (s : Setting α), s.said? t = some (s.mentioned m) := by
  -- Each reading stands inside the one before, so they are taken apart from the outside.
  simp only [Mentioned.ofTable?, ↓read_eq_some_iff, Option.pure_def, Option.some.injEq]
  constructor
  · rintro ⟨serving, hserving, limits, hlimits, observability, hobservability, port, hport,
      bind, hbind, allow, hallow, threads, hthreads, queue, hqueue, timeout, htimeout,
      header, hheader, block, hblock, filter, hfilter, dumps, hdumps, metrics, hmetrics,
      address, haddress, rfl⟩
    intro α s
    cases s with
    | port => exact (said?_of_section? .port hserving).trans hport
    | bind => exact (said?_of_section? .bind hserving).trans hbind
    | allow => exact (said?_of_section? .allow hserving).trans hallow
    | threads => exact (said?_of_section? .threads hserving).trans hthreads
    | queue => exact (said?_of_section? .queue hserving).trans hqueue
    | timeout => exact (said?_of_section? .timeout hserving).trans htimeout
    | headerBytes => exact (said?_of_section? .headerBytes hlimits).trans hheader
    | blockBytes => exact (said?_of_section? .blockBytes hlimits).trans hblock
    | filter => exact (said?_of_section? .filter hobservability).trans hfilter
    | dumps => exact (said?_of_section? .dumps hobservability).trans hdumps
    | metrics => exact (said?_of_section? .metrics hobservability).trans hmetrics
    | metricsAddress => exact (said?_of_section? .metricsAddress hobservability).trans haddress
  · intro h
    -- One setting of a section tells that the section can be read.
    rcases Option.bind_eq_some_iff.mp (h _ .port) with ⟨serving, hserving, hport⟩
    rcases Option.bind_eq_some_iff.mp (h _ .headerBytes) with ⟨limits, hlimits, hheader⟩
    rcases Option.bind_eq_some_iff.mp (h _ .filter) with ⟨observability, hobservability, hfilter⟩
    exact ⟨serving, hserving, limits, hlimits, observability, hobservability,
      m.port, hport,
      m.bind, (said?_of_section? .bind hserving).symm.trans (h _ .bind),
      m.allow, (said?_of_section? .allow hserving).symm.trans (h _ .allow),
      m.threads, (said?_of_section? .threads hserving).symm.trans (h _ .threads),
      m.queue, (said?_of_section? .queue hserving).symm.trans (h _ .queue),
      m.timeout, (said?_of_section? .timeout hserving).symm.trans (h _ .timeout),
      m.headerBytes, hheader,
      m.blockBytes, (said?_of_section? .blockBytes hlimits).symm.trans (h _ .blockBytes),
      m.filter, hfilter,
      m.dumps, (said?_of_section? .dumps hobservability).symm.trans (h _ .dumps),
      m.metrics, (said?_of_section? .metrics hobservability).symm.trans (h _ .metrics),
      m.metricsAddress,
      (said?_of_section? .metricsAddress hobservability).symm.trans (h _ .metricsAddress), rfl⟩

/-! ### Values -/

theorem key_mem_keys (s : Setting α) : s.key ∈ s.home.keys := by
  cases s <;> decide

theorem setting?_of_find? {kind : Value → Option α} {key : String} {entries : Table}
    (h : entries.find? key = some v) : Mentioned.setting? kind key entries = (kind v).map some := by
  rw [Mentioned.setting?, h]

theorem find?_of_setting? {kind : Value → Option α} {key : String} {entries : Table}
    (h : Mentioned.setting? kind key entries = some (some a)) :
    ∃ v, entries.find? key = some v ∧ kind v = some a := by
  unfold Mentioned.setting? at h
  cases hfind : entries.find? key with
  | none => simp only [hfind, reduceCtorEq, Option.some.injEq] at h
  | some v =>
      simp only [hfind, Option.map_eq_some_iff, Option.some.injEq, exists_eq_right] at h
      exact ⟨v, rfl, h⟩

theorem said?_of_absent (h : t.find? s.home.name = none) : s.said? t = some none := by
  have hsection : Mentioned.section? s.home.name s.home.keys t = some [] := by
    rw [Mentioned.section?, h]
  exact said?_of_section? s hsection

theorem said?_of_table {origin : Toml.Origin} {entries : Table}
    (h : t.find? s.home.name = some (.table origin entries)) :
    s.said? t = Mentioned.setting? s.kind s.key entries :=
  said?_of_section? s (by rw [Mentioned.section?, h]; rfl)

/-- What is said of a setting is what it is set to. -/
theorem said?_of_setTo (h : s.SetTo t v) : s.said? t = (s.kind v).map some := by
  cases h with
  | named there found => exact (said?_of_table there).trans (setting?_of_find? found)
  | placed there found =>
      rw [said?_of_section? s (by rw [Mentioned.section?, there]; rfl)]
      exact setting?_of_find? ((Table.find?_zip (key_mem_keys s) _).trans found)
  | headed there found =>
      rw [said?_of_section? s (by rw [Mentioned.section?, there]; rfl)]
      refine setting?_of_find? ((Table.find?_zip (key_mem_keys s) _).trans ?_)
      rw [List.getElem?_map]
      exact congrArg _ found

/-- What is said of a setting was set. -/
theorem setTo_of_said? (h : s.said? t = some (some a)) : ∃ v, s.SetTo t v ∧ s.kind v = some a := by
  rcases Option.bind_eq_some_iff.mp h with ⟨entries, hsection, hsetting⟩
  rcases find?_of_setting? hsetting with ⟨v, hfind, hkind⟩
  refine ⟨v, ?_, hkind⟩
  unfold Mentioned.section? at hsection
  cases hthere : t.find? s.home.name with
  | none =>
      simp only [hthere, Option.some.injEq] at hsection
      rw [← hsection] at hfind
      cases hfind
  | some w =>
      simp only [hthere] at hsection
      cases w with
      | table origin sub =>
          rw [← Option.some.inj hsection] at hfind
          exact .named hthere hfind
      | list items =>
          rw [← Option.some.inj hsection, Table.find?_zip (key_mem_keys s)] at hfind
          exact .placed hthere hfind
      | tables elements =>
          rw [← Option.some.inj hsection, Table.find?_zip (key_mem_keys s), List.getElem?_map,
            Option.map_eq_some_iff] at hfind
          rcases hfind with ⟨sub, hfound, rfl⟩
          exact .headed hthere hfound
      | moment m =>
          rw [← Option.some.inj hsection] at hfind
          cases hfind
      | text _ | integer _ | real _ | boolean _ => cases hsection

/-! ### What names no setting -/

theorem said?_of_find? (h : t'.find? s.home.name = t.find? s.home.name) :
    s.said? t' = s.said? t := by
  unfold said? Mentioned.section?
  rw [h]

/-- One more thing that names no setting says nothing about any. -/
theorem said?_of_padded (h : Padded t t') (s : Setting α) : s.said? t' = s.said? t := by
  cases h with
  | key front back key v foreign =>
      exact said?_of_find? (Table.find?_insert_of_ne (foreign s.home) v front back)
  | within front back home origin before after key v foreign =>
      by_cases hname : home.name = s.home.name
      · cases Section.name_inj hname
        cases hfront : Table.find? s.home.name front with
        | some w =>
            -- The section was there before, and that one counts.
            exact said?_of_find? (by rw [Table.find?_append, Table.find?_append, hfront]; rfl)
        | none =>
            have hkey : key ≠ s.key := fun heq => foreign (heq ▸ key_mem_keys s)
            rw [said?_of_table (Table.find?_insert_self hfront _ back),
              said?_of_table (Table.find?_insert_self hfront _ back), Mentioned.setting?,
              Mentioned.setting?, Table.find?_insert_of_ne hkey]
      · refine said?_of_find? ?_
        rw [Table.find?_insert_of_ne hname, Table.find?_insert_of_ne hname]
  | bare front back home origin absent =>
      by_cases hname : home.name = s.home.name
      · cases Section.name_inj hname
        have hfront : Table.find? s.home.name front = none :=
          (Option.or_eq_none_iff.mp ((Table.find?_append _ front back).symm.trans absent)).1
        rw [said?_of_absent absent, said?_of_table (Table.find?_insert_self hfront _ back)]
        rfl
      · exact said?_of_find? (Table.find?_insert_of_ne hname _ front back)

/-- So do any number of such things, put in or left out. -/
theorem said?_congr (h : Relation.EqvGen Padded t t') (s : Setting α) :
    s.said? t' = s.said? t := by
  induction h with
  | rel _ _ hpadded => exact said?_of_padded hpadded s
  | refl _ => rfl
  | symm _ _ _ ih => exact ih.symm
  | trans _ _ _ _ _ ih ih' => exact ih'.trans ih

/-- They do not make a document readable or unreadable either. -/
theorem ofTable?_congr (h : Relation.EqvGen Padded t t') :
    Mentioned.ofTable? t' = Mentioned.ofTable? t := by
  refine Option.ext fun m => ?_
  simp only [ofTable?_eq_some_iff, said?_congr h]

end Setting

end ControlPlane
