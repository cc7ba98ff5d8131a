import ControlPlane.Config.Basic
import ControlPlane.Toml.Document

/-!
# Configurations From Documents

What a document says about the settings. A section is a table whose keys name
settings; it may also be a list of the settings in their order. A setting that
the document does not mention keeps its default, and keys that name no setting
do not matter. A setting that is mentioned must have a value of its kind.

## Main definitions

* `Toml.Value.Kind`: The values that a setting takes.
* `Mentioned`: What a document says about each setting.
* `Mentioned.ofTable?`: Reads that off a document.
* `Mentioned.onto`: The configuration that a document asks for.
-/

namespace ControlPlane

namespace Toml.Value

/-- The integer, if it is a count in so many bits. -/
def count? (bits : Nat) : Value → Option Nat
  | .integer n => if 0 ≤ n ∧ n.toNat < Nat.pow 2 bits then some n.toNat else none
  | _ => none

/-- The port that a value names. -/
def port? (v : Value) : Option UInt16 :=
  (v.count? 16).map UInt16.ofNat

/-- The count that a value names. -/
def size? (v : Value) : Option UInt64 :=
  (v.count? 64).map UInt64.ofNat

/-- The truth value. -/
def flag? : Value → Option Bool
  | .boolean b => some b
  | _ => none

/-- The text. -/
def text? : Value → Option String
  | .text s => some s
  | _ => none

/-- The texts of a list of nothing but texts. -/
def texts? : Value → Option (List String)
  | .list items => items.mapM text?
  | _ => none

/-- What a value says about the settings of a section, given their names in order:
    a table names them, and a list has them one after the other. A moment says
    nothing about any. -/
def section? (names : List String) : Value → Option Table
  | .table _ entries => some entries
  | .list items => some (names.zip items)
  | .tables elements => some (names.zip (elements.map fun t => .table .header t))
  | .moment _ => some []
  | _ => none

end Toml.Value

/-- What a document says about each setting. -/
structure Mentioned where
  port : Option UInt16 := none
  bind : Option (List String) := none
  allow : Option (List String) := none
  threads : Option UInt64 := none
  queue : Option UInt64 := none
  timeout : Option UInt64 := none
  headerBytes : Option UInt64 := none
  blockBytes : Option UInt64 := none
  filter : Option String := none
  dumps : Option Bool := none
  metrics : Option Bool := none
  metricsAddress : Option String := none
  deriving DecidableEq

namespace Mentioned

open Toml (Table Value)

/-- What a section says about one setting. A value that is not of its kind is an
    error, and no value at all is not. -/
def setting? {α : Type} (kind : Value → Option α) (key : String) (t : Table) :
    Option (Option α) :=
  match t.find? key with
  | none => some none
  | some v => (kind v).map some

/-- What a document says about the settings of a section. -/
def section? (key : String) (names : List String) (t : Table) : Option Table :=
  match t.find? key with
  | none => some []
  | some v => v.section? names

/-- What a document says about each setting, unless a value is not of its kind. -/
def ofTable? (t : Table) : Option Mentioned := do
  let rpc ← section? "rpc"
    ["port", "bind", "allow_ip", "threads", "work_queue", "server_timeout_secs"] t
  let limits ← section? "limits" ["max_header_bytes", "excessive_block_size"] t
  let observability ← section? "observability"
    ["log_filter", "http_trace", "metrics_enabled", "metrics_address"] t
  return {
    port := ← setting? Value.port? "port" rpc
    bind := ← setting? Value.texts? "bind" rpc
    allow := ← setting? Value.texts? "allow_ip" rpc
    threads := ← setting? Value.size? "threads" rpc
    queue := ← setting? Value.size? "work_queue" rpc
    timeout := ← setting? Value.size? "server_timeout_secs" rpc
    headerBytes := ← setting? Value.size? "max_header_bytes" limits
    blockBytes := ← setting? Value.size? "excessive_block_size" limits
    filter := ← setting? Value.text? "log_filter" observability
    dumps := ← setting? Value.flag? "http_trace" observability
    metrics := ← setting? Value.flag? "metrics_enabled" observability
    metricsAddress := ← setting? Value.text? "metrics_address" observability }

/-- The configuration with every setting that was mentioned in place of the
    given one. -/
def onto (m : Mentioned) (c : Config) : Config where
  serving := {
    port := m.port.getD c.serving.port
    bind := m.bind.getD c.serving.bind
    allow := m.allow.getD c.serving.allow
    threads := m.threads.getD c.serving.threads
    queue := m.queue.getD c.serving.queue
    timeout := m.timeout.getD c.serving.timeout }
  limits := {
    headerBytes := m.headerBytes.getD c.limits.headerBytes
    blockBytes := m.blockBytes.getD c.limits.blockBytes }
  observability := {
    filter := m.filter.getD c.observability.filter
    dumps := m.dumps.getD c.observability.dumps
    metrics := m.metrics.getD c.observability.metrics
    metricsAddress := m.metricsAddress.getD c.observability.metricsAddress }

end Mentioned

end ControlPlane
