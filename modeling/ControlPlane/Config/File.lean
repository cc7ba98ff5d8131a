import ControlPlane.Config.Document
import ControlPlane.Config.Problem
import ControlPlane.FileTree
import ControlPlane.Text.Utf8

/-!
# Configuration Files

A configuration comes from a file that holds a document. Reading it can fail in
three ways, one after the other: the file cannot be read as text, the text is no
document about these settings, or the settings do not make sense.

## Main definitions

* `ConfigFault`: Why there is no configuration.
* `Config.accept`: The configuration, if nothing is wrong with it.
* `Config.ofDocument`: The configuration that a document asks for.
* `Config.ofFile`: The configuration in a file.
-/

namespace ControlPlane

/-- Why there is no configuration. -/
inductive ConfigFault where
  | file (fault : FileFault)
  /-- The text is no document about these settings. -/
  | document
  | problems (ps : List Problem)
  deriving DecidableEq

namespace ConfigFault

/-- The wording of the fault. -/
def message : ConfigFault → String
  | .file fault => "IO error: " ++ fault.message
  | .document => "Parse error"
  | .problems ps => "Validation failed: " ++ Problem.joined ps

/-- The fault with its parts, as it is shown where the program ends with it. -/
def describe : ConfigFault → String
  | .file fault => "Io(" ++ fault.describe ++ ")"
  | .document => "Parse"
  | .problems ps =>
    "Validation([" ++ String.intercalate ", " (ps.map Problem.describe) ++ "])"

end ConfigFault

namespace Config

/-- The configuration, if nothing is wrong with it. -/
def accept (c : Config) : Except ConfigFault Config :=
  match c.problems with
  | [] => .ok c
  | ps => .error (.problems ps)

/-- The configuration that a text asks for, if it is a document about these
    settings and they make sense. -/
def ofDocument (text : String) : Except ConfigFault Config :=
  match (Toml.Document.ofText? text).bind Mentioned.ofTable? with
  | none => .error .document
  | some m => (m.onto {}).accept

/-- The configuration in a file. -/
def ofFile (files : Files) (path : String) : Except ConfigFault Config :=
  match files path with
  | .error fault => .error (.file fault)
  | .ok octets =>
    match Text.ofUtf8? octets with
    | none => .error (.file .encoding)
    | some text => ofDocument text

end Config

end ControlPlane
