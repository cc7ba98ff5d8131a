import ControlPlane.Text.Numeral
import ControlPlane.Text.Quoted
import ControlPlane.Text.Split

/-!
# File Trees

The files that the program can read, and why reading one can fail. A path names the
steps from the root of the tree, or from the directory that the program runs in, to
a file. Every step starts from a directory, also one that leads nowhere, so a path
with a slash behind a file fails.

## Main definitions

* `FileFault`: Why a file cannot be read as text.
* `Files`: What reading a file comes to, for every path.
* `FileTree`: Files and directories by their places.
* `FileTree.walk`: The place that steps lead to.
* `FileTree.read`: The octets of a file.
-/

namespace ControlPlane

/-- Why a file cannot be read as text. -/
inductive FileFault where
  | missing
  | directory
  /-- A part of the path is a file and no directory. -/
  | notDirectory
  /-- The path or a name in it is too long. -/
  | tooLong
  /-- The file may not be read. -/
  | denied
  /-- The path has a character that no path can have. -/
  | unnameable
  | encoding
  deriving DecidableEq

namespace FileFault

/-- What the fault is called. -/
def reason : FileFault → String
  | .missing => "No such file or directory"
  | .directory => "Is a directory"
  | .notDirectory => "Not a directory"
  | .tooLong => "File name too long"
  | .denied => "Permission denied"
  | .unnameable => "file name contained an unexpected NUL byte"
  | .encoding => "stream did not contain valid UTF-8"

/-- The kind of the fault. -/
def kind : FileFault → String
  | .missing => "NotFound"
  | .directory => "IsADirectory"
  | .notDirectory => "NotADirectory"
  | .tooLong => "InvalidFilename"
  | .denied => "PermissionDenied"
  | .unnameable => "InvalidInput"
  | .encoding => "InvalidData"

/-- The number that the system gives the fault, if it comes from the system. -/
def code? : FileFault → Option Nat
  | .missing => some 2
  | .directory => some 21
  | .notDirectory => some 20
  | .tooLong => some 36
  | .denied => some 13
  | .unnameable | .encoding => none

/-- The wording of the fault. -/
def message (f : FileFault) : String :=
  match f.code? with
  | some code => f.reason ++ " (os error " ++ Text.decimal code ++ ")"
  | none => f.reason

/-- The fault with its parts, as it is shown where the program ends with it. -/
def describe (f : FileFault) : String :=
  let parts := "kind: " ++ f.kind ++ ", message: " ++ Text.quoted f.reason ++ " \x7d"
  match f.code? with
  | some code => "Os \x7b code: " ++ Text.decimal code ++ ", " ++ parts
  | none => "Error \x7b " ++ parts

end FileFault

/-- What reading a file as octets comes to, for every path. -/
abbrev Files := String → Except FileFault ByteArray

/-- What is at a place. -/
inductive FileNode where
  | file (octets : ByteArray)
  | directory

/-- Files and directories by their places. A place is the list of names that lead to
    it from the root, which is a directory itself. -/
structure FileTree where
  nodes : List (List String × FileNode)
  /-- Where a path begins that does not begin at the root. -/
  here : List String := []

namespace FileTree

/-- What is at a place. -/
def node? (t : FileTree) (place : List String) : Option FileNode :=
  if place = [] then some .directory
  else (t.nodes.find? fun node => node.1 = place).map Prod.snd

/-- How many octets a name may have. -/
def nameLimit : Nat := 255

/-- How many octets a path may have. -/
def pathLimit : Nat := 4095

/-- The place that one step leads to. -/
def step (t : FileTree) (place : List String) (name : String) : Except FileFault (List String) :=
  match t.node? place with
  | none => .error .missing
  | some (.file _) => .error .notDirectory
  | some .directory =>
    if name = "" ∨ name = "." then .ok place
    else if name = ".." then .ok place.dropLast
    else if nameLimit < name.utf8ByteSize then .error .tooLong
    else if (t.node? (place ++ [name])).isSome then .ok (place ++ [name])
    else .error .missing

/-- The place that steps lead to. -/
def walk (t : FileTree) : (place : List String) → List String → Except FileFault (List String)
  | place, [] => .ok place
  | place, name :: rest =>
    match t.step place name with
    | .ok place => walk t place rest
    | .error fault => .error fault

/-- The octets of the file that a path names. -/
def read (t : FileTree) : Files := fun path =>
  if '\x00' ∈ path.toList then .error .unnameable
  else if path = "" then .error .missing
  else if pathLimit < path.utf8ByteSize then .error .tooLong
  else
    let start := if path.toList.head? = some '/' then [] else t.here
    match t.walk start ((Text.splitAll '/' path.toList).map String.ofList) with
    | .error fault => .error fault
    | .ok place =>
      match t.node? place with
      | some (.file octets) => .ok octets
      | some .directory => .error .directory
      | none => .error .missing

end FileTree

end ControlPlane
