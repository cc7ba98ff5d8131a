import ControlPlane.Telemetry
import ControlPlane.Text.Numeral
import ControlPlane.Text.Split

/-!
# Log Lines

How the log is written. An event takes a line with its level, the thread that told
it, its source, its message and its values. The names of threads are written as wide
as the longest one so far, so that what follows them stands in a column.

A message may come from outside, so what could steer a terminal is written out in
it. Line ends are not, and an event with one takes more than one line.

## Main definitions

* `Thread`: A thread of the program.
* `LogLine`: An event and who told it.
* `LogLine.text`: A line as it is written.
* `LogLine.render`: All lines of some events.
-/

namespace ControlPlane

open Telemetry (Event)

/-- A thread of the program. -/
inductive Thread where
  | main
  /-- The thread of the sockets. -/
  | reactor
  | worker (number : Nat)
  /-- The thread on which the server is stopped, since that may take long. -/
  | stopping
  deriving DecidableEq

/-- The name of the thread in the log. -/
def Thread.name : Thread → String
  | .main => "main"
  | .reactor => "http"
  | .worker number => "httpworker." ++ Text.decimal number
  | .stopping => "blocking-worker"

/-- An event and who told it. -/
structure LogLine where
  thread : Thread
  event : Event
  deriving DecidableEq

namespace LogLine

/-- The text with blanks in front of it, if it is not as wide as asked for. -/
def padded (width : Nat) (s : String) : String :=
  String.ofList (List.replicate (width - s.length) ' ') ++ s

/-- A character of a message as it is written. -/
def safely (c : Char) : String :=
  let code := c.toNat
  if code = 0x1B ∨ code = 0x07 ∨ code = 0x08 ∨ code = 0x0C ∨ code = 0x7F then
    "\\x" ++ String.ofList (Text.hexPlaces 2 code)
  else if 0x80 ≤ code ∧ code ≤ 0x9F then "\\u\x7b" ++ Text.hexadecimal code ++ "\x7d"
  else c.toString

/-- A line as it is written, given how wide the names of threads are. -/
def text (width : Nat) (l : LogLine) : String :=
  let e := l.event
  let message := String.join (e.message.toList.map safely)
  padded 5 e.level.name ++ " " ++ padded width l.thread.name ++ " " ++ e.source.name ++ ": " ++
    String.intercalate " " (message :: e.fields.map fun (name, value) => name ++ "=" ++ value)

/-- How wide the names of threads are written from an event on. -/
def widen (width : Nat) (l : LogLine) : Nat :=
  max width l.thread.name.length

/-- How wide the names of threads are written after some events. -/
def widest (width : Nat) (lines : List LogLine) : Nat :=
  lines.foldl widen width

/-- All lines of some events, the width so far given. -/
def render : (width : Nat) → List LogLine → List String
  | _, [] => []
  | width, l :: rest =>
    (Text.splitAll '\n' (l.text (widen width l)).toList).map String.ofList ++
      render (widen width l) rest

end LogLine

end ControlPlane
