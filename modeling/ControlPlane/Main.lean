import ControlPlane.Program

/-!
# Entry Point

Runs the program on a closed host: its network is that of `Network`, and its
signals come as lines on standard input. What the log shows goes to standard
output.

Nothing is decided here. The file that the words name is read beforehand, since
the program itself takes files as a function.

## Main definitions

* `main`: The program.
-/

namespace ControlPlane

namespace Entry

/-- What reading a file failed with. -/
def faultOf : IO.Error → FileFault
  | .noFileOrDirectory .. => .missing
  | .inappropriateType none .. => .directory
  | .inappropriateType .. => .notDirectory
  | .invalidArgument _ 36 _ => .tooLong
  | _ => .denied

/-- What reading a file comes to. -/
def readFile (path : String) : IO (Except FileFault ByteArray) := do
  try
    return .ok (← IO.FS.readBinFile path)
  catch e => return .error (faultOf e)

/-- The file that some words name, for every path that is asked for. -/
def filesFor (words : List String) : IO Files := do
  match (CommandLine.ofWords words).toOption.bind (·.file) with
  | none => return fun _ => .error .missing
  | some path =>
    let found ← readFile path
    return fun _ => found

/-- The signal that a line stands for. -/
def signal? : String → Option Signal
  | "USR1" => some .toggleDumps
  | "INT" => some (.stop .interrupt)
  | "TERM" => some (.stop .terminate)
  | _ => none

/-- Writes what the log shows, the width of thread names so far given. The answer is
    the width afterwards. -/
def write (width : Nat) (shown : List LogLine) : IO Nat := do
  (LogLine.render width shown).forM IO.println
  return LogLine.widest width shown

/-- Tells how the program ended. -/
def finish (ending : Ending) : IO UInt32 := do
  match ending with
  | .usage fault =>
    match fault.message? with
    | none => CommandLine.usage.forM IO.println
    | some message => (message :: CommandLine.usage).forM IO.eprintln
  | _ => if let some line := ending.failureLine? then IO.eprintln line
  return ending.exitCode

/-- Serves signals until one ends the program. The end of the input does too. -/
partial def serve (input : IO.FS.Stream) (width : Nat) (p : Program) : IO UInt32 := do
  let line ← input.getLine
  let signal := if line.isEmpty then some (.stop .terminate) else signal? line.trimAscii.toString
  match signal with
  | none => serve input width p
  | some signal =>
    let (outcome, shown) := p.receive signal
    let width ← write width shown
    match outcome with
    | .ok p => serve input width p
    | .error ending => finish ending

end Entry

end ControlPlane

/-- Launches the program and serves its signals. -/
def main (words : List String) : IO UInt32 := do
  let launch : ControlPlane.Launch :=
    ⟨words, ← IO.getEnv "RUST_LOG", ← ControlPlane.Entry.filesFor words⟩
  let (outcome, shown) := ControlPlane.Program.launch launch {}
  let width ← ControlPlane.Entry.write 0 shown
  match outcome with
  | .error ending => ControlPlane.Entry.finish ending
  | .ok p => ControlPlane.Entry.serve (← IO.getStdin) width p
