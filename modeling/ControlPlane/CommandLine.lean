import ControlPlane.Config.File
import ControlPlane.Text.Numeral
import ControlPlane.Text.Split

/-!
# The Command Line

The words after the name of the program name a configuration file and override
single settings. An option with a value takes it from the same word, after an
equals sign, or from the next one, unless that looks like an option itself. The
options whose values add up may be repeated, and the others may not.

A value is looked at only once the next option begins or the words end. A word
that means nothing is therefore told before a bad value right in front of it.

## Main definitions

* `CommandLine`: What the words ask for.
* `UsageFault`: Why the words are not understood.
* `CommandLine.ofWords`: Reads the words.
* `CommandLine.onto`: A configuration with the overrides.
* `CommandLine.config`: The configuration that the program starts with.
-/

namespace ControlPlane

/-- What the words of a command line ask for. -/
structure CommandLine where
  /-- The path of the configuration file. -/
  file : Option String := none
  port : Option UInt16 := none
  bind : List String := []
  allow : List String := []
  threads : Option UInt64 := none
  queue : Option UInt64 := none
  timeout : Option UInt64 := none
  dumps : Bool := false
  deriving DecidableEq

/-- Why the words of a command line are not understood. -/
inductive UsageFault where
  /-- A word names no option, or stands where none belongs. -/
  | unknown
  /-- An option lacks its value. -/
  | valueMissing
  /-- A value is not of its kind. -/
  | valueInvalid
  /-- An option is given a second time. -/
  | repeated
  /-- An option that takes no value is given one. -/
  | valueUnexpected
  /-- Help is asked for instead. -/
  | help
  deriving DecidableEq

/-- The wording of the fault. Help asked for is explained by the usage alone. -/
def UsageFault.message? : UsageFault → Option String
  | .unknown => some "error: unexpected argument"
  | .valueMissing => some "error: a value is required"
  | .valueInvalid => some "error: invalid value"
  | .repeated => some "error: the argument cannot be used multiple times"
  | .valueUnexpected => some "error: unexpected value"
  | .help => none

namespace CommandLine

/-- What the program may be asked for, a line for each option. -/
def usage : List String :=
  ["Usage: rpc-httpd [OPTIONS]",
    "  -c, --config <CONFIG>      TOML configuration file",
    "      --rpcport <PORT>       Default port for bind entries",
    "      --rpcbind <ADDRESS>    Address to bind, host[:port]; repeatable, needs --rpcallowip",
    "      --rpcallowip <SUBNET>  Subnet allowed to connect; repeatable",
    "      --rpcthreads <N>       Number of worker threads",
    "      --rpcworkqueue <N>     Depth of the work queue",
    "      --rpcservertimeout <S> Connection idle timeout in seconds",
    "      --debug-http           Dump full requests and replies to the log",
    "  -h, --help                 Print help"]

/-- The options that take a value. -/
inductive Valued where
  | file
  | port
  | bind
  | allow
  | threads
  | queue
  | timeout
  deriving DecidableEq

/-- All options. -/
inductive Choice where
  | valued (option : Valued)
  | dumps
  | help
  deriving DecidableEq

/-- The option with a long name. -/
def Choice.ofName? : String → Option Choice
  | "config" => some (.valued .file)
  | "rpcport" => some (.valued .port)
  | "rpcbind" => some (.valued .bind)
  | "rpcallowip" => some (.valued .allow)
  | "rpcthreads" => some (.valued .threads)
  | "rpcworkqueue" => some (.valued .queue)
  | "rpcservertimeout" => some (.valued .timeout)
  | "debug-http" => some .dumps
  | "help" => some .help
  | _ => none

/-- The option with a short name. -/
def Choice.ofLetter? : Char → Option Choice
  | 'c' => some (.valued .file)
  | 'h' => some .help
  | _ => none

/-- Reads a port. Zero may have a minus sign. -/
def port? (value : String) : Option UInt16 :=
  match value.toList with
  | '-' :: digits => (Text.digitsOnly? digits).bind fun n => if n = 0 then some 0 else none
  | cs => (Text.unsigned? (Nat.pow 2 16) cs).map UInt16.ofNat

/-- Reads a count. -/
def size? (value : String) : Option UInt64 :=
  (Text.unsigned? (Nat.pow 2 64) value.toList).map UInt64.ofNat

/-- A single value in a place that must still be empty. -/
def only {α : Type} (place : Option α) (read : Option α) : Except UsageFault (Option α) :=
  match place, read with
  | some _, _ => .error .repeated
  | none, none => .error .valueInvalid
  | none, some a => .ok (some a)

/-- The command line with a value for an option. -/
def give (c : CommandLine) (option : Valued) (value : String) :
    Except UsageFault CommandLine :=
  match option with
  | .file =>
    if c.file.isNone ∧ value = "" then .error .valueMissing
    else do return { c with file := ← only c.file (some value) }
  | .port => do return { c with port := ← only c.port (port? value) }
  | .bind => .ok { c with bind := c.bind ++ [value] }
  | .allow => .ok { c with allow := c.allow ++ [value] }
  | .threads => do return { c with threads := ← only c.threads (size? value) }
  | .queue => do return { c with queue := ← only c.queue (size? value) }
  | .timeout => do return { c with timeout := ← only c.timeout (size? value) }

/-- An option that was read but not looked at, with its value if it has come. -/
abbrev Pending := Option (Valued × Option String)

/-- Looks at the option that was read last. -/
def settle (c : CommandLine) : Pending → Except UsageFault CommandLine
  | none => .ok c
  | some (_, none) => .error .valueMissing
  | some (option, some value) => c.give option value

/-- What a word is. -/
inductive Word where
  /-- Nothing after it is an option. -/
  | separator
  /-- An option by its name, with the value in the same word. -/
  | option (choice : Option Choice) (value : Option String)
  /-- A word that is no option. -/
  | plain

/-- What a word is. After a short name the equals sign may be left out. -/
def Word.ofText (word : String) : Word :=
  match word.toList with
  | ['-'] => .plain
  | ['-', '-'] => .separator
  | '-' :: '-' :: body =>
    match Text.splitFirst '=' body with
    | some (name, value) =>
      .option (Choice.ofName? (String.ofList name)) (some (String.ofList value))
    | none => .option (Choice.ofName? (String.ofList body)) none
  | ['-', letter] => .option (Choice.ofLetter? letter) none
  | '-' :: letter :: rest =>
    let value := match rest with
      | '=' :: value => value
      | value => value
    match Choice.ofLetter? letter with
    | some .help => .option (some .help) none
    | choice => .option choice (some (String.ofList value))
  | _ => .plain

/-- Takes in an option with the value in the same word, and tells what is pending
    after it. -/
def choose (c : CommandLine) (pending : Pending) :
    Option Choice → Option String → Except UsageFault (CommandLine × Pending)
  | none, _ => .error .unknown
  | some (.valued option), some value => do
    return (← (← c.settle pending).give option value, none)
  | some (.valued option), none => do return (← c.settle pending, some (option, none))
  | some _, some _ => .error .valueUnexpected
  | some .dumps, none => do
    let c ← c.settle pending
    if c.dumps then .error .repeated else return ({ c with dumps := true }, none)
  | some .help, none => do
    let _ ← c.settle pending
    .error .help

/-- Takes in words one after the other. -/
def read (c : CommandLine) (pending : Pending) : List String → Except UsageFault CommandLine
  | [] => c.settle pending
  | word :: rest =>
    match Word.ofText word with
    | .separator => if rest.isEmpty then c.settle pending else .error .unknown
    | .option choice value =>
      match c.choose pending choice value with
      | .error fault => .error fault
      | .ok (c, pending) => c.read pending rest
    | .plain =>
      match pending with
      | some (option, none) => c.read (some (option, some word)) rest
      | _ => .error .unknown

/-- Reads the words of a command line. -/
def ofWords (words : List String) : Except UsageFault CommandLine :=
  ({} : CommandLine).read none words

/-- A configuration with the overrides. -/
def onto (l : CommandLine) (c : Config) : Config where
  serving := {
    port := l.port.getD c.serving.port
    bind := if l.bind.isEmpty then c.serving.bind else l.bind
    allow := if l.allow.isEmpty then c.serving.allow else l.allow
    threads := l.threads.getD c.serving.threads
    queue := l.queue.getD c.serving.queue
    timeout := l.timeout.getD c.serving.timeout }
  limits := c.limits
  observability := { c.observability with dumps := l.dumps || c.observability.dumps }

/-- The configuration that the overrides start from: that of the file if one is
    named, which must make sense by itself. -/
def base (l : CommandLine) (files : Files) : Except ConfigFault Config :=
  match l.file with
  | none => .ok {}
  | some path => Config.ofFile files path

/-- The configuration that the program starts with. -/
def config (l : CommandLine) (files : Files) : Except ConfigFault Config :=
  match l.base files with
  | .error fault => .error fault
  | .ok c => (l.onto c).accept

end CommandLine

end ControlPlane
