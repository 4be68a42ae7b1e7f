import Switchboard.Error

/-!
# The command line

Arguments are read from the left. Options come before the command, and the first thing that makes no
sense ends the reading; so does a request for help or for the version. An option that is given once
may not be given twice, except for those that collect names.

The words on the screen are those of the program; `Arguments.read` says what the arguments ask for.
-/

namespace Switchboard

/-- What the program is asked to do. -/
inductive Command where
  | serve
  | tools
  | verify
  | status
  deriving Repr, DecidableEq

namespace Command

def all : List Command := [.serve, .tools, .verify, .status]

def name : Command → String
  | .serve => "serve"
  | .tools => "tools"
  | .verify => "verify"
  | .status => "status"

def about : Command → String
  | .serve => "Answer JSON tool requests on stdin (default)"
  | .tools => "Print the merged tool list as JSON"
  | .verify => "Check that every advertised tool has an executor"
  | .status => "Print per-service initialization status as JSON"

/-- The command of a name. -/
def named? (name : String) : Option Command := all.find? fun c => c.name == name

end Command

/-- Arguments that make sense. -/
structure Arguments where
  command : Option Command := none
  configPath : Option String := none
  logLevel : Option String := none
  jsonLogs : Bool := false
  disableServices : List String := []
  enableServices : List String := []
  disableTools : List String := []
  deriving Repr, DecidableEq

/-- What arguments ask for. -/
inductive Invocation where
  | run (arguments : Arguments)
  /-- Only words are asked for. -/
  | show (text : String)
  /-- The arguments make no sense. -/
  | refused
  deriving Repr, DecidableEq

namespace CommandLine

/-! ## Words -/

def versionText : String := "opsbridge 0.2.0\n"

/-- Lines as one text. -/
def page (lines : List String) : String := String.join (lines.map (· ++ "\n"))

def helpText : String := page [
  "Unified tool server for Kubernetes and observability backends",
  "",
  "Usage: opsbridge [OPTIONS] [COMMAND]",
  "",
  "Commands:",
  "  serve   Answer JSON tool requests on stdin (default)",
  "  tools   Print the merged tool list as JSON",
  "  verify  Check that every advertised tool has an executor",
  "  status  Print per-service initialization status as JSON",
  "  help    Print this message or the help of the given subcommand(s)",
  "",
  "Options:",
  "  -c, --config <PATH>           Configuration file (JSON or YAML)",
  "      --log-level <LOG_LEVEL>   Log level, overridden by RUST_LOG [default: info]",
  "      --json-logs               Emit logs as JSON lines",
  "      --disable-service <NAME>  Exclude a service (repeatable)",
  "      --enable-service <NAME>   Only run these services (repeatable, wins over --disable-service)",
  "      --disable-tool <NAME>     Hide a tool (repeatable)",
  "  -h, --help                    Print help",
  "  -V, --version                 Print version"]

/-- Help on one command. -/
def commandHelp (c : Command) : String := page [
  c.about,
  "",
  "Usage: opsbridge " ++ c.name,
  "",
  "Options:",
  "  -h, --help  Print help"]

/-- Help on the command that gives help. -/
def helpHelp : String := page [
  "Print this message or the help of the given subcommand(s)",
  "",
  "Usage: opsbridge help [COMMAND]...",
  "",
  "Arguments:",
  "  [COMMAND]...  Print help for the subcommand(s)"]

/-! ## Options -/

/-- Options that take a value. -/
inductive ValueOption where
  | config
  | logLevel
  | disableService
  | enableService
  | disableTool
  deriving Repr, DecidableEq

def ValueOption.named? : String → Option ValueOption
  | "config" => some .config
  | "log-level" => some .logLevel
  | "disable-service" => some .disableService
  | "enable-service" => some .enableService
  | "disable-tool" => some .disableTool
  | _ => none

/-- Sets an option; `none` if that makes no sense. -/
def ValueOption.set? (o : ValueOption) (value : String) (a : Arguments) : Option Arguments :=
  match o with
  | .config =>
    if a.configPath.isSome || value = "" then none else some { a with configPath := some value }
  | .logLevel => if a.logLevel.isSome then none else some { a with logLevel := some value }
  | .disableService => some { a with disableServices := a.disableServices ++ [value] }
  | .enableService => some { a with enableServices := a.enableServices ++ [value] }
  | .disableTool => some { a with disableTools := a.disableTools ++ [value] }

/-- Whether an argument can be the value of the option before it: it must not look like an option
itself. -/
def canBeValue (argument : String) : Bool :=
  match argument.toList with
  | '-' :: _ :: _ => false
  | _ => true

/-- Reads what follows a command. -/
def readAfterCommand (c : Command) (a : Arguments) : List String → Invocation
  | [] => .run { a with command := some c }
  | "--" :: rest => if rest.isEmpty then .run { a with command := some c } else .refused
  | first :: _ =>
    if first = "--help" || first.toList.take 2 = ['-', 'h'] then .show (commandHelp c)
    else .refused

/-- Reads what follows the request for help. -/
def readAfterHelp : List String → Invocation
  | [] => .show helpText
  | ["help"] => .show helpHelp
  | [name] =>
    match Command.named? name with
    | some c => .show (commandHelp c)
    | none => .refused
  | _ => .refused

/-- Splits an option at the equals sign. -/
def splitValue (cs : List Char) : String × Option String :=
  match cs.span (· ≠ '=') with
  | (name, _ :: value) => (String.ofList name, some (String.ofList value))
  | (name, []) => (String.ofList name, none)

/-- An argument by what it asks for. -/
inductive Form where
  /-- Ends the options. -/
  | separator
  | help
  | version
  | jsonLogs
  /-- An option with the value in the same argument, if it is there. -/
  | option (o : ValueOption) (value : Option String)
  | word (text : String)
  | unknown
  deriving Repr, DecidableEq

/-- An option by its long name. -/
def Form.ofLong (name : String) (value : Option String) : Form :=
  match name, value with
  | "help", none => .help
  | "version", none => .version
  | "json-logs", none => .jsonLogs
  | _, _ =>
    match ValueOption.named? name with
    | some o => .option o value
    | none => .unknown

/-- An option by its letter, and what follows the letter in the same argument. -/
def Form.ofShort (letter : Char) (rest : List Char) : Form :=
  match letter, rest with
  | 'h', _ => .help
  | 'V', _ => .version
  | 'c', [] => .option .config none
  | 'c', '=' :: value => .option .config (some (String.ofList value))
  | 'c', value => .option .config (some (String.ofList value))
  | _, _ => .unknown

/-- The form of an argument. -/
def Form.of (argument : String) : Form :=
  match argument.toList with
  | ['-', '-'] => .separator
  | '-' :: '-' :: cs =>
    let (name, value) := splitValue cs
    .ofLong name value
  | '-' :: letter :: rest => .ofShort letter rest
  | _ => .word argument

/-- Reads arguments from the left; an option may be waiting for its value. -/
def readFrom (a : Arguments) (waiting : Option ValueOption) : List String → Invocation
  | [] => if waiting.isNone then .run a else .refused
  | argument :: rest =>
    match waiting with
    | some o =>
      match if canBeValue argument then o.set? argument a else none with
      | some a => readFrom a none rest
      | none => .refused
    | none =>
      match Form.of argument with
      | .separator => if rest.isEmpty then .run a else .refused
      | .help => .show helpText
      | .version => .show versionText
      | .jsonLogs => if a.jsonLogs then .refused else readFrom { a with jsonLogs := true } none rest
      | .option o none => readFrom a (some o) rest
      | .option o (some value) =>
        match o.set? value a with
        | some a => readFrom a none rest
        | none => .refused
      | .word "help" => readAfterHelp rest
      | .word text =>
        match Command.named? text with
        | some c => readAfterCommand c a rest
        | none => .refused
      | .unknown => .refused

/-- Reads arguments. -/
def read (arguments : List String) : Invocation := readFrom {} none arguments

end CommandLine

end Switchboard
