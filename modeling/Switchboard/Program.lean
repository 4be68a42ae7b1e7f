import Switchboard.Builtin
import Switchboard.CommandLine
import Switchboard.Config.File
import Switchboard.Config.Override
import Switchboard.LogFilter
import Switchboard.Manager.Start
import Switchboard.Session

/-!
# The program

What the program does with its arguments, its environment and its files: it prints something and
ends, or it has everything ready to answer requests. Nothing here asks a backend anything.
-/

namespace Switchboard

/-- What the program has come to once it is set up. -/
inductive Program where
  /-- It has ended with an exit code, an output, and a complaint where something is wrong. -/
  | ended (exitCode : Nat) (output : String) (complaint : String)
  /-- It is ready to answer requests. -/
  | serving (session : Session Service)

namespace Program

/-- What went right. -/
def success : Nat := 0

/-- The program could not do what it was asked to. -/
def failure : Nat := 1

/-- The program did not understand what it was asked to do. -/
def misuse : Nat := 2

/-- Adds the names on the command line to those of a configuration. -/
def extend (c : Config) (a : Arguments) : Config :=
  { c with
    disabledServices := c.disabledServices ++ a.disableServices
    enabledServices := c.enabledServices ++ a.enableServices
    disabledTools := c.disabledTools ++ a.disableTools }

/-- The configuration in force: that of the file, with what the environment overrides, and with the
names on the command line. -/
def loadConfig (files : Files) (environment : String → Option String) (a : Arguments) :
    Except Error Config :=
  let loaded := match a.configPath with
    | some path => Config.load files path
    | none => Config.loadUsual files
  loaded.map fun c => extend (c.override Builtin.serviceNames environment) a

/-- The name of the environment that tells what to log. -/
def logVariable : String := "RUST_LOG"

/-- What is logged where nobody says. -/
def usualLogLevel : String := "info"

/-- Names of the environment that are looked at. -/
def environmentNames : List String :=
  logVariable :: Config.overrideNames Builtin.serviceNames

/-- Whether it is clear what to log: the environment goes before the command line unless it makes no
sense. -/
def hasLogFilter (environment : String → Option String) (a : Arguments) : Bool :=
  LogFilter.isValid (a.logLevel.getD usualLogLevel) ||
    match environment logVariable with
    | some text => LogFilter.isValid text
    | none => false

/-- A listing over several lines. -/
def printed (items : List Json) : String := (Json.array items).toPrettyText ++ "\n"

/-- The status report as it is printed. -/
def statusText (m : Manager Service) : String := printed (m.report.map (·.toJson))

/-- Carries out a command with all services started. -/
def carryOut (command : Command) (session : Session Service) (summary : Summary) : Program :=
  match command with
  | .serve => .serving session
  | .tools => .ended success (printed (session.table.list.map (·.toJson))) ""
  | .status => .ended success (statusText session.manager) ""
  | .verify =>
    let (clean, defects) := session.manager.verify
    let lines := String.join (defects.map (· ++ "\n"))
    if clean then
      .ended success (lines ++ toString summary.registered ++ " tools registered cleanly\n") ""
    else .ended failure lines ""

/-- Carries out a command. -/
def run (command : Command) (c : Config) : Program :=
  match (Manager.ofCatalog Builtin.catalog).start c with
  | (.error e, m) =>
    .ended failure (if command = .status then statusText m else "") ("Startup aborted: " ++ e.message)
  | (.ok (), m) =>
    let (summary, table) := m.registerTools .empty
    carryOut command ⟨m, table, c.defaultPageSize.toNat⟩ summary

/-- Sets the program up. -/
def start (files : Files) (environment : String → Option String) (arguments : List String) :
    Program :=
  match CommandLine.read arguments with
  | .refused => .ended misuse "" "the arguments make no sense; --help tells which do"
  | .show text => .ended success text ""
  | .run a =>
    if hasLogFilter environment a then
      match loadConfig files environment a with
      | .error e => .ended failure "" e.message
      | .ok c => run (a.command.getD .serve) c
    else .ended failure "" ("invalid log level '" ++ a.logLevel.getD usualLogLevel ++ "'")

/-- The exit code after answering requests. -/
def exitCode : Session.Ending → Nat
  | .complete => success
  | .unreadable => failure

end Program

end Switchboard
