import Std.Async.DNS
import Std.Async.TCP
import Std.Time.DateTime.Timestamp
import Switchboard.Http.Wire
import Switchboard.Manager.Shutdown
import Switchboard.Program

/-!
# The program at work

Reads the arguments, the environment and the files, answers the lines of the standard input one by
one, and asks backends over the network. What to answer is decided elsewhere.
-/

namespace Switchboard.Outside

/-! ## Environment and files -/

/-- The part of the environment that is looked at. -/
def readEnvironment : IO (String → Option String) := do
  let pairs ← Program.environmentNames.filterMapM fun name => do
    return (← IO.getEnv name).map (name, ·)
  return fun name => pairs.lookup name

/-- What is found at a path. -/
def readFile (path : String) : IO FileState := do
  try
    return .file (← IO.FS.readBinFile path)
  catch
    | .noFileOrDirectory .. => return .missing
    | .inappropriateType .. => return .directory
    | e => return .unreadable (toString e)

/-- The files that the arguments lead to. -/
def readFiles (arguments : List String) : IO Files := do
  let paths := match CommandLine.read arguments with
    | .run a => (a.configPath.map ([·])).getD Config.usualPaths
    | _ => []
  let found ← paths.mapM fun path => do return (path, ← readFile path)
  return fun path => (found.lookup path).getD .missing

/-! ## Network -/

/-- Most octets that are taken from a connection at once. -/
def portion : UInt64 := 65536

/-- Receives everything up to the end. -/
partial def receiveAll (socket : Std.Async.TCP.Socket.Client) (soFar : ByteArray) :
    Std.Async.Async ByteArray := do
  match ← socket.recv? portion with
  | some octets => receiveAll socket (soFar ++ octets)
  | none => return soFar

/-- Where a machine listens. -/
def socketAddress (machine : Std.Net.IPAddr) (port : UInt16) : Std.Net.SocketAddress :=
  match machine with
  | .v4 a => .v4 ⟨a, port⟩
  | .v6 a => .v6 ⟨a, port⟩

/-- Sends a request to a machine and receives what it sends back. -/
def exchange (machine : Std.Net.IPAddr) (port : UInt16) (r : Http.Request) :
    Std.Async.Async ByteArray := do
  let socket ← Std.Async.TCP.Socket.Client.mk
  socket.connect (socketAddress machine port)
  socket.send ⟨r.octets.toArray⟩
  receiveAll socket .empty

/-- Sends a request; only addresses without encryption can be asked, and no more charsets than those
of `Text.Charset.ofLabel` are at hand. -/
def fetch (r : Http.Request) : IO Http.Reply := do
  if r.url.scheme ≠ "http" then return .refused ("no way to ask over " ++ r.url.scheme)
  let some authority := r.url.authority | return .refused "the address names no machine"
  let port := r.url.effectivePort?.getD 80
  let name := String.ofList (authority.host.text.toList.filter fun c => c ≠ '[' && c ≠ ']')
  try
    let machines ← (Std.Async.DNS.getAddrInfo name (toString port)).block
    let some machine := machines[0]? | return .refused "the machine is unknown"
    let octets ← (exchange machine port r).block
    return (Http.Reply.read? (fun _ => none) octets.toList).getD (.refused "the reply makes no sense")
  catch e => return .refused (toString e)

/-- Seconds since the start of 1970. -/
def now : IO Nat := do
  return (← Std.Time.Timestamp.now).toSecondsSinceUnixEpoch.val.toNat

/-- Lets time pass. -/
def pause (seconds : Float) : IO Unit := IO.sleep (seconds * 1000).toUInt32

def world : World IO := ⟨fetch, now, pause⟩

/-! ## Requests -/

/-- Prints answers, each on a line. -/
def printAll (responses : List Response) : IO Unit := do
  let output ← IO.getStdout
  output.putStr (Session.written responses)
  output.flush

/-- Answers lines of the standard input up to its end. What is left of the octets read before is
the start of a line. -/
partial def serve (input : IO.FS.Stream) (started : ByteArray) (s : Session Service) :
    IO (Session.Ending × Session Service) := do
  let octets ← input.read portion.toUSize
  if octets.isEmpty then
    let (responses, ending, s) ← s.answerAll world (Session.lines started.toList)
    printAll responses
    return (ending, s)
  serveLines (started ++ octets) s
where
  serveLines (octets : ByteArray) (s : Session Service) : IO (Session.Ending × Session Service) := do
    match octets.toList.span (· ≠ 10) with
    | (_, []) => serve input octets s
    | (line, _ :: rest) =>
      let (responses, ending, s) ← s.answerAll world [line]
      printAll responses
      match ending with
      | .complete => serveLines ⟨rest.toArray⟩ s
      | .unreadable => return (ending, s)

/-- Tells what is wrong, if anything is. -/
def complain (text : String) : IO Unit := do
  unless text.isEmpty do IO.eprintln text

/-- Closes all services. -/
def close (m : Manager Service) : IO Unit :=
  match m.shutdown.1 with
  | .ok () => pure ()
  | .error e => complain e.message

end Switchboard.Outside

/-- Runs the program. -/
def main (arguments : List String) : IO UInt32 := do
  let files ← Switchboard.Outside.readFiles arguments
  match Switchboard.Program.start files (← Switchboard.Outside.readEnvironment) arguments with
  | .ended code output complaint =>
    (← IO.getStdout).putStr output
    Switchboard.Outside.complain complaint
    return code.toUInt32
  | .serving session =>
    let (ending, session) ← Switchboard.Outside.serve (← IO.getStdin) .empty session
    -- a line that is no text ends the program at once
    if ending = .complete then Switchboard.Outside.close session.manager
    return (Switchboard.Program.exitCode ending).toUInt32
