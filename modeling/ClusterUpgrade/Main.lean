import ClusterUpgrade.Http.Message
import ClusterUpgrade.Program
import Std.Async
import Std.Time

/-!
The command line program. It gathers what a run needs from the system and carries the run out:
requests go over plain connections, and the log goes to the error output.
-/

namespace ClusterUpgrade.Launch

open Std.Async Std.Net

/-! ## The system -/

/-- The variables that the program looks at. -/
def variableNames : List String :=
  Level.sharedOptions.filterMap (·.environmentName?)
    ++ [Startup.filterVariable, "NO_COLOR", "CLICOLOR", "CLICOLOR_FORCE"]

def readEnvironment : IO Environment := do
  let found ← variableNames.filterMapM fun name => do
    return (← IO.getEnv name).map fun value => (name, value)
  return fun name => found.lookup name

/-- Why a file cannot be read. -/
def fileFault : IO.Error → String
  | .noFileOrDirectory .. => "No such file or directory (os error 2)"
  | .permissionDenied .. => "Permission denied (os error 13)"
  | .inappropriateType .. => "Is a directory (os error 21)"
  | error => error.toString

/-- Reads the settings file that the command line names, if there is one. -/
def readFiles (environment : Environment) (words : List String) : IO Files := do
  match Arguments.parse environment words with
  | .ok { config := some path, .. } =>
    let content ← try pure (Except.ok (← IO.FS.readBinFile path).toList)
      catch error => pure (Except.error (fileFault error))
    return fun _ => content
  | _ => return fun _ => .error ""

def readClock : IO Instant := do
  let sinceEpoch := (← Std.Time.Timestamp.now).toDurationSinceUnixEpoch
  let now := Std.Time.PlainDateTime.ofWallTime (.ofDuration sinceEpoch)
  return {
    date := { year := now.year.toInt, month := now.month.val.toNat, day := now.day.val.toNat }
    minuteOfDay := now.hour.val.toNat * 60 + now.minute.val.toNat
    second := now.second.val.toNat
    nanosecond := now.nanosecond.val.toNat }

/-! ## Requests -/

partial def receiveAll (socket : TCP.Socket.Client) (received : ByteArray) : Async ByteArray := do
  match ← socket.recv? 65536 with
  | some bytes => receiveAll socket (received ++ bytes)
  | none => return received

def socketAddress (port : UInt16) : IPAddr → SocketAddress
  | .v4 addr => .v4 { addr, port }
  | .v6 addr => .v6 { addr, port }

/-- Sends a request over a connection of its own; `none` if nothing comes back. -/
def exchange (request : Http.Request) : Async (Option Http.Response) := do
  if !request.url.isPlain then return none
  let (host, port) := request.url.endpoint
  try
    let addresses ← DNS.getAddrInfo host port
    match addresses[0]? with
    | none => return none
    | some address =>
      let socket ← TCP.Socket.Client.mk
      socket.connect (socketAddress (port.toNat?.getD 0).toUInt16 address)
      socket.send (ByteArray.mk request.message.toArray)
      let received ← receiveAll socket .empty
      return Http.Response.ofMessages? (received.size + 1) received.toList
  catch _ => return none

/-- Sends a request, waits no longer than allowed, and gives up when the user breaks the run off. -/
def attempt (timeout : Nat) (request : Http.Request) : IO (Option (Option Http.Response)) := do
  let interrupt ← Signal.Waiter.mk .sigint false
  let answered : Async (Option (Option Http.Response)) := do return some (← exchange request)
  let late : Async (Option (Option Http.Response)) := do
    Std.Async.sleep (Std.Time.Millisecond.Offset.ofNat (min timeout 1000000000 * 1000))
    return some none
  let broken : Async (Option (Option Http.Response)) := do
    let _ ← await (← interrupt.wait)
    return none
  Async.block (Async.race broken (Async.race answered late))

/-! ## Runs -/

/-- Carries out a run; events are shown as they happen. -/
def perform (logged : LoggedRun) : Run → IO Nat
  | .done code => return code
  | .report (.output text) rest => do
    IO.print text
    perform logged rest
  | .report (.log event) rest => do
    match logged.line? (← readClock).stampText event with
    | some line => IO.eprintln line
    | none => pure ()
    perform logged rest
  | .ask request next => do
    perform logged (next (← attempt logged.requestTimeout request))

def runProgram (words : List String) : IO Nat := do
  let environment ← readEnvironment
  let build : Build := { commit := "unknown", date := "unknown" }
  let surroundings : Surroundings := {
    environment
    files := ← readFiles environment words
    build
    now := ← readClock
    isTerminal := ← (← IO.getStdout).isTty }
  match Startup.ofWords surroundings words with
  | .refused error text =>
    if error.exitCode = 0 then IO.println text else IO.eprintln text
    return error.exitCode
  | .failed message =>
    IO.eprintln message
    return 1
  | .ready logged => perform logged logged.run

end ClusterUpgrade.Launch

def main (words : List String) : IO UInt32 := do
  return (← ClusterUpgrade.Launch.runProgram words).toUInt32
