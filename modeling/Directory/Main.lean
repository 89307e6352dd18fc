import Directory.CommandLine.Playback
import Std.Async.DNS
import Std.Async.TCP
import Std.Async.Timer
/-! The program: it carries octets between the command line and a server, and decides nothing. -/
namespace Directory.Main

open Std.Async

abbrev Socket := TCP.Socket.Client

def socketAddress (port : UInt16) : Std.Net.IPAddr → Std.Net.SocketAddress
  | .v4 address => .v4 ⟨address, port⟩
  | .v6 address => .v6 ⟨address, port⟩

def systemText (error : IO.Error) : String :=
  let describe (code : UInt32) (details : String) : String :=
    let number := if 2147483648 ≤ code then 4294967296 - code.toNat else code.toNat
    s!"{details.capitalize} (os error {number})"
  match error with
  | .otherError code details | .resourceVanished code details | .timeExpired code details
  | .unsupportedOperation code details | .protocolError code details
  | .noSuchThing _ code details | .permissionDenied _ code details
  | .invalidArgument _ code details | .resourceExhausted _ code details => describe code details
  | .userError text => text
  | other => other.toString

def resolve (host : String) : IO (Array Std.Net.IPAddr) := do
  let bare := String.ofList (host.toList.filter fun c => c != '[' && c != ']')
  match Std.Net.IPv4Addr.ofString bare, Std.Net.IPv6Addr.ofString bare with
  | some address, _ => return #[.v4 address]
  | none, some address => return #[.v6 address]
  | none, none => (DNS.getAddrInfo host "").block

def within (milliseconds : Nat) (action : Async (Option α)) : IO (Option α) :=
  (Async.race action do
    sleep (.ofNat milliseconds)
    return none).block

def connectTo (address : Std.Net.SocketAddress) (config : Config) : IO Socket := do
  let socket ← TCP.Socket.Client.mk
  let connecting : Async (Option Unit) := some <$> socket.connect address
  match ← within config.connectTimeout connecting with
  | some () =>
    if config.noDelay then socket.noDelay
    return socket
  | none => throw (IO.userError "connection timed out")

def connectAny (config : Config) (failure : Unreachable) :
    List Std.Net.SocketAddress → IO (Except Unreachable Socket)
  | [] => return .error failure
  | address :: others => do
    match ← (connectTo address config).toBaseIO with
    | .ok socket => return .ok socket
    | .error error => connectAny config (.refused (systemText error)) others

def connect (endpoint : Endpoint) (config : Config) : IO (Except Unreachable Socket) := do
  match ← (resolve endpoint.host).toBaseIO with
  | .ok found =>
    let addresses := found.map (socketAddress (UInt16.ofNat endpoint.port))
    connectAny config .noAddress addresses.toList
  | .error error =>
    return .error (.unresolved s!"failed to lookup address information: {systemText error}")

def write (socket : Socket) (frame : Octets) : IO Reaction := do
  match ← (socket.send ⟨frame.toArray⟩).block.toBaseIO with
  | .ok () => return .actions []
  | .error error => return .writeFailure (systemText error)

def listen (socket : Socket) (deadline : Nat) : IO (Option Action) := do
  let now ← IO.monoMsNow
  let hearing : Async (Option (Option ByteArray)) := some <$> socket.recv? 65536
  match ← (within (deadline - now) hearing).toBaseIO with
  | .ok none => return none
  | .ok (some none) => return some .close
  | .ok (some (some content)) => return some (.octets content.data.toList)
  | .error error => return some (.fail ⟨.other, (systemText error)⟩)

/-- Talk to the server until the command has ended. -/
partial def converse (invocation : CommandLine.Invocation) (peer : String) (socket : Socket)
    (reactions : List Reaction) (deadline : Nat) : IO CommandLine.Report := do
  match CommandLine.Playback.move invocation peer reactions with
  | .write frame =>
    let reaction ← write socket frame
    let deadline := (← IO.monoMsNow) + invocation.timeout
    converse invocation peer socket (reactions ++ [reaction]) deadline
  | .listen farewell report =>
    match ← listen socket deadline with
    | some action =>
      converse invocation peer socket (CommandLine.Playback.hear reactions action) deadline
    | none =>
      for frame in farewell do
        discard (write socket frame)
      return report
  | .finish report => return report

def report (invocation : CommandLine.Invocation) : IO CommandLine.Report := do
  match Endpoint.parse invocation.server with
  | .error fault => return (invocation.run fun _ => .error (.unresolved fault.text)).1
  | .ok endpoint =>
    match ← connect endpoint {} with
    | .error reason => return (invocation.run fun _ => .error reason).1
    | .ok socket =>
      let peer := s!"{endpoint.host}:{endpoint.port}"
      converse invocation peer socket [] 0

end Directory.Main

def main (arguments : List String) : IO UInt32 := do
  let output ← match Directory.CommandLine.Invocation.parse arguments with
    | .error refusal => pure (Directory.CommandLine.Output.ofRefusal refusal)
    | .ok invocation => do
      pure (.ofReport (← Directory.Main.report invocation))
  IO.print output.stdout
  IO.eprint output.stderr
  return output.status.toUInt32
