import RelayTunnel.CommandLine.Program
import RelayTunnel.CommandLine.Usage
import RelayTunnel.Switchboard
import Std.Async.DNS
import Std.Async.Signal
import Std.Async.TCP
import Std.Async.Timer
import Std.Sync.Channel

/-!
# The program

The program reads its arguments, its environment and its configuration file, and then connects a
`Switchboard` to the network: what happens at the sockets is put into one queue, the switchboard is
told of it, and what it says is done. All decisions are the switchboard's.
-/

set_option autoImplicit false

namespace RelayTunnel.Main

open Std.Async

/-- Something that the program reacts to. -/
inductive Happening where
  | atLine (line : Line) (event : LineEvent)
  /-- A connection has been made. -/
  | connected (line : Line) (socket : TCP.Socket.Client)
  /-- The user wants the program to end. -/
  | interrupted
  /-- The next moment that someone waits for has come. -/
  | timeUp
  deriving Inhabited

/-- What happens and has not been reacted to. -/
abbrev Queue := Std.Channel Happening

/-- The number of a fault; some are reported as negative words. -/
def faultNumber (code : UInt32) : Nat := if code < 0x80000000 then code.toNat else (-code).toNat

/-- The wording of a fault that the system reports. -/
def faultText (error : IO.Error) : String :=
  let numbered (code : UInt32) (details : String) :=
    details.capitalize ++ " (os error " ++ Text.decimalString (faultNumber code) ++ ")"
  match error with
  | .alreadyExists _ code details | .invalidArgument _ code details
  | .permissionDenied _ code details | .resourceExhausted _ code details
  | .inappropriateType _ code details | .noSuchThing _ code details
  | .otherError code details | .resourceBusy code details | .resourceVanished code details
  | .unsupportedOperation code details | .hardwareFault code details
  | .unsatisfiedConstraints code details | .illegalOperation code details
  | .protocolError code details | .timeExpired code details => numbered code details
  | .interrupted _ code details | .noFileOrDirectory _ code details => numbered code details
  | .unexpectedEof => "unexpected end of file"
  | .userError details => details

/-- Writes a line of the log, unless it matters too little. -/
def log (verbose : Bool) (line : Program.LogLine) : IO Unit :=
  match line.level with
  | .error => IO.println ("ERROR " ++ line.text)
  | .warn => IO.println (" WARN " ++ line.text)
  | .info => IO.println (" INFO " ++ line.text)
  | .debug => if verbose then IO.println ("DEBUG " ++ line.text) else pure ()

def post (queue : Queue) (happening : Happening) : Async Unit :=
  discard (queue.send happening : BaseIO _)

def addressOf (address : Std.Net.IPAddr) (port : UInt16) : Std.Net.SocketAddress :=
  match address with
  | .v4 address => .v4 ⟨address, port⟩
  | .v6 address => .v6 ⟨address, port⟩

/-- Connects to the first address of an endpoint that answers. -/
def connect (endpoint : Endpoint) : Async TCP.Socket.Client := do
  let mut fault := IO.userError "could not resolve to any address"
  for address in ← DNS.getAddrInfo endpoint.host (Text.decimalString endpoint.port) do
    try
      let socket ← TCP.Socket.Client.mk
      socket.connect (addressOf address endpoint.port.toUInt16)
      socket.noDelay
      return socket
    catch error => fault := error
  throw fault

/-- Does something that may fail, and posts what has come of it. -/
def attempt (queue : Queue) (line : Line) (fault : String → LineEvent) (act : Async Happening) :
    Async Unit := do
  let happening ← try act catch error => pure (.atLine line (fault (faultText error)))
  post queue happening

/-- What comes of every handshake: the connections of this network are not encrypted. -/
def handshake : Handshake := .failed "encrypted connections are not supported"

/-- Carries out what is to be done at a connection. -/
def perform (queue : Queue) (sockets : List (Line × TCP.Socket.Client)) (line : Line)
    (order : LineOrder) : Async (List (Line × TCP.Socket.Client)) := do
  match order, sockets.lookup line with
  | .dial endpoint, _ =>
      background (attempt queue line .refused do return .connected line (← connect endpoint))
  | .read, some socket =>
      background (attempt queue line .readFailed do
        match ← socket.recv? 16384 with
        | some octets => return .atLine line (.arrived octets.toList)
        | none => return .atLine line .ended)
  | .write octets, some socket =>
      background (attempt queue line .writeFailed do
        socket.send octets.toByteArray
        return .atLine line .sent)
  | .close, some socket =>
      background (do try socket.shutdown catch _ => pure ())
      (socket.recvSelector 1).unregisterFn
      return sockets.filter (·.1 != line)
  | _, none => pure ()
  return sockets

def present : Async Instant := return ⟨← IO.monoNanosNow⟩

/-- Waits for something to happen, but not beyond a given moment. -/
def await (queue : Queue) (moment : Option Instant) : Async Happening := do
  match moment with
  | none => Selectable.one #[.case queue.recvSelector pure]
  | some moment =>
      let now ← present
      let wait := Std.Time.Millisecond.Offset.ofNat ((moment.since now).nanos.div 1000000 + 1)
      Selectable.one
        #[.case queue.recvSelector pure,
          .case (← Selector.sleep wait) fun _ => return .timeUp]

/-- Lets a cluster work until it is gone or the user wants it to be, and gives the exit code. -/
def serve (config : Config) (relay : Endpoint) (verbose : Bool) : Async UInt32 := do
  let queue : Queue ← Std.Channel.new
  let signal ← Signal.Waiter.mk .sigint false
  let interruption ← signal.wait
  discard (interruption.mapIO fun _ => discard (queue.send .interrupted))
  let mut board : Switchboard Station Tunnel :=
    ⟨⟨.ofConfig config relay, Crew.empty.wake .owner⟩, []⟩
  let mut sockets : List (Line × TCP.Socket.Client) := []
  log verbose ⟨.info, "tunnel cluster started session=\"" ++ relay.session ++ "\""⟩
  repeat
    let (orders, next) := board.work (← present)
    board := next
    for (line, order) in orders do
      sockets ← perform queue sockets line order
    let events := board.company.owner.events
    board := { board with company := { board.company with
      owner := { board.company.owner with events := [] } } }
    for line in events.flatMap (Program.eventLines relay.session) do
      log verbose line
    if let some code := events.findSome? Program.eventExit? then return code
    let happening ← await queue board.company.crew.nextAlarm?
    let now ← present
    match happening with
    | .atLine line event => board := board.hear now line event
    | .connected line socket =>
        sockets := (line, socket) :: sockets
        board := board.hear now line (.made handshake)
    | .interrupted =>
        log verbose ⟨.info, "interrupted, closing tunnels"⟩
        board := { board with company :=
          ⟨board.company.owner.request none, board.company.crew.wake .owner⟩ }
    | .timeUp => board := board.modifyCrew (·.wakeDue now)
  return Program.success

def load (path : String) : IO (Except ConfigError Bytes) := do
  try return .ok (← IO.FS.readBinFile path).toList
  catch error => return .error (.unreadableFile (faultText error))

def run (texts : List String) : IO UInt32 := do
  let env : Arguments.Environment :=
    ⟨← IO.getEnv "RV_URL", ← IO.getEnv "RV_MAX_CONNECTIONS"⟩
  match Arguments.parse texts env with
  | .error exit =>
      match exit with
      | .help => IO.println Usage.help
      | .version => IO.println Usage.version
      | .misuse reason => IO.eprintln (Usage.complaint reason)
      return Program.exitCode exit
  | .ok arguments =>
      let file ← arguments.config.mapM load
      match Program.configure arguments file with
      | .error error =>
          log arguments.verbose (Program.configLine error)
          return Program.misuse
      | .ok (config, relay) => (serve config relay arguments.verbose).block

end RelayTunnel.Main

def main (texts : List String) : IO UInt32 := RelayTunnel.Main.run texts
