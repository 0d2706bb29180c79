import RelayTunnel.Http.Error
import RelayTunnel.Time

/-!
# What ends a tunnel

Everything that can end a tunnel or a whole cluster, with its code and its wording. Three causes have
a code of their own, since callers act on them; all others share one.
-/

set_option autoImplicit false

namespace RelayTunnel

/-- The code of an error that callers may act on. -/
inductive ErrorCode where
  /-- The relay rejected the opening request. -/
  | forbidden
  /-- The relay closed a session that it had accepted. -/
  | serverDisconnect
  /-- Every attempt to reach the relay again failed. -/
  | serverUnreachable
  | other
  deriving DecidableEq

def ErrorCode.label : ErrorCode → String
  | .forbidden => "EFORBIDDEN"
  | .serverDisconnect => "ESERVERDISCONNECT"
  | .serverUnreachable => "ESERVERUNREACHABLE"
  | .other => "EOTHER"

/-- Everything that can end a tunnel or a cluster. -/
inductive TunnelError where
  | forbidden (status : Nat)
  | serverDisconnect (status : Option Nat)
  | serverUnreachable (attempts : Nat)
  /-- The relay closed the connection before its answer was complete. -/
  | openingClosed
  /-- The relay's answer to the opening request is malformed. -/
  | malformedAnswer (error : Http.MessageError)
  | invalidDestination (reason : String)
  | invalidServerName (host : String)
  | destinationTimeout (idle : Duration)
  | io (reason : String)
  deriving DecidableEq

namespace TunnelError

def message : TunnelError → String
  | .forbidden status => "unable to create tunnel: relay answered " ++ Text.decimalString status
  | .serverDisconnect none => "relay closed the session"
  | .serverDisconnect (some status) =>
      "relay closed the session with status " ++ Text.decimalString status
  | .serverUnreachable attempts =>
      "relay unreachable after " ++ Text.decimalString attempts ++ " reconnect attempts"
  | .openingClosed => "relay closed the connection during handshake"
  | .malformedAnswer error => "invalid relay handshake response: " ++ error.message
  | .invalidDestination reason => "relay did not provide a usable destination: " ++ reason
  | .invalidServerName host => "invalid tls server name: " ++ host
  | .destinationTimeout idle =>
      "destination idle for " ++ Text.decimalString idle.wholeMillis ++ "ms"
  | .io reason => "io error: " ++ reason

def code : TunnelError → ErrorCode
  | .forbidden _ => .forbidden
  | .serverDisconnect _ => .serverDisconnect
  | .serverUnreachable _ => .serverUnreachable
  | _ => .other

/-- The status that the relay gave, if the error carries one. -/
def status? : TunnelError → Option Nat
  | .forbidden status => some status
  | .serverDisconnect status => status
  | _ => none

end TunnelError

end RelayTunnel
