import RelayTunnel.Text.Blank
import RelayTunnel.Text.Numeral
import RelayTunnel.Url.Parse

/-!
# Endpoints

An endpoint is where a connection goes: the relay, or a destination that the relay names. It is read
from a url with the scheme `http`, `https`, `ws` or `wss`; the path of the relay's url is the session
that its tunnels serve.
-/

set_option autoImplicit false

namespace RelayTunnel

/-- Why a text names no endpoint. The text is kept as it was given. -/
inductive EndpointError where
  | invalidUrl (text : String) (fault : Url.UrlFault)
  | unsupportedScheme (scheme : String)
  | missingHost (text : String)
  deriving DecidableEq

def EndpointError.message : EndpointError → String
  | .invalidUrl text fault => "invalid relay url " ++ text ++ ": " ++ fault.message
  | .unsupportedScheme scheme => "unsupported url scheme: " ++ scheme
  | .missingHost text => "url " ++ text ++ " has no host"

/-- Where a connection goes. -/
structure Endpoint where
  /-- A domain or an address; version 6 addresses in brackets. -/
  authority : String
  port : Nat
  /-- Whether the url spells out a port that is not the default of its scheme. -/
  hasExplicitPort : Bool
  isTls : Bool
  /-- The path and, behind a question mark, the query. -/
  path : String
  deriving DecidableEq

namespace Endpoint

/-- Whether a scheme stands for an encrypted connection, and its default port. -/
def transportOf? (scheme : String) : Option (Bool × Nat) :=
  if scheme = "http" ∨ scheme = "ws" then some (false, 80)
  else if scheme = "https" ∨ scheme = "wss" then some (true, 443)
  else none

/-- The endpoint that a url leads to. -/
def ofUrl (text : String) (url : Url) : Except EndpointError Endpoint :=
  match transportOf? url.scheme with
  | none => .error (.unsupportedScheme url.scheme)
  | some (isTls, defaultPort) =>
      if url.host.isEmpty then .error (.missingHost text)
      else
        let path := match url.query with
          | some query => url.path ++ "?" ++ query
          | none => url.path
        .ok ⟨url.host, url.port.getD defaultPort, url.port.isSome, isTls, path⟩

/-- Reads the url of an endpoint; white space around it does not count. -/
def parse (text : String) : Except EndpointError Endpoint :=
  match Url.parse (Text.trimString text) with
  | .error fault => .error (.invalidUrl text fault)
  | .ok url => ofUrl text url

/-- The name or address to connect to, without brackets. -/
def host (e : Endpoint) : String :=
  let opened := e.authority.toList.dropWhile (· == '[')
  String.ofList ((opened.reverse.dropWhile (· == ']')).reverse)

/-- The session that a relay's url names: its path without the query and without leading slashes. -/
def session (e : Endpoint) : String :=
  String.ofList ((e.path.toList.takeWhile (· != '?')).dropWhile (· == '/'))

/-- The value of the `Host` field. It has a port only if the url spells one out. -/
def hostField (e : Endpoint) : String :=
  if e.hasExplicitPort then e.authority ++ ":" ++ Text.decimalString e.port else e.authority

end Endpoint

end RelayTunnel
