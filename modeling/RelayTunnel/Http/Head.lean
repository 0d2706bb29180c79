import RelayTunnel.Http.HeadSyntax
import RelayTunnel.Http.Target

/-!
# Message heads

Request and response heads as values, and the two questions a tunnel asks of them: does a request
take the connection over, and does a response have a body at all.
-/

set_option autoImplicit false

namespace RelayTunnel.Http

/-- A protocol version. -/
inductive Version where
  | http09
  | http10
  | http11
  | http2
  | http3
  deriving DecidableEq

namespace Version

/-- The name of a version as it appears on a start line. -/
def label : Version → String
  | .http09 => "HTTP/0.9"
  | .http10 => "HTTP/1.0"
  | .http11 => "HTTP/1.1"
  | .http2 => "HTTP/2.0"
  | .http3 => "HTTP/3.0"

/-- The version with the given minor number under major number 1. -/
def ofMinor : Nat → Version
  | 0 => .http10
  | _ => .http11

end Version

namespace Method

/-- The method that asks for a tunnel. Method names are case-sensitive. -/
def connect : Bytes := Ascii.bytes "CONNECT"

/-- The method whose response never has a body. -/
def head : Bytes := Ascii.bytes "HEAD"

/-- Whether an octet string is a method name: a nonempty token. -/
def isName (octets : Bytes) : Bool := !octets.isEmpty && octets.all HeadSyntax.isTokenChar

end Method

/-- A status code: three digits, the first not zero. -/
structure Status where
  code : Nat
  three_digits : 100 ≤ code ∧ code ≤ 999
  deriving DecidableEq

/-- The status with a given code, if the code is in range. -/
def Status.ofNat? (code : Nat) : Option Status :=
  if h : 100 ≤ code ∧ code ≤ 999 then some ⟨code, h⟩ else none

/-- The head of a request. -/
structure RequestHead where
  method : Bytes
  target : Target
  version : Version
  fields : Fields
  deriving DecidableEq

/-- Whether the request turns the connection into something other than a plain exchange. -/
def RequestHead.isUpgrade (head : RequestHead) : Bool :=
  head.method == Method.connect || head.fields.contains FieldName.upgrade

/-- The head of a response. -/
structure ResponseHead where
  version : Version
  status : Status
  reason : Bytes
  fields : Fields
  deriving DecidableEq

/-- Whether a response with this status may carry a body: informational responses, 204 and 304
never do. -/
def ResponseHead.hasBody (head : ResponseHead) : Bool :=
  !(head.status.code < 200 || head.status.code == 204 || head.status.code == 304)

end RelayTunnel.Http
