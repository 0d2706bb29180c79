import RelayTunnel.Http.HeadBuffer
import RelayTunnel.Text.Blank

/-!
# Dismissals

A relay ends a session that it has accepted by sending an HTTP response where the first payload would
be. Payload is a request, so it never looks like one.
-/

set_option autoImplicit false

namespace RelayTunnel

/-- The relay has ended the session, with a status if one can be read. -/
structure Dismissal where
  status : Option Nat
  deriving DecidableEq

namespace Dismissal

def mark : Bytes := Ascii.bytes "HTTP/"

/-- Numbers from here on are no status. -/
def statusBound : Nat := UInt16.size

/-- The status in a head of which only a part is there: the number between the first two spaces, or
behind the first if there is no second. -/
def partialStatus? (payload : Bytes) : Option Nat :=
  (payload.splitOn Ascii.space)[1]?.bind fun code =>
    (Text.Utf8.decode? code).bind fun text => Text.unsigned? statusBound (Text.trim text)

/-- The dismissal that the first payload is, if it is one. -/
def ofPayload? (payload : Bytes) : Option Dismissal :=
  if mark.isPrefixOf payload then
    match Http.takeResponse payload with
    | .ok (some taken) => some ⟨some taken.head.status.code⟩
    | _ => some ⟨partialStatus? payload⟩
  else none

end Dismissal

end RelayTunnel
