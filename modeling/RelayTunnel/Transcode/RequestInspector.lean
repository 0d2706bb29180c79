import RelayTunnel.Compression.ContentCoding
import RelayTunnel.Http.HeadBuffer

/-!
# What the client accepts

A `RequestInspector` watches the octets on their way to the destination and reads one decision out
of the first request head: which coding the response may be compressed with, if any. It never
changes or holds back an octet, and once it has decided nothing it sees later matters.
-/

set_option autoImplicit false

namespace RelayTunnel.Transcode

open Compression (ContentCoding)

/-- Watches a request stream. -/
inductive RequestInspector where
  /-- The head is not complete yet; these are the octets so far. -/
  | watching (seen : Bytes)
  | decided (coding : Option ContentCoding)
  deriving DecidableEq

/-- The coding a request asks for. A request that takes the connection over, or whose response has
no body, asks for none. -/
def acceptedCoding (head : Http.RequestHead) : Option ContentCoding :=
  if head.isUpgrade || head.method == Http.Method.head then none
  else (head.fields.text? Http.FieldName.acceptEncoding).bind ContentCoding.select?

namespace RequestInspector

/-- An inspector in front of a request stream. -/
def start : RequestInspector := .watching []

/-- Looks at the next octets of the stream. A head that cannot be read decides for no coding. -/
def inspect (inspector : RequestInspector) (chunk : Bytes) : RequestInspector :=
  match inspector with
  | .decided coding => .decided coding
  | .watching seen =>
      match Http.takeRequest (seen ++ chunk) with
      | .ok none => .watching (seen ++ chunk)
      | .ok (some taken) => .decided (acceptedCoding taken.head)
      | .error _ => .decided none

def isDecided : RequestInspector → Bool
  | .watching _ => false
  | .decided _ => true

/-- The coding decided for; none before the decision. -/
def coding? : RequestInspector → Option ContentCoding
  | .watching _ => none
  | .decided coding => coding

end RequestInspector

end RelayTunnel.Transcode
