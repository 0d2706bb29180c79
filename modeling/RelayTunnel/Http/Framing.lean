import RelayTunnel.Http.Error
import RelayTunnel.Http.Head
import RelayTunnel.Text.Blank

/-!
# Where a response body ends

`ResponseHead.framing` reads the end of the body off the head: no body at all, chunked transfer
coding, a length, or the end of the connection. The transfer coding wins over the length, and of
repeated fields the first one counts.
-/

set_option autoImplicit false

namespace RelayTunnel.Http

/-- How the end of a body is marked. -/
inductive Framing where
  /-- The body has exactly this many octets. -/
  | length (octets : Nat)
  | chunked
  /-- The body lasts until the connection is closed. -/
  | untilClose
  /-- There is no body. -/
  | empty
  deriving DecidableEq

/-- Whether the body is known to hold no octet. -/
def Framing.isEmpty : Framing → Bool
  | .length 0 => true
  | .empty => true
  | _ => false

/-- The name of the chunked transfer coding. -/
def chunkedCoding : Bytes := Ascii.bytes "chunked"

/-- The elements of a comma-separated field value, blanks around them dropped. -/
def listElements (value : Bytes) : List Bytes :=
  (value.splitOn Ascii.comma).map (trimBoth Ascii.isWhitespace)

/-- Whether an element of a field value names the chunked coding. -/
def isChunkedCoding (element : Bytes) : Bool := Ascii.sameIgnoringCase element chunkedCoding

/-- The lengths that a length field can state. -/
def lengthBound : Nat := UInt64.size

/-- The length that a length field states. -/
def statedLength (value : Bytes) : Except MessageError Nat :=
  match Text.Utf8.decode? value with
  | none => .error (.badContentLength "value is not utf-8")
  | some cs =>
      match Text.unsigned? lengthBound (Text.trim cs) with
      | some n => .ok n
      | none => .error (.badContentLength ("value " ++ String.ofList cs ++ " is not u64"))

/-- How the end of the body of this response is marked. -/
def ResponseHead.framing (head : ResponseHead) : Except MessageError Framing :=
  if !head.hasBody then .ok .empty
  else match head.fields.get? FieldName.transferEncoding with
    | some value =>
        if ((listElements value).getLast?.map isChunkedCoding).getD false then .ok .chunked
        else .ok .untilClose
    | none =>
        match head.fields.get? FieldName.contentLength with
        | some value => (statedLength value).map .length
        | none => .ok .untilClose

end RelayTunnel.Http
