import RelayTunnel.Http.Head
import RelayTunnel.Http.HeadSyntax

/-!
# Heads out of a buffer

`takeRequest` and `takeResponse` take one head off the front of a buffer. The answer is a head
with the octets behind it, "not yet", or an error; in the last two cases nothing has been taken.
A head has at most 64 fields and 8192 octets, and a buffer that is still incomplete beyond that
size is refused. `decode` does the same on a buffer that keeps what a step has done to it, with one
check after another.
-/

set_option autoImplicit false

namespace RelayTunnel.Http

/-- The most fields a head may have. -/
def maxFields : Nat := 64

/-- The most octets a head may have. -/
def maxHeadSize : Nat := 8192

/-- A head and what is left of the buffer behind it. -/
structure Taken (α : Type) where
  head : α
  rest : Bytes

/-- Takes a head off a buffer with the given scanner and turns its parts into a head. -/
def takeHead {parts α : Type} (scan : HeadScan parts) (build : parts → Except MessageError α)
    (buffer : Bytes) : Except MessageError (Option (Taken α)) :=
  if buffer.isEmpty then .ok none
  else match scan buffer with
    | .refused .tooManyFields => .error (.tooManyFields maxFields)
    | .refused (.syntaxFault fault) => .error (.malformedHead fault.reason)
    | .more =>
        if buffer.length ≤ maxHeadSize then .ok none
        else .error (.headTooLarge buffer.length maxHeadSize)
    | .found found rest =>
        let size := buffer.length - rest.length
        if size ≤ maxHeadSize then (build found).map fun head => some ⟨head, rest⟩
        else .error (.headTooLarge size maxHeadSize)

/-- The request head that scanned parts make up. -/
def RequestHead.ofParts (parts : HeadSyntax.RequestParts) : Except MessageError RequestHead :=
  match Target.parse parts.target with
  | .error _ => .error .badTarget
  | .ok target => .ok ⟨parts.method, target, .ofMinor parts.minor, parts.fields⟩

/-- The response head that scanned parts make up. -/
def ResponseHead.ofParts (parts : HeadSyntax.ResponseParts) : Except MessageError ResponseHead :=
  match Status.ofNat? parts.code with
  | none => .error (.badStatus (some parts.code))
  | some status => .ok ⟨.ofMinor parts.minor, status, parts.reason, parts.fields⟩

/-- Takes a request head off a buffer. -/
def takeRequest : Bytes → Except MessageError (Option (Taken RequestHead)) :=
  takeHead (HeadSyntax.requestHead maxFields) RequestHead.ofParts

/-- Takes a response head off a buffer. -/
def takeResponse : Bytes → Except MessageError (Option (Taken ResponseHead)) :=
  takeHead (HeadSyntax.responseHead maxFields) ResponseHead.ofParts

/-- A step on a buffer that may fail. What it takes off the buffer before it fails stays taken. -/
abbrev OnBuffer (α : Type) : Type := ExceptT MessageError (StateM Bytes) α

/-- Fails unless a check holds. -/
def ensure (check : Prop) [Decidable check] (error : MessageError) : OnBuffer Unit :=
  if check then pure () else throw error

/-- Takes a head off the buffer, one check after another. -/
def decode {parts α : Type} (scan : HeadScan parts) (build : parts → Except MessageError α) :
    OnBuffer (Option α) := do
  let buffer ← get
  if buffer.isEmpty then
    return none
  match scan buffer with
  | .refused .tooManyFields => throw (.tooManyFields maxFields)
  | .refused (.syntaxFault fault) => throw (.malformedHead fault.reason)
  | .more =>
      ensure (buffer.length ≤ maxHeadSize) (.headTooLarge buffer.length maxHeadSize)
      return none
  | .found found rest =>
      let size := buffer.length - rest.length
      ensure (size ≤ maxHeadSize) (.headTooLarge size maxHeadSize)
      let head ← liftExcept (build found)
      modify (List.drop size)
      return some head

/-- Takes a request head off the buffer. -/
def decodeRequest : OnBuffer (Option RequestHead) :=
  decode (HeadSyntax.requestHead maxFields) RequestHead.ofParts

/-- Takes a response head off the buffer. -/
def decodeResponse : OnBuffer (Option ResponseHead) :=
  decode (HeadSyntax.responseHead maxFields) ResponseHead.ofParts

/-- Writes a response head: status line, fields in order, blank line. Only the versions 1.0 and 1.1
have this form. -/
def ResponseHead.render? (head : ResponseHead) : Option Bytes :=
  match head.version with
  | .http10 | .http11 =>
      some (Ascii.bytes head.version.label ++ [Ascii.space] ++ Text.decimalBytes head.status.code
        ++ [Ascii.space] ++ head.reason ++ Ascii.crlf
        ++ head.fields.toList.flatMap Field.line ++ Ascii.crlf)
  | _ => none

end RelayTunnel.Http
