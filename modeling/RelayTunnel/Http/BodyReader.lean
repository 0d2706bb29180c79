import RelayTunnel.Http.ChunkReader
import RelayTunnel.Http.Framing

/-!
# Reading a body

`BodyReader` yields the payload of one message as items and ends with `eof`. Where the body lasts
until the connection is closed, only `readLast`, which is asked once the connection has closed,
can tell that it ended; where the framing says more, the end of the connection inside the body is
an error.
-/

set_option autoImplicit false

namespace RelayTunnel.Http

/-- Takes the framing off one body. -/
inductive BodyReader where
  /-- This many octets are left. -/
  | length (remaining : Nat)
  | chunked (reader : ChunkReader)
  | untilClose
  | empty
  deriving DecidableEq

namespace BodyReader

/-- A reader in front of a body with the given framing. -/
def ofFraming : Framing → BodyReader
  | .length octets => .length octets
  | .chunked => .chunked .start
  | .untilClose => .untilClose
  | .empty => .empty

/-- A reader for the body of a response. -/
def ofResponse (head : ResponseHead) : Except MessageError BodyReader := head.framing.map ofFraming

def isChunked : BodyReader → Bool
  | .chunked _ => true
  | _ => false

/-- Reads the next item off a buffer. -/
def read (r : BodyReader) (buffer : Bytes) : Reply BodyReader :=
  match r with
  | .empty => ⟨.ok (some .eof), r, buffer⟩
  | .length remaining =>
      if remaining = 0 then ⟨.ok (some .eof), r, buffer⟩
      else if buffer.isEmpty then ⟨.ok none, r, buffer⟩
      else
        let taken := buffer.take remaining
        ⟨.ok (some (.chunk taken)), .length (remaining - taken.length), buffer.drop remaining⟩
  | .chunked reader =>
      let reply := reader.read buffer
      ⟨reply.item, .chunked reply.reader, reply.buffer⟩
  | .untilClose =>
      if buffer.isEmpty then ⟨.ok none, r, buffer⟩
      else ⟨.ok (some (.chunk buffer)), r, []⟩

/-- The reason given when a connection is closed inside a body. -/
def truncated : MessageError := .malformedBody "connection closed before the body was complete"

/-- Reads the next item off a buffer after the connection has been closed. -/
def readLast (r : BodyReader) (buffer : Bytes) : Reply BodyReader :=
  let reply := r.read buffer
  match reply.item with
  | .ok none =>
      if reply.reader = .untilClose then ⟨.ok (some .eof), .empty, reply.buffer⟩
      else { reply with item := .error truncated }
  | _ => reply

end BodyReader

end RelayTunnel.Http
