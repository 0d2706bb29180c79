import RelayTunnel.Http.Payload

/-!
# Reading the chunked coding

A machine that takes chunked framing off a body as its octets arrive. `ChunkReader.octet` is the
transition on one octet of framing; `ChunkReader.skipFraming` runs it until payload, the end of the
body or the end of the buffer; `ChunkReader.read` yields one item. A chunk that is only partly in
the buffer is yielded in pieces. Extensions and trailer lines are read and dropped.

A fault consumes the octet that caused it and leaves the machine as it was before that octet.
-/

set_option autoImplicit false

namespace RelayTunnel.Http

/-- Where in the chunked framing the next octet stands. -/
inductive ChunkPlace where
  /-- Among the digits of a chunk size. -/
  | size
  /-- In the blanks behind the digits. -/
  | sizeBlank
  /-- In a chunk extension. -/
  | extension
  /-- At the LF that ends a size line. -/
  | sizeLf
  /-- In chunk data. -/
  | data
  /-- At the CR behind chunk data. -/
  | dataCr
  /-- At the LF behind chunk data. -/
  | dataLf
  /-- At the start of a line behind the last chunk. -/
  | trailerStart
  /-- In a trailer line. -/
  | trailer
  /-- At the LF that ends a trailer line. -/
  | trailerLf
  /-- At the LF that ends the body. -/
  | endLf
  /-- Behind the body. -/
  | done
  deriving DecidableEq

/-- The name of a place in an error message. -/
def ChunkPlace.label : ChunkPlace → String
  | .size => "Size"
  | .sizeBlank => "SizeLws"
  | .extension => "Extension"
  | .sizeLf => "SizeLf"
  | .data => "Data"
  | .dataCr => "DataCr"
  | .dataLf => "DataLf"
  | .trailerStart => "TrailerStart"
  | .trailer => "Trailer"
  | .trailerLf => "TrailerLf"
  | .endLf => "EndLf"
  | .done => "Done"

/-- What is wrong with chunked framing. -/
inductive ChunkFault where
  | sizeOverflow
  | bareLf
  | unexpected (octet : UInt8) (place : ChunkPlace)
  deriving DecidableEq

/-- The wording of a fault in chunked framing. -/
def ChunkFault.reason : ChunkFault → String
  | .sizeOverflow => "chunk size overflow"
  | .bareLf => "bare LF in chunk extension"
  | .unexpected octet place =>
      "unexpected byte 0x" ++ Text.hexPair octet ++ " in chunked body at " ++ place.label

/-- A chunk size stays below this bound. -/
def chunkSizeBound : Nat := UInt64.size

/-- Takes the framing off a chunked body. -/
structure ChunkReader where
  place : ChunkPlace
  /-- The size read so far, or the payload that is left of the current chunk. -/
  remaining : Nat
  deriving DecidableEq

namespace ChunkReader

open Ascii (cr lf)

/-- A reader in front of a body. -/
def start : ChunkReader := ⟨.size, 0⟩

/-- Whether the end of the body has been read. -/
def isFinished (r : ChunkReader) : Bool := r.place == .done

def moveTo (r : ChunkReader) (place : ChunkPlace) : ChunkReader := { r with place := place }

/-- The transition on one octet of framing. -/
def octet (r : ChunkReader) (b : UInt8) : Except ChunkFault ChunkReader :=
  match r.place with
  | .size =>
      match Ascii.hexValue? b with
      | some digit =>
          let size := r.remaining * 16 + digit
          if size < chunkSizeBound then .ok ⟨.size, size⟩ else .error .sizeOverflow
      | none =>
          if Ascii.isBlank b then .ok (r.moveTo .sizeBlank)
          else if b == 0x3B then .ok (r.moveTo .extension)
          else if b == cr then .ok (r.moveTo .sizeLf)
          else .error (.unexpected b r.place)
  | .sizeBlank =>
      if Ascii.isBlank b then .ok r
      else if b == 0x3B then .ok (r.moveTo .extension)
      else if b == cr then .ok (r.moveTo .sizeLf)
      else .error (.unexpected b r.place)
  | .extension =>
      if b == cr then .ok (r.moveTo .sizeLf)
      else if b == lf then .error .bareLf
      else .ok r
  | .sizeLf =>
      if b == lf then .ok (r.moveTo (if r.remaining = 0 then .trailerStart else .data))
      else .error (.unexpected b r.place)
  | .dataCr => if b == cr then .ok (r.moveTo .dataLf) else .error (.unexpected b r.place)
  | .dataLf => if b == lf then .ok (r.moveTo .size) else .error (.unexpected b r.place)
  | .trailerStart => if b == cr then .ok (r.moveTo .endLf) else .ok (r.moveTo .trailer)
  | .trailer => if b == cr then .ok (r.moveTo .trailerLf) else .ok r
  | .trailerLf => if b == lf then .ok (r.moveTo .trailerStart) else .error (.unexpected b r.place)
  | .endLf => if b == lf then .ok (r.moveTo .done) else .error (.unexpected b r.place)
  | .data | .done => .error (.unexpected b r.place)

/-- How reading framing off a buffer went. -/
structure Skipped where
  reader : ChunkReader
  rest : Bytes
  fault : Option ChunkFault

/-- Reads framing until there is payload, the body ends, the buffer is empty or a fault occurs. -/
def skipFraming (r : ChunkReader) : Bytes → Skipped
  | [] => ⟨r, [], none⟩
  | b :: rest =>
      if r.place = .data ∨ r.place = .done then ⟨r, b :: rest, none⟩
      else match r.octet b with
        | .ok r' => skipFraming r' rest
        | .error fault => ⟨r, rest, some fault⟩

/-- Reads the next item off a buffer. -/
def read (r : ChunkReader) (buffer : Bytes) : Reply ChunkReader :=
  let skipped := r.skipFraming buffer
  let r := skipped.reader
  match skipped.fault with
  | some fault => ⟨.error (.malformedBody fault.reason), r, skipped.rest⟩
  | none =>
      if r.place = .done then ⟨.ok (some .eof), r, skipped.rest⟩
      else if r.place = .data ∧ skipped.rest ≠ [] then
        let taken := skipped.rest.take r.remaining
        let remaining := r.remaining - taken.length
        ⟨.ok (some (.chunk taken)), ⟨if remaining = 0 then .dataCr else .data, remaining⟩,
          skipped.rest.drop r.remaining⟩
      else ⟨.ok none, r, skipped.rest⟩

/-- Reads the next item off a buffer that no more octets will be added to. -/
def readLast (r : ChunkReader) (buffer : Bytes) : Reply ChunkReader :=
  let reply := r.read buffer
  match reply.item with
  | .ok none =>
      if reply.buffer.isEmpty then reply
      else { reply with item := .error (.io "bytes remaining on stream") }
  | _ => reply

end ChunkReader

end RelayTunnel.Http
