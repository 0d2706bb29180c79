import RelayTunnel.Http.Payload
import RelayTunnel.Text.Numeral

/-!
# Writing the chunked coding

Each piece of payload becomes one chunk with its size in lowercase hexadecimal. Empty pieces are
left out, since a chunk of size zero would end the body. The end is written once, and whatever is
written after it is dropped.
-/

set_option autoImplicit false

namespace RelayTunnel.Http

def chunkFrame (data : Bytes) : Bytes :=
  Text.hexBytes data.length ++ Ascii.crlf ++ data ++ Ascii.crlf

/-- The last chunk and the empty trailer: the end of a chunked body. -/
def lastChunk : Bytes := Ascii.bytes "0" ++ Ascii.crlf ++ Ascii.crlf

/-- Puts chunked framing around a body. -/
structure ChunkWriter where
  finished : Bool
  deriving DecidableEq

namespace ChunkWriter

/-- A writer in front of a body. -/
def start : ChunkWriter := ⟨false⟩

/-- The octets one item becomes, and the writer behind it. -/
def write (w : ChunkWriter) (item : PayloadItem) : Bytes × ChunkWriter :=
  if w.finished then ([], w)
  else match item with
    | .chunk data => (if data.isEmpty then [] else chunkFrame data, w)
    | .eof => (lastChunk, ⟨true⟩)

/-- How many octets there are in several parts. -/
def totalLength : List Bytes → Nat
  | [] => 0
  | part :: parts => part.length + totalLength parts

/-- The octets of one piece of payload that lies in memory in several parts. It becomes one chunk: the
size of all parts is written first, and then one part after another. -/
def writeParts (w : ChunkWriter) (parts : List Bytes) : Bytes × ChunkWriter :=
  let size := totalLength parts
  if w.finished || size == 0 then ([], w)
  else (Text.hexBytes size ++ Ascii.crlf ++ parts.flatten ++ Ascii.crlf, w)

/-- The length of some parts is that of what they make together. -/
theorem totalLength_eq_length_flatten (parts : List Bytes) :
    totalLength parts = parts.flatten.length := by
  induction parts with
  | nil => rfl
  | cons part parts ih => simp [totalLength, ih]

/-- Parts are written like the piece of payload that they make up. -/
theorem writeParts_eq_write (w : ChunkWriter) (parts : List Bytes) :
    w.writeParts parts = w.write (.chunk parts.flatten) := by
  cases w with
  | mk finished =>
    cases finished with
    | true => rfl
    | false =>
      simp only [writeParts, write, chunkFrame, Bool.false_or, beq_iff_eq, Bool.false_eq_true,
        if_false, totalLength_eq_length_flatten, List.length_eq_zero_iff, List.isEmpty_iff]
      split <;> rfl

end ChunkWriter

end RelayTunnel.Http
