import RelayTunnel.Compression.BodyCompressor
import RelayTunnel.Compression.Checksum
import RelayTunnel.Compression.Deflate

/-!
# Compressing a stream

A `Compressor` takes a body in pieces and gives back compressed octets as they become available,
possibly none: text is collected until a block is full. `finish` ends the stream. `decompress?` reads
a finished stream back and checks its checksum.
-/

set_option autoImplicit false

namespace RelayTunnel.Compression

/-- How many octets of text make up a block. -/
def blockSize : Nat := 16384

/-- Compresses one body. -/
structure Compressor where
  coding : ContentCoding
  /-- Whether the header has been written. -/
  opened : Bool
  /-- Text that does not fill a block yet. -/
  held : Array UInt8
  /-- Bits that do not fill an octet yet. -/
  bits : Bits
  crc : UInt32
  adler : Adler32
  /-- The length of the text so far. -/
  size : Nat

namespace Compressor

/-- A compressor in front of a body. -/
def start (coding : ContentCoding) : Compressor :=
  ⟨coding, false, #[], [], Crc32.start, .start, 0⟩

/-- What a stream starts with. For gzip: method DEFLATE, no flags, no time, unknown system. -/
def header : ContentCoding → Bytes
  | .gzip => [0x1F, 0x8B, 8, 0, 0, 0, 0, 0, 0, 0xFF]
  | .deflate => [0x78, 0x9C]

/-- What a stream ends with: the checksum, and for gzip the length of the text. -/
def trailer (c : Compressor) : Bytes :=
  match c.coding with
  | .gzip => littleEndian 4 (Crc32.value c.crc) ++ littleEndian 4 c.size
  | .deflate => bigEndian 4 c.adler.value

/-- Collects one octet of text; a full block is written. The octets written so far are kept as a
list of pieces, last one first. -/
def octet (state : Compressor × List Bytes) (b : UInt8) : Compressor × List Bytes :=
  let (c, out) := state
  let c := { c with
    held := c.held.push b, crc := Crc32.step c.crc b, adler := c.adler.step b, size := c.size + 1 }
  if c.held.size < blockSize then (c, out)
  else
    let (octets, left) := Bits.pack (c.bits ++ blockBits false c.held)
    ({ c with held := #[], bits := left }, octets :: out)

/-- Takes a piece of the body and gives back what has become available. -/
def write (c : Compressor) (data : Bytes) : Bytes × Compressor :=
  let opening := if c.opened then [] else header c.coding
  let (c, out) := data.foldl octet ({ c with opened := true }, [opening])
  (out.reverse.flatten, c)

/-- Ends the stream and gives back the rest of it. -/
def finish (c : Compressor) : Bytes :=
  (if c.opened then [] else header c.coding)
    ++ Bits.packAll (c.bits ++ blockBits true c.held) ++ c.trailer

instance : BodyCompressor Compressor := ⟨start, write, finish⟩

end Compressor

/-- The text of a finished stream, if the stream is sound. -/
def decompress? (coding : ContentCoding) (stream : Bytes) : Option Bytes := do
  let header := Compressor.header coding
  if stream.take header.length != header then none
  else
    let (text, rest) ← inflate? (stream.drop header.length)
    let trailer := match coding with
      | .gzip =>
          littleEndian 4 (Crc32.value (text.foldl Crc32.step Crc32.start))
            ++ littleEndian 4 text.length
      | .deflate => bigEndian 4 (text.foldl Adler32.step .start).value
    if rest == trailer then some text else none

end RelayTunnel.Compression
