import RelayTunnel.Compression.ContentCoding

/-!
# What compresses a body

A body is compressed in pieces. What a compressor makes of them is its own affair: it may give back
octets at once or keep them until there are enough, and it never fails.
-/

set_option autoImplicit false

namespace RelayTunnel.Compression

/-- States of type `C` compress one body each. -/
class BodyCompressor (C : Type) where
  /-- A compressor in front of a body. -/
  start : ContentCoding → C
  /-- Takes a piece of the body and gives back what has become available. -/
  write : C → Bytes → Bytes × C
  /-- Ends the stream and gives back the rest of it. -/
  finish : C → Bytes

end RelayTunnel.Compression
