import RelayTunnel.Ascii

/-!
# Checksums

The two checksums that compressed streams end with: CRC-32 for gzip and Adler-32 for zlib. Both are
folds over the octets, so they can be carried along while a text is written.
-/

set_option autoImplicit false

namespace RelayTunnel.Compression

namespace Crc32

def polynomial : UInt32 := 0xEDB88320

/-- Divides `n` bits out of a remainder. -/
def divide : Nat → UInt32 → UInt32
  | 0, r => r
  | n + 1, r => divide n (if r &&& 1 == 1 then (r >>> 1) ^^^ polynomial else r >>> 1)

def start : UInt32 := 0xFFFFFFFF

def step (r : UInt32) (b : UInt8) : UInt32 := divide 8 (r ^^^ b.toUInt32)

def value (r : UInt32) : Nat := (r ^^^ 0xFFFFFFFF).toNat

end Crc32

/-- The state of an Adler-32 checksum: the sum of the octets and the sum of those sums. -/
structure Adler32 where
  sum : Nat
  sums : Nat
  deriving DecidableEq

namespace Adler32

def modulus : Nat := 65521

def start : Adler32 := ⟨1, 0⟩

def step (s : Adler32) (b : UInt8) : Adler32 :=
  let sum := (s.sum + b.toNat) % modulus
  ⟨sum, (s.sums + sum) % modulus⟩

def value (s : Adler32) : Nat := s.sums * 65536 + s.sum

end Adler32

/-- The `width` low octets of a number, least significant first. -/
def littleEndian : Nat → Nat → Bytes
  | 0, _ => []
  | width + 1, n => (n % 256).toUInt8 :: littleEndian width (n / 256)

/-- The `width` low octets of a number, most significant first. -/
def bigEndian (width n : Nat) : Bytes := (littleEndian width n).reverse

end RelayTunnel.Compression
