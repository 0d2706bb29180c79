import RelayTunnel.Ascii

/-!
# Bit strings

A bit string is written into octets from the least significant bit of the first octet on. Numbers
are written with their least significant bit first, prefix codes with their most significant bit
first.
-/

set_option autoImplicit false

namespace RelayTunnel.Compression

/-- A string of bits, first bit first. -/
abbrev Bits := List Bool

namespace Bits

/-- The `width` low bits of a number, least significant first. -/
def ofNat : Nat → Nat → Bits
  | 0, _ => []
  | width + 1, n => (n % 2 == 1) :: ofNat width (n / 2)

/-- The number that bits spell, least significant first. -/
def toNat : Bits → Nat
  | [] => 0
  | b :: bits => (if b then 1 else 0) + 2 * toNat bits

/-- The bits of a prefix code of the given width. -/
def ofCode (width code : Nat) : Bits := (ofNat width code).reverse

/-- The bits of an octet in the order they are sent. -/
def ofOctet (b : UInt8) : Bits := ofNat 8 b.toNat

/-- Writes the whole octets of a bit string behind `done`, which holds the octets before, last one
first; the bits that do not fill an octet are left over. -/
def packOnto (done : Bytes) : Bits → Bytes × Bits
  | b0 :: b1 :: b2 :: b3 :: b4 :: b5 :: b6 :: b7 :: rest =>
      packOnto ((toNat [b0, b1, b2, b3, b4, b5, b6, b7]).toUInt8 :: done) rest
  | bits => (done.reverse, bits)

/-- The whole octets of a bit string and the bits left over. -/
def pack (bits : Bits) : Bytes × Bits := packOnto [] bits

/-- The octets of a bit string, the last one filled up with zeros. -/
def packAll (bits : Bits) : Bytes :=
  let (octets, left) := pack bits
  if left.isEmpty then octets else octets ++ [(toNat left).toUInt8]

end Bits

end RelayTunnel.Compression
