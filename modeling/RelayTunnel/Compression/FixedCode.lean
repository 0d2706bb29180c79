import RelayTunnel.Compression.Bits

/-!
# The fixed prefix code of DEFLATE

Symbols 0 to 255 are octets, 256 ends a block, and 257 to 285 announce the length of a copy; the
distance of a copy has symbols 0 to 29 of its own. A length or distance symbol covers a range, and
extra bits pick the value in it.
-/

set_option autoImplicit false

namespace RelayTunnel.Compression.FixedCode

def endOfBlock : Nat := 256

/-- Width and value of the code of a symbol. -/
def code (symbol : Nat) : Nat × Nat :=
  if symbol < 144 then (8, 0x30 + symbol)
  else if symbol < 256 then (9, 0x190 + (symbol - 144))
  else if symbol < 280 then (7, symbol - 256)
  else (8, 0xC0 + (symbol - 280))

/-- The symbol whose code has the given width and value. -/
def symbol? (width value : Nat) : Option Nat :=
  match width with
  | 7 => if value < 24 then some (256 + value) else none
  | 8 =>
      if 0x30 ≤ value ∧ value < 0xC0 then some (value - 0x30)
      else if 0xC0 ≤ value ∧ value < 0xC8 then some (280 + (value - 0xC0))
      else none
  | 9 => if 0x190 ≤ value ∧ value < 0x200 then some (144 + (value - 0x190)) else none
  | _ => none

def maxWidth : Nat := 9

/-- The first value and the number of extra bits of each length symbol, from 257 on. -/
def lengths : List (Nat × Nat) :=
  [(3, 0), (4, 0), (5, 0), (6, 0), (7, 0), (8, 0), (9, 0), (10, 0), (11, 1), (13, 1), (15, 1),
    (17, 1), (19, 2), (23, 2), (27, 2), (31, 2), (35, 3), (43, 3), (51, 3), (59, 3), (67, 4),
    (83, 4), (99, 4), (115, 4), (131, 5), (163, 5), (195, 5), (227, 5), (258, 0)]

/-- The first value and the number of extra bits of each distance symbol. -/
def distances : List (Nat × Nat) :=
  [(1, 0), (2, 0), (3, 0), (4, 0), (5, 1), (7, 1), (9, 2), (13, 2), (17, 3), (25, 3), (33, 4),
    (49, 4), (65, 5), (97, 5), (129, 6), (193, 6), (257, 7), (385, 7), (513, 8), (769, 8),
    (1025, 9), (1537, 9), (2049, 10), (3073, 10), (4097, 11), (6145, 11), (8193, 12), (12289, 12),
    (16385, 13), (24577, 13)]

def distanceWidth : Nat := 5

/-- The last range of a table that starts at or below a value: its index, and the range. -/
def rangeOf (table : List (Nat × Nat)) (value : Nat) : Nat × Nat × Nat :=
  let index := (table.takeWhile fun range => range.1 ≤ value).length - 1
  (index, table.getD index (0, 0))

/-- The code of a symbol as bits. -/
def symbolBits (symbol : Nat) : Bits := Bits.ofCode (code symbol).1 (code symbol).2

/-- The bits that announce the length of a copy. -/
def lengthBits (length : Nat) : Bits :=
  let (index, base, extra) := rangeOf lengths length
  symbolBits (257 + index) ++ Bits.ofNat extra (length - base)

/-- The bits that announce the distance of a copy. -/
def distanceBits (distance : Nat) : Bits :=
  let (index, base, extra) := rangeOf distances distance
  Bits.ofCode distanceWidth index ++ Bits.ofNat extra (distance - base)

end RelayTunnel.Compression.FixedCode
