/-!
# Octets and ASCII

Everything that travels over a connection is a list of octets. This module holds the ASCII
classes the protocols speak of, comparison that ignores ASCII case, and trimming.
Case is folded for the letters `A` to `Z` only; every other octet is left alone.
-/

set_option autoImplicit false

namespace RelayTunnel

/-- A string of octets, first octet first. -/
abbrev Bytes := List UInt8

namespace Ascii

/-- The octets of a text that holds ASCII characters only. -/
def bytes (s : String) : Bytes :=
  s.toList.map fun c => c.toNat.toUInt8

def cr : UInt8 := 0x0D
def lf : UInt8 := 0x0A
def tab : UInt8 := 0x09
def space : UInt8 := 0x20
def colon : UInt8 := 0x3A
def comma : UInt8 := 0x2C

def crlf : Bytes := [cr, lf]

def isDigit (b : UInt8) : Bool := 0x30 ≤ b && b ≤ 0x39

def isUpper (b : UInt8) : Bool := 0x41 ≤ b && b ≤ 0x5A

def isLower (b : UInt8) : Bool := 0x61 ≤ b && b ≤ 0x7A

def isAlpha (b : UInt8) : Bool := isUpper b || isLower b

/-- The value of a hexadecimal digit in either case. -/
def hexValue? (b : UInt8) : Option Nat :=
  if isDigit b then some (b.toNat - 0x30)
  else if 0x41 ≤ b && b ≤ 0x46 then some (b.toNat - 0x41 + 10)
  else if 0x61 ≤ b && b ≤ 0x66 then some (b.toNat - 0x61 + 10)
  else none

/-- Maps `A` to `Z` to lower case. -/
def lower (b : UInt8) : UInt8 := if isUpper b then b + 0x20 else b

/-- Equality up to the case of ASCII letters. -/
def sameIgnoringCase (a b : Bytes) : Bool := a.map lower == b.map lower

def isBlank (b : UInt8) : Bool := b == space || b == tab

/-- Space, horizontal tab, line feed, form feed and carriage return. -/
def isWhitespace (b : UInt8) : Bool :=
  b == space || b == tab || b == lf || b == 0x0C || b == cr

end Ascii

/-- Drops the elements that satisfy `p` from both ends. -/
def trimBoth {α : Type} (p : α → Bool) (xs : List α) : List α :=
  ((xs.dropWhile p).reverse.dropWhile p).reverse

end RelayTunnel
