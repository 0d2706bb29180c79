import RelayTunnel.Ascii

/-!
# Numerals

Reading and writing natural numbers. `unsigned?` reads a decimal numeral below a bound, with an
optional plus sign; `hexBytes` writes lowercase hexadecimal without leading zeros.
-/

set_option autoImplicit false

namespace RelayTunnel.Text

def digitValue? (c : Char) : Option Nat :=
  if '0' ≤ c && c ≤ '9' then some (c.toNat - '0'.toNat) else none

/-- The number that `acc` followed by the given decimal digits spells. -/
def decimalFrom? (acc : Nat) : List Char → Option Nat
  | [] => some acc
  | c :: cs => (digitValue? c).bind fun d => decimalFrom? (acc * 10 + d) cs

/-- The value of a nonempty string of decimal digits. -/
def decimal? : List Char → Option Nat
  | [] => none
  | cs => decimalFrom? 0 cs

/-- A decimal numeral of a number below `bound`; one plus sign may precede it. -/
def unsigned? (bound : Nat) (cs : List Char) : Option Nat :=
  let digits := match cs with
    | '+' :: rest => rest
    | _ => cs
  (decimal? digits).filter (· < bound)

/-- The decimal numeral of a number, least significant digit last. -/
def decimalChars (n : Nat) : List Char :=
  if n < 10 then [Char.ofNat (0x30 + n)]
  else decimalChars (n / 10) ++ [Char.ofNat (0x30 + n % 10)]
  termination_by n

/-- The decimal numeral of a number as octets. -/
def decimalBytes (n : Nat) : Bytes := (decimalChars n).map fun c => c.toNat.toUInt8

/-- The decimal numeral of a number as a string. -/
def decimalString (n : Nat) : String := String.ofList (decimalChars n)

/-- The octet of a hexadecimal digit, letters in lower case. -/
def hexDigit (d : Nat) : UInt8 :=
  if d < 10 then (0x30 + d).toUInt8 else (0x61 + (d - 10)).toUInt8

/-- The hexadecimal numeral of a number, in lower case and without leading zeros. -/
def hexBytes (n : Nat) : Bytes :=
  if n < 16 then [hexDigit n] else hexBytes (n / 16) ++ [hexDigit (n % 16)]
  termination_by n

/-- Two hexadecimal digits of an octet, in lower case. -/
def hexPair (b : UInt8) : String :=
  String.ofList ([hexDigit (b.toNat / 16), hexDigit (b.toNat % 16)].map fun d => Char.ofNat d.toNat)

end RelayTunnel.Text
