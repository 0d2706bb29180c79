import RelayTunnel.Text.Utf8

/-!
# Percent-encoding

Characters that may not stand in a part of a url are written as `%` and two hexadecimal digits for
each of their UTF-8 octets. Controls and everything beyond ASCII are always encoded; each part adds
a set of its own. A `%` that is already there is left alone, whatever follows it.
-/

set_option autoImplicit false

namespace RelayTunnel.Url

/-- A hexadecimal digit, letters in upper case. -/
def upperHexDigit (d : Nat) : Char := Char.ofNat (if d < 10 then 0x30 + d else 0x41 + (d - 10))

/-- `%` and the two hexadecimal digits of an octet. -/
def percentOctet (b : UInt8) : List Char :=
  ['%', upperHexDigit (b.toNat / 16), upperHexDigit (b.toNat % 16)]

/-- Whether a character is encoded in every part of a url. -/
def isAlwaysEncoded (c : Char) : Bool := c.toNat < 0x20 || 0x7F ≤ c.toNat

/-- Characters that are encoded in a path. -/
def isEncodedInPath (c : Char) : Bool :=
  isAlwaysEncoded c || [' ', '"', '<', '>', '`', '#', '?', '\x7b', '\x7d'].contains c

/-- Characters that are encoded in the query of an `http` or `ws` url. -/
def isEncodedInQuery (c : Char) : Bool :=
  isAlwaysEncoded c || [' ', '"', '#', '<', '>', '\''].contains c

/-- A character as it stands in a part of a url. -/
def encodeChar (encoded : Char → Bool) (c : Char) : List Char :=
  if encoded c then (String.utf8EncodeChar c).flatMap percentOctet else [c]

/-- A text as it stands in a part of a url. -/
def percentEncode (encoded : Char → Bool) (cs : List Char) : List Char :=
  cs.flatMap (encodeChar encoded)

/-- The octet that two hexadecimal digits at the front of an octet string spell. -/
def escapedOctet? : Bytes → Option UInt8
  | high :: low :: _ => do
      let h ← Ascii.hexValue? high
      let l ← Ascii.hexValue? low
      pure (h * 16 + l).toUInt8
  | _ => none

/-- Undoes percent-encoding; a `%` without two hexadecimal digits behind it stays. -/
def percentDecode : Bytes → Bytes
  | [] => []
  | b :: rest =>
      match if b == 0x25 then escapedOctet? rest else none with
      | some octet => octet :: percentDecode (rest.drop 2)
      | none => b :: percentDecode rest
  termination_by bytes => bytes.length
  decreasing_by all_goals simp; try omega

end RelayTunnel.Url
