import RelayTunnel.Json.Reader

/-!
# Writing JSON

Values are written without white space. In a string, quotes, backslashes and controls are escaped,
controls by their short escape if they have one; everything else stands for itself.
-/

set_option autoImplicit false

namespace RelayTunnel.Json

/-- The letter of the short escape that an octet is written with, if there is one. -/
def escapeLetter? (b : UInt8) : Option UInt8 :=
  if b == quote || b == backslash then some b
  else if b < 0x20 then (shortEscapes.find? fun e => e.2 == b).map (·.1)
  else none

/-- An octet of a string as it is written between quotes. -/
def escaped (b : UInt8) : Bytes :=
  match escapeLetter? b with
  | some letter => [backslash, letter]
  | none =>
      if b < 0x20 then Ascii.bytes "\\u00" ++ [Text.hexDigit (b.toNat / 16), Text.hexDigit (b.toNat % 16)]
      else [b]

def writeString (s : String) : Bytes :=
  quote :: (Text.Utf8.ofString s).flatMap escaped ++ [quote]

def writeBool (b : Bool) : Bytes := Ascii.bytes (if b then "true" else "false")

/-- A key and its value, which is written already. -/
def writeMember (key : String) (value : Bytes) : Bytes := writeString key ++ Ascii.colon :: value

/-- An object of members that are written already. -/
def writeObject (members : List Bytes) : Bytes :=
  openBrace :: List.intercalate [Ascii.comma] members ++ [closeBrace]

end RelayTunnel.Json
