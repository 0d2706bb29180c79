import RelayTunnel.Ascii

/-!
# Content codings

The codings a response body can be compressed with, and which of them a client asks for.
`ContentCoding.select?` takes the first word of an `Accept-Encoding` value that names one; quality
values are not looked at, so `gzip;q=0` asks for gzip.
-/

set_option autoImplicit false

namespace RelayTunnel.Compression

/-- A coding that can be applied to a response body. -/
inductive ContentCoding where
  | gzip
  /-- The zlib format; this is what the token `deflate` stands for. -/
  | deflate
  deriving DecidableEq

namespace ContentCoding

def token : ContentCoding → String
  | .gzip => "gzip"
  | .deflate => "deflate"

/-- Whether a character belongs to a word: an ASCII letter, a digit or an underscore. -/
def isWordChar (c : Char) : Bool := c.isAlphanum || c == '_'

/-- The coding that a word names, in any casing. -/
def ofWord? (word : List Char) : Option ContentCoding :=
  let word := word.map Char.toLower
  if word == ContentCoding.gzip.token.toList then some .gzip
  else if word == ContentCoding.deflate.token.toList then some .deflate
  else none

/-- The coding that an `Accept-Encoding` value asks for: the first word of it that names one. -/
def select? (value : String) : Option ContentCoding :=
  (value.toList.splitOnP (!isWordChar ·)).findSome? ofWord?

end ContentCoding

end RelayTunnel.Compression
