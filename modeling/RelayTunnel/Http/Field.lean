import RelayTunnel.Text.Utf8

/-!
# Header fields

The fields of a message head, kept in the order they were received, with their casing and
their repetitions. Names are compared without regard to ASCII case; values are plain octets,
since a peer may send anything but line ends in them.
-/

set_option autoImplicit false

namespace RelayTunnel.Http

/-- One header field. -/
structure Field where
  name : Bytes
  value : Bytes
  deriving DecidableEq

namespace Field

/-- Whether the field carries the given name, in any casing. -/
def isNamed (name : Bytes) (field : Field) : Bool := Ascii.sameIgnoringCase field.name name

/-- The value as text, if it is well-formed UTF-8. -/
def text? (field : Field) : Option String := Text.Utf8.toString? field.value

/-- The field as `name: value`, ill-formed octets replaced. -/
def describe (field : Field) : String :=
  Text.Utf8.toStringLossy field.name ++ ": " ++ Text.Utf8.toStringLossy field.value

/-- The field as its header line, line end included. -/
def line (field : Field) : Bytes :=
  field.name ++ [Ascii.colon, Ascii.space] ++ field.value ++ Ascii.crlf

end Field

/-- The header fields of one message, in order. -/
structure Fields where
  toList : List Field
  deriving DecidableEq

namespace Fields

def empty : Fields := ⟨[]⟩

def size (fields : Fields) : Nat := fields.toList.length

/-- The value of the first field with the given name. -/
def get? (name : Bytes) (fields : Fields) : Option Bytes :=
  (fields.toList.find? (Field.isNamed name)).map Field.value

/-- The value of the first field with the given name as text; a later field of that name is not
looked at even if the first is not well-formed. -/
def text? (name : Bytes) (fields : Fields) : Option String :=
  (fields.toList.find? (Field.isNamed name)).bind Field.text?

/-- The values of all fields with the given name, in order. -/
def values (name : Bytes) (fields : Fields) : List Bytes :=
  (fields.toList.filter (Field.isNamed name)).map Field.value

def contains (name : Bytes) (fields : Fields) : Bool := (fields.get? name).isSome

/-- Appends a field; earlier fields of the same name stay. -/
def push (field : Field) (fields : Fields) : Fields := ⟨fields.toList ++ [field]⟩

/-- Drops every field with the given name. -/
def erase (name : Bytes) (fields : Fields) : Fields :=
  ⟨fields.toList.filter fun field => !field.isNamed name⟩

/-- The fields as a bracketed list of `name: value` items. -/
def describe (fields : Fields) : String :=
  "[" ++ String.intercalate ", " (fields.toList.map Field.describe) ++ "]"

end Fields

namespace FieldName

def acceptEncoding : Bytes := Ascii.bytes "Accept-Encoding"
def contentEncoding : Bytes := Ascii.bytes "Content-Encoding"
def contentLength : Bytes := Ascii.bytes "Content-Length"
def contentType : Bytes := Ascii.bytes "Content-Type"
def transferEncoding : Bytes := Ascii.bytes "Transfer-Encoding"
def upgrade : Bytes := Ascii.bytes "Upgrade"

end FieldName

end RelayTunnel.Http
