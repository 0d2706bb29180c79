import RelayTunnel.Compression.ContentCoding
import RelayTunnel.Http.Framing

/-!
# Which responses are compressed

A response is worth compressing when it has a body of a compressible text type that is not encoded
already and that carries no transfer coding but `chunked`. `recodedHead` is the head such a response
goes out with: the framing fields it came with make way for chunked framing and the coding.
-/

set_option autoImplicit false

namespace RelayTunnel.Transcode

open Compression (ContentCoding)
open Http

/-- The media types that are worth compressing. -/
def compressibleTypes : List String :=
  ["text/plain", "text/css", "text/html", "text/javascript", "application/x-javascript",
    "application/javascript", "application/xml", "text/xml"]

/-- The media type of a `Content-Type` value: what stands before its parameters. -/
def mediaType (value : String) : List Char :=
  Text.trim (value.toList.takeWhile (· != ';'))

/-- Whether a `Content-Type` value names a compressible type, in any casing. -/
def namesCompressibleType (value : String) : Bool :=
  let type := (mediaType value).map Char.toLower
  compressibleTypes.any fun known => known.toList == type

/-- Whether the body carries no transfer coding other than `chunked`. All transfer codings count,
wherever they are listed. -/
def isPlainlyFramed (fields : Fields) : Bool :=
  (fields.values FieldName.transferEncoding).all fun value =>
    (Http.listElements value).all fun element => element.isEmpty || Http.isChunkedCoding element

/-- Whether the body of a response is worth compressing. -/
def isCompressible (head : ResponseHead) : Bool :=
  !head.fields.contains FieldName.contentEncoding && head.hasBody && isPlainlyFramed head.fields
    && ((head.fields.text? FieldName.contentType).map namesCompressibleType).getD false

/-- The fields of a response whose body is compressed and sent in chunks. -/
def recodedFields (coding : ContentCoding) (fields : Fields) : Fields :=
  (((fields.erase FieldName.transferEncoding).erase FieldName.contentLength).push
      ⟨FieldName.transferEncoding, Http.chunkedCoding⟩).push
    ⟨FieldName.contentEncoding, Ascii.bytes coding.token⟩

/-- The head of a response whose body is compressed and sent in chunks. -/
def recodedHead (coding : ContentCoding) (head : ResponseHead) : ResponseHead :=
  { head with fields := recodedFields coding head.fields }

end RelayTunnel.Transcode
