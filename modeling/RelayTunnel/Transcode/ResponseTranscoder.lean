import RelayTunnel.Compression.BodyCompressor
import RelayTunnel.Http.ChunkWriter
import RelayTunnel.Http.Drain
import RelayTunnel.Http.HeadBuffer
import RelayTunnel.Transcode.Eligibility

/-!
# Compressing responses on the way

A `ResponseTranscoder` takes the octets a destination sends and gives back the octets that go to the
relay. It holds the head back until it can tell whether the response is compressed. If it is, the
recoded head goes out and the body follows compressed and in chunks; when the body has ended, or
its framing turns out to be broken, the stream is closed properly and everything after it passes
through as it is. A response that is not compressed goes out octet by octet as it came.

The only thing that could go wrong is a head that cannot be written, so `transform?` says so.
-/

set_option autoImplicit false

namespace RelayTunnel.Transcode

open Compression (ContentCoding BodyCompressor)
open Http (BodyReader ChunkWriter)

/-- A response body being compressed. -/
structure Encoding (C : Type) where
  reader : BodyReader
  compressor : C
  writer : ChunkWriter
  /-- Octets of the body as it came that the reader has not taken yet. -/
  pending : Bytes

namespace Encoding

variable {C : Type} [BodyCompressor C]

/-- Compresses a piece of payload and frames what comes out of it. -/
def compress (e : Encoding C) (data : Bytes) : Bytes × Encoding C :=
  let (compressed, compressor) := BodyCompressor.write e.compressor data
  let (out, writer) := e.writer.write (.chunk compressed)
  (out, { e with compressor := compressor, writer := writer })

def compressAll (e : Encoding C) : List Bytes → Bytes × Encoding C
  | [] => ([], e)
  | data :: more =>
      let (out, e) := e.compress data
      let (rest, e) := e.compressAll more
      (out ++ rest, e)

/-- Ends the compressed stream and the chunked body around it. -/
def close (e : Encoding C) : Bytes :=
  let (tail, writer) := e.writer.write (.chunk (BodyCompressor.finish e.compressor))
  tail ++ (writer.write .eof).1

end Encoding

/-- Decides about the first response of a stream and compresses it. -/
inductive ResponseTranscoder (C : Type) where
  /-- Holding the head back until it is complete. -/
  | inspecting (held : Bytes)
  | encoding (e : Encoding C)
  | passthrough

/-- Why a transcoder gives up. -/
inductive TranscodeFault where
  /-- Heads of this version cannot be written. -/
  | unsupportedVersion (version : Http.Version)
  deriving DecidableEq

namespace ResponseTranscoder

variable {C : Type}

/-- A transcoder in front of a response stream. -/
def start : ResponseTranscoder C := .inspecting []

def isEncoding : ResponseTranscoder C → Bool
  | .encoding _ => true
  | _ => false

/-- The octets held back: a head that is not complete, or body octets not yet read. -/
def held : ResponseTranscoder C → Bytes
  | .inspecting held => held
  | .encoding e => e.pending
  | .passthrough => []

variable [BodyCompressor C]

/-- Compresses the payload that is pending. When the body is over, what is left passes through. -/
def pump (e : Encoding C) : Bytes × ResponseTranscoder C :=
  let drained := e.reader.drain e.pending
  let (out, e) := { e with reader := drained.reader, pending := drained.buffer }.compressAll
    drained.chunks
  match drained.stop with
  | .starved => (out, .encoding e)
  | .ended | .failed _ => (out ++ e.close ++ e.pending, .passthrough)

/-- The reader for the body of a response that is to be compressed. -/
def plan? (head : Http.ResponseHead) : Option BodyReader :=
  if isCompressible head then (BodyReader.ofResponse head).toOption else none

/-- Decides about a response of which these octets have come in. -/
def decide? (coding : ContentCoding) (received : Bytes) :
    Except TranscodeFault (Bytes × ResponseTranscoder C) :=
  match Http.takeResponse received with
  | .ok none => .ok ([], .inspecting received)
  | .error _ => .ok (received, .passthrough)
  | .ok (some taken) =>
      match plan? taken.head with
      | none => .ok (received, .passthrough)
      | some reader =>
          match (recodedHead coding taken.head).render? with
          | none => .error (.unsupportedVersion taken.head.version)
          | some head =>
              let (out, next) := pump ⟨reader, BodyCompressor.start coding, .start, taken.rest⟩
              .ok (head ++ out, next)

/-- Takes octets from the destination and gives back what goes to the relay. Without a coding the
response is not compressed. -/
def transform? (coding : Option ContentCoding) (t : ResponseTranscoder C) (chunk : Bytes) :
    Except TranscodeFault (Bytes × ResponseTranscoder C) :=
  match t with
  | .passthrough => .ok (chunk, .passthrough)
  | .encoding e => .ok (pump { e with pending := e.pending ++ chunk })
  | .inspecting held =>
      match coding with
      | none => .ok (held ++ chunk, .passthrough)
      | some coding => decide? coding (held ++ chunk)

/-- Takes octets from the destination and gives back what goes to the relay; nothing after a
fault. -/
def transform (coding : Option ContentCoding) (t : ResponseTranscoder C) (chunk : Bytes) :
    Bytes × ResponseTranscoder C :=
  match t.transform? coding chunk with
  | .ok result => result
  | .error _ => ([], t)

/-- Gives back everything still held once the destination has closed. -/
def finish (t : ResponseTranscoder C) : Bytes × ResponseTranscoder C :=
  match t with
  | .inspecting held => (held, .passthrough)
  | .passthrough => ([], .passthrough)
  | .encoding e =>
      let drained := e.reader.drainLast e.pending
      let (out, e) := e.compressAll drained.chunks
      (out ++ e.close, .passthrough)

end ResponseTranscoder

end RelayTunnel.Transcode
