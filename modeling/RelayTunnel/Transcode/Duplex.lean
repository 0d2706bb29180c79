import RelayTunnel.Compression.Compressor
import RelayTunnel.Transcode.RequestInspector
import RelayTunnel.Transcode.ResponseTranscoder

/-!
# Both directions of one connection

The request side decides, the response side asks for the decision when the first octets of the
response arrive. The two sides may be driven in any order.
-/

set_option autoImplicit false

namespace RelayTunnel.Transcode

open Compression (BodyCompressor Compressor)

/-- The transcoding state of one connection. -/
structure Duplex (C : Type := Compressor) where
  requests : RequestInspector
  responses : ResponseTranscoder C

namespace Duplex

/-- The state in front of both streams. -/
def start (C : Type := Compressor) : Duplex C := ⟨.start, .start⟩

variable {C : Type} [BodyCompressor C]

/-- Octets on their way to the destination. -/
def inspect (d : Duplex C) (chunk : Bytes) : Duplex C :=
  { d with requests := d.requests.inspect chunk }

/-- Octets from the destination, and what goes to the relay for them. -/
def transform (d : Duplex C) (chunk : Bytes) : Bytes × Duplex C :=
  let (out, responses) := d.responses.transform d.requests.coding? chunk
  (out, { d with responses := responses })

/-- The destination has closed; what still goes to the relay. -/
def finish (d : Duplex C) : Bytes × Duplex C :=
  let (out, responses) := d.responses.finish
  (out, { d with responses := responses })

end Duplex

end RelayTunnel.Transcode
