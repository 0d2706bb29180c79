import RelayTunnel.Compression.BodyCompressor

/-!
# Compressed bodies

The octets that a compressor gives back for the pieces of a body, and what it means that the body can
be read back from them.
-/

set_option autoImplicit false

namespace RelayTunnel.Compression.BodyCompressor

variable {C : Type} [BodyCompressor C]

/-- What a compressor gives back for pieces of a body, and the compressor behind them. -/
def writeAll (c : C) : List Bytes → List Bytes × C
  | [] => ([], c)
  | data :: more =>
      let (out, c) := write c data
      let (outs, c) := writeAll c more
      (out :: outs, c)

/-- What a compressor gives back for the pieces of a whole body. -/
def outputs (c : C) (pieces : List Bytes) : List Bytes :=
  (writeAll c pieces).1 ++ [finish (writeAll c pieces).2]

/-- Whether `read?` finds each body in what compressors give back for it, however the body is cut into
pieces. -/
def IsLossless (C : Type) [BodyCompressor C] (read? : ContentCoding → Bytes → Option Bytes) : Prop :=
  ∀ coding pieces, read? coding (outputs (start coding : C) pieces).flatten = some pieces.flatten

/-- To write nothing puts nothing out. -/
@[simp] theorem writeAll_nil (c : C) : writeAll c [] = ([], c) := rfl

/-- Each write puts something out, and the compressor goes on from there. -/
theorem writeAll_cons (c : C) (data : Bytes) (more : List Bytes) :
    writeAll c (data :: more) =
      ((write c data).1 :: (writeAll (write c data).2 more).1,
        (writeAll (write c data).2 more).2) := rfl

/-- What is written in two parts is put out in two parts. -/
theorem writeAll_append (c : C) (front behind : List Bytes) :
    writeAll c (front ++ behind) =
      ((writeAll c front).1 ++ (writeAll (writeAll c front).2 behind).1,
        (writeAll (writeAll c front).2 behind).2) := by
  induction front generalizing c with
  | nil => rfl
  | cons data front ih =>
    rw [List.cons_append, writeAll_cons, writeAll_cons, ih]
    rfl

/-- The output of a body begins with what its front has put out. -/
theorem outputs_append (c : C) (front behind : List Bytes) :
    outputs c (front ++ behind) = (writeAll c front).1 ++ outputs (writeAll c front).2 behind := by
  rw [outputs, outputs, writeAll_append, List.append_assoc]

end RelayTunnel.Compression.BodyCompressor
