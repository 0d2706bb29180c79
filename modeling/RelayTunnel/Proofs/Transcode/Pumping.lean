import RelayTunnel.Proofs.Compression.BodyStream
import RelayTunnel.Proofs.Http.Absorption
import RelayTunnel.Proofs.Http.Stability
import RelayTunnel.Transcode.Duplex

/-!
# What a transcoder does with octets

`compressAll`, `close` and `pump` written out in terms of what the compressor gives back. Between two
calls a transcoder is `Settled`: a head it holds back is not complete, and a body it compresses has
been read as far as it has come in.
-/

set_option autoImplicit false

namespace RelayTunnel.Transcode

open Compression (BodyCompressor ContentCoding)
open Http (BodyReader)

variable {C : Type}

/-! ## Between two calls -/

/-- An encoding between two calls: everything that has come in has been read, and the chunked body
has not been ended. -/
structure Encoding.Ready (e : Encoding C) : Prop where
  sound : e.reader.Sound
  writer : e.writer = .start
  pending : e.pending = []

/-- A transcoder between two calls. -/
def ResponseTranscoder.Settled : ResponseTranscoder C → Prop
  | .inspecting held => Http.takeResponse held = .ok none
  | .encoding e => e.Ready
  | .passthrough => True

/-- A transcoder that has just been made is settled. -/
theorem ResponseTranscoder.settled_start : Settled (start : ResponseTranscoder C) := rfl

/-- What is held back between two calls is a head that is still within the limit. -/
theorem ResponseTranscoder.length_held_le {t : ResponseTranscoder C} (h : t.Settled) :
    t.held.length ≤ Http.maxHeadSize := by
  cases t with
  | passthrough => exact Nat.zero_le _
  | encoding e =>
    have hpending : e.pending = [] := h.pending
    rw [held, hpending]
    exact Nat.zero_le _
  | inspecting held => exact Http.length_le_of_takeHead_none h

/-! ## Compressing and framing -/

variable [BodyCompressor C]

/-- The chunks that compressed pieces are sent in; an empty piece has none. -/
def framed (pieces : List Bytes) : Bytes := (pieces.filter (!·.isEmpty)).flatMap Http.chunkFrame

/-- Two rows of pieces are framed one behind the other. -/
theorem framed_append (front behind : List Bytes) :
    framed (front ++ behind) = framed front ++ framed behind := by
  rw [framed, framed, framed, List.filter_append, List.flatMap_append]

/-- A piece is framed as a chunk, unless it is empty. -/
theorem framed_singleton (data : Bytes) :
    framed [data] = if data.isEmpty then [] else Http.chunkFrame data := by
  cases data with
  | nil => rfl
  | cons b bs => exact List.append_nil _

namespace Encoding

/-- What the compressor gives for a piece of payload goes out as a chunk. -/
theorem compress_eq {e : Encoding C} (h : e.writer = .start) (data : Bytes) :
    e.compress data =
      (framed [(BodyCompressor.write e.compressor data).1],
        { e with compressor := (BodyCompressor.write e.compressor data).2 }) := by
  obtain ⟨reader, compressor, writer, pending⟩ := e
  obtain rfl : writer = .start := h
  rw [framed_singleton]
  rfl

/-- So it does for all pieces, one after the other. -/
theorem compressAll_eq {e : Encoding C} (h : e.writer = .start) (chunks : List Bytes) :
    e.compressAll chunks =
      (framed (BodyCompressor.writeAll e.compressor chunks).1,
        { e with compressor := (BodyCompressor.writeAll e.compressor chunks).2 }) := by
  induction chunks generalizing e with
  | nil => rfl
  | cons data more ih =>
    rw [compressAll, compress_eq h]
    dsimp only
    rw [ih (by exact h), BodyCompressor.writeAll_cons, ← framed_append]
    rfl

/-- The rest of the compressed stream goes out, and then the last chunk. -/
theorem close_eq {e : Encoding C} (h : e.writer = .start) :
    e.close = framed [BodyCompressor.finish e.compressor] ++ Http.lastChunk := by
  obtain ⟨reader, compressor, writer, pending⟩ := e
  obtain rfl : writer = .start := h
  rw [framed_singleton]
  rfl

end Encoding

namespace ResponseTranscoder

/-- A body that is left waiting sends what its chunks have given. -/
theorem pump_of_starved {e : Encoding C} (hwriter : e.writer = .start)
    (hsound : e.reader.Sound) (hstop : (e.reader.drain e.pending).stop = .starved) :
    pump e =
      (framed (BodyCompressor.writeAll e.compressor (e.reader.drain e.pending).chunks).1,
        .encoding
          ⟨(e.reader.drain e.pending).reader,
            (BodyCompressor.writeAll e.compressor (e.reader.drain e.pending).chunks).2, .start,
            []⟩) := by
  rw [pump, Encoding.compressAll_eq (by exact hwriter)]
  simp only [hstop, hwriter, BodyReader.buffer_drain_of_starved hsound hstop]

/-- A body that stops sends the rest of the compressed stream and the last chunk, and lets what follows
through. -/
theorem pump_of_stopped {e : Encoding C} (hwriter : e.writer = .start)
    (hstop : (e.reader.drain e.pending).stop ≠ .starved) :
    pump e =
      (framed (BodyCompressor.outputs e.compressor (e.reader.drain e.pending).chunks)
        ++ Http.lastChunk ++ (e.reader.drain e.pending).buffer, .passthrough) := by
  rw [pump, Encoding.compressAll_eq (by exact hwriter)]
  dsimp only
  rw [Encoding.close_eq (by exact hwriter), BodyCompressor.outputs, framed_append]
  split
  · next hstarved => exact absurd hstarved hstop
  · simp only [List.append_assoc]
  · simp only [List.append_assoc]

/-- Either way the transcoder is settled again. -/
theorem settled_pump {e : Encoding C} (hwriter : e.writer = .start) (hsound : e.reader.Sound) :
    (pump e).2.Settled := by
  by_cases hstop : (e.reader.drain e.pending).stop = .starved
  · rw [pump_of_starved hwriter hsound hstop]
    refine ⟨?_, rfl, rfl⟩
    have hreader := BodyReader.sound_absorb hsound e.pending
    rwa [← BodyReader.absorbed_drain hsound] at hreader
  · rw [pump_of_stopped hwriter hstop]
    trivial

/-- An encoding that is ready ends with what the compressor holds. -/
theorem finish_of_ready {e : Encoding C} (h : e.Ready) :
    (encoding e).finish =
      (framed [BodyCompressor.finish e.compressor] ++ Http.lastChunk, .passthrough) := by
  have hnone : (e.reader.drainLast e.pending).chunks = [] := by
    rw [h.pending]
    exact BodyReader.chunks_drainLast_nil e.reader
  rw [finish]
  dsimp only
  rw [hnone, Encoding.compressAll_eq h.writer, BodyCompressor.writeAll_nil]
  dsimp only
  rw [Encoding.close_eq h.writer]
  rfl

/-! ## Deciding about a response -/

/-- There is a plan for a response exactly if it is compressed and its framing can be read. -/
theorem plan?_eq_some {head : Http.ResponseHead} {reader : BodyReader} :
    plan? head = some reader ↔
      isCompressible head = true ∧ BodyReader.ofResponse head = .ok reader := by
  rw [plan?]
  split
  · next hcompressible =>
    cases BodyReader.ofResponse head with
    | error error => simp [Except.toOption]
    | ok reader' => simp [Except.toOption, hcompressible]
  · next hcompressible => simp [hcompressible]

/-- Every head that has been taken off a response can be written with a coding. -/
theorem render?_recodedHead {buffer : Bytes} {taken : Http.Taken Http.ResponseHead}
    (h : Http.takeResponse buffer = .ok (some taken)) (coding : ContentCoding) :
    ∃ head, (recodedHead coding taken.head).render? = some head := by
  have hversion : (recodedHead coding taken.head).version = taken.head.version := rfl
  rw [Http.ResponseHead.render?, hversion]
  rcases Http.version_of_takeResponse h with hv | hv
  · rw [hv]
    exact ⟨_, rfl⟩
  · rw [hv]
    exact ⟨_, rfl⟩

/-- No call fails. -/
theorem transform?_eq_ok (coding : Option ContentCoding) (t : ResponseTranscoder C)
    (chunk : Bytes) : t.transform? coding chunk = .ok (t.transform coding chunk) := by
  cases hresult : t.transform? coding chunk with
  | ok result => rw [transform, hresult]
  | error fault =>
    -- a fault would need a head that has been taken and cannot be written
    exfalso
    cases t with
    | passthrough => cases hresult
    | encoding e => cases hresult
    | inspecting held =>
      cases coding with
      | none => cases hresult
      | some coding =>
        rw [transform?, decide?] at hresult
        split at hresult
        · cases hresult
        · cases hresult
        · next taken htake =>
          split at hresult
          · cases hresult
          · obtain ⟨head, hrender⟩ := render?_recodedHead htake coding
            rw [hrender] at hresult
            cases hresult

/-- What can be transformed is transformed so. -/
theorem transform_of_ok {coding : Option ContentCoding} {t : ResponseTranscoder C} {chunk : Bytes}
    {result : Bytes × ResponseTranscoder C} (h : t.transform? coding chunk = .ok result) :
    t.transform coding chunk = result := by
  rw [transform, h]

section Inspecting

variable {coding : ContentCoding} {held chunk : Bytes}

/-- A head that is not complete is held back. -/
theorem transform_of_incomplete (h : Http.takeResponse (held ++ chunk) = .ok none) :
    (inspecting held : ResponseTranscoder C).transform (some coding) chunk =
      ([], .inspecting (held ++ chunk)) := by
  refine transform_of_ok ?_
  rw [transform?, decide?, h]

/-- A head that is eligible goes out recoded, and the body behind it compressed. -/
theorem transform_of_eligible {taken : Http.Taken Http.ResponseHead} {reader : BodyReader}
    {head : Bytes} (htake : Http.takeResponse (held ++ chunk) = .ok (some taken))
    (hcompressible : isCompressible taken.head = true)
    (hreader : BodyReader.ofResponse taken.head = .ok reader)
    (hrender : (recodedHead coding taken.head).render? = some head) :
    (inspecting held : ResponseTranscoder C).transform (some coding) chunk =
      (head ++ (pump (C := C) ⟨reader, BodyCompressor.start coding, .start, taken.rest⟩).1,
        (pump ⟨reader, BodyCompressor.start coding, .start, taken.rest⟩).2) := by
  refine transform_of_ok ?_
  rw [transform?, decide?, htake]
  dsimp only
  rw [plan?_eq_some.mpr ⟨hcompressible, hreader⟩]
  dsimp only
  rw [hrender]

/-- Any other head is let through, and everything behind it. -/
theorem transform_of_ineligible {taken : Http.Taken Http.ResponseHead}
    (htake : Http.takeResponse (held ++ chunk) = .ok (some taken)) (hplan : plan? taken.head = none) :
    (inspecting held : ResponseTranscoder C).transform (some coding) chunk =
      (held ++ chunk, .passthrough) := by
  refine transform_of_ok ?_
  rw [transform?, decide?, htake]
  dsimp only
  rw [hplan]

/-- So is what can be no head. -/
theorem transform_of_refused {error : Http.MessageError}
    (htake : Http.takeResponse (held ++ chunk) = .error error) :
    (inspecting held : ResponseTranscoder C).transform (some coding) chunk =
      (held ++ chunk, .passthrough) := by
  refine transform_of_ok ?_
  rw [transform?, decide?, htake]

/-- What can come of octets while a head is held back and there is a coding. -/
theorem transform_inspecting_cases {P : Bytes × ResponseTranscoder C → Prop}
    (incomplete : Http.takeResponse (held ++ chunk) = .ok none → P ([], .inspecting (held ++ chunk)))
    (ineligible : P (held ++ chunk, .passthrough))
    (eligible : ∀ taken reader head, Http.takeResponse (held ++ chunk) = .ok (some taken) →
      isCompressible taken.head = true → BodyReader.ofResponse taken.head = .ok reader →
      (recodedHead coding taken.head).render? = some head →
      P (head ++ (pump (C := C) ⟨reader, BodyCompressor.start coding, .start, taken.rest⟩).1,
        (pump ⟨reader, BodyCompressor.start coding, .start, taken.rest⟩).2)) :
    P ((inspecting held : ResponseTranscoder C).transform (some coding) chunk) := by
  cases htake : Http.takeResponse (held ++ chunk) with
  | error error =>
    rw [transform_of_refused htake]
    exact ineligible
  | ok found =>
    cases found with
    | none =>
      rw [transform_of_incomplete htake]
      exact incomplete htake
    | some taken =>
      cases hplan : plan? taken.head with
      | none =>
        rw [transform_of_ineligible htake hplan]
        exact ineligible
      | some reader =>
        obtain ⟨hcompressible, hreader⟩ := plan?_eq_some.mp hplan
        obtain ⟨head, hrender⟩ := render?_recodedHead htake coding
        rw [transform_of_eligible htake hcompressible hreader hrender]
        exact eligible taken reader head htake hcompressible hreader hrender

end Inspecting

/-- Octets from the destination leave the transcoder settled. -/
theorem settled_transform {t : ResponseTranscoder C} (h : t.Settled)
    (coding : Option ContentCoding) (chunk : Bytes) : (t.transform coding chunk).2.Settled := by
  cases t with
  | passthrough => trivial
  | encoding e => exact settled_pump (by exact h.writer) (by exact h.sound)
  | inspecting held =>
    cases coding with
    | none => trivial
    | some coding =>
      refine transform_inspecting_cases (P := fun result => result.2.Settled) ?_ ?_ ?_
      · exact id
      · trivial
      · intro taken reader head _ _ hreader _
        exact settled_pump rfl (BodyReader.sound_ofResponse hreader)

/-- A transcoder that has finished lets through what follows. -/
theorem finish_snd (t : ResponseTranscoder C) : t.finish.2 = .passthrough := by
  cases t with
  | passthrough => rfl
  | inspecting held => rfl
  | encoding e => rfl

end ResponseTranscoder

end RelayTunnel.Transcode
