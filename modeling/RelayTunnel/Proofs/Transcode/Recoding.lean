import RelayTunnel.Proofs.Compression.Lossless
import RelayTunnel.Proofs.Transcode.Calls

/-!
# Responses that are recoded

What a destination sends is cut into pieces in any way, and every piece may end inside the head, inside
framing or inside payload. While the head is incomplete nothing goes out; then the recoded head does,
and from there on each piece is drained, compressed and framed until the body is over
(`relayed_pump`). Put together, the frames hold one compressed stream whose text is the payload
(`relayed_reads_back`).
-/

set_option autoImplicit false

namespace RelayTunnel.Transcode

open Compression (BodyCompressor ContentCoding)
open Http (BodyReader)

variable {C : Type} [BodyCompressor C]

/-- What goes to the relay for octets that arrive in pieces and for the end of the connection. -/
def relayed (d : Duplex C) (pieces : List Bytes) : Bytes :=
  (d.run (pieces.map .transform ++ [.finish])).1

/-- At the end of the connection the transcoder finishes. -/
theorem relayed_nil (d : Duplex C) : relayed d [] = d.finish.1 := by
  rw [relayed, List.map_nil, List.nil_append, Duplex.run_singleton]
  rfl

/-- Pieces are transformed one after the other. -/
theorem relayed_cons (d : Duplex C) (piece : Bytes) (pieces : List Bytes) :
    relayed d (piece :: pieces) = (d.transform piece).1 ++ relayed (d.transform piece).2 pieces := by
  rw [relayed, List.map_cons, List.cons_append, Duplex.run_cons]
  rfl

/-- A transcoder that lets everything through relays the pieces as they come. -/
theorem relayed_passthrough (requests : RequestInspector) (pieces : List Bytes) :
    relayed (⟨requests, .passthrough⟩ : Duplex C) pieces = pieces.flatten := by
  induction pieces with
  | nil => rfl
  | cons piece pieces ih =>
    rw [relayed_cons, List.flatten_cons]
    exact congrArg (piece ++ ·) ih

/-- A body that stops in what has come in. -/
theorem relayed_pump_of_stopped {e : Encoding C} (hwriter : e.writer = .start)
    (hsound : e.reader.Sound) (hstop : (e.reader.drain e.pending).stop ≠ .starved)
    (requests : RequestInspector) (pieces : List Bytes) :
    ∃ chunks : List Bytes,
      (ResponseTranscoder.pump e).1 ++ relayed ⟨requests, (ResponseTranscoder.pump e).2⟩ pieces =
        framed (BodyCompressor.outputs e.compressor chunks) ++ Http.lastChunk
          ++ (e.reader.absorb (e.pending ++ pieces.flatten)).rest ∧
      chunks.flatten = (e.reader.absorb (e.pending ++ pieces.flatten)).payload := by
  have habsorbed := BodyReader.absorbed_drain hsound e.pending
  have hstop' : (e.reader.absorb e.pending).stop ≠ .starved := by
    rwa [← habsorbed]
  rw [ResponseTranscoder.pump_of_stopped hwriter hstop, relayed_passthrough,
    BodyReader.absorb_append_of_stopped hstop', ← habsorbed]
  refine ⟨(e.reader.drain e.pending).chunks, ?_, rfl⟩
  simp only [Http.Drained.absorbed, List.append_assoc]

/-- A body that goes out from some point on: its chunks hold what the compressor makes of the payload
that follows, and what its reader does not take goes out behind them. -/
theorem relayed_pump {e : Encoding C} (hwriter : e.writer = .start) (hsound : e.reader.Sound)
    (requests : RequestInspector) (pieces : List Bytes) :
    ∃ chunks : List Bytes,
      (ResponseTranscoder.pump e).1 ++ relayed ⟨requests, (ResponseTranscoder.pump e).2⟩ pieces =
        framed (BodyCompressor.outputs e.compressor chunks) ++ Http.lastChunk
          ++ (e.reader.absorb (e.pending ++ pieces.flatten)).rest ∧
      chunks.flatten = (e.reader.absorb (e.pending ++ pieces.flatten)).payload := by
  induction pieces generalizing e with
  | nil =>
    by_cases hstop : (e.reader.drain e.pending).stop = .starved
    · have habsorbed := BodyReader.absorbed_drain hsound e.pending
      have hrest : (e.reader.absorb e.pending).rest = [] := by
        rw [← habsorbed]
        exact BodyReader.buffer_drain_of_starved hsound hstop
      have hready := ResponseTranscoder.settled_pump hwriter hsound
      rw [ResponseTranscoder.pump_of_starved hwriter hsound hstop] at hready ⊢
      refine ⟨(e.reader.drain e.pending).chunks, ?_, ?_⟩
      · rw [relayed_nil, List.flatten_nil, List.append_nil, hrest, List.append_nil,
          BodyCompressor.outputs, framed_append, List.append_assoc]
        have hfinish := ResponseTranscoder.finish_of_ready hready
        exact congrArg (framed _ ++ ·) (congrArg Prod.fst hfinish)
      · rw [List.flatten_nil, List.append_nil, ← habsorbed]
        rfl
    · exact relayed_pump_of_stopped hwriter hsound hstop requests []
  | cons piece pieces ih =>
    by_cases hstop : (e.reader.drain e.pending).stop = .starved
    · have habsorbed := BodyReader.absorbed_drain hsound e.pending
      have hstarved : (e.reader.absorb e.pending).stop = .starved := by
        rwa [← habsorbed]
      have hreader : (e.reader.drain e.pending).reader.Sound := by
        have hkept := BodyReader.sound_absorb hsound e.pending
        rwa [← habsorbed] at hkept
      rw [ResponseTranscoder.pump_of_starved hwriter hsound hstop, relayed_cons]
      -- the next piece is all that is pending
      obtain ⟨chunks, hout, hpayload⟩ := ih (e := ⟨(e.reader.drain e.pending).reader,
        (BodyCompressor.writeAll e.compressor (e.reader.drain e.pending).chunks).2, .start,
        piece⟩) rfl hreader
      refine ⟨(e.reader.drain e.pending).chunks ++ chunks, ?_, ?_⟩
      · rw [BodyCompressor.outputs_append, framed_append, List.flatten_cons,
          BodyReader.absorb_append hstarved, ← habsorbed, List.append_assoc, List.append_assoc]
        refine congrArg (framed _ ++ ·) (hout.trans ?_)
        rw [List.append_assoc]
        rfl
      · rw [List.flatten_append, hpayload, List.flatten_cons, BodyReader.absorb_append hstarved,
          ← habsorbed]
        rfl
    · exact relayed_pump_of_stopped hwriter hsound hstop requests (piece :: pieces)

section Decided

variable {requests : RequestInspector} {coding : ContentCoding}
  {taken : Http.Taken Http.ResponseHead} {reader : BodyReader} {head : Bytes}

/-- While the head is incomplete nothing goes out. The call that completes it puts out the recoded head
and whatever the octets behind the head make, and the body goes out from there on. -/
theorem relayed_inspecting (hcoding : requests.coding? = some coding)
    (hcompressible : isCompressible taken.head = true)
    (hreader : BodyReader.ofResponse taken.head = .ok reader)
    (hrender : (recodedHead coding taken.head).render? = some head) {held : Bytes}
    (hheld : Http.takeResponse held = .ok none) {pieces : List Bytes}
    (htake : Http.takeResponse (held ++ pieces.flatten) = .ok (some taken)) :
    ∃ chunks : List Bytes,
      relayed (⟨requests, .inspecting held⟩ : Duplex C) pieces =
        head ++ (framed (BodyCompressor.outputs (BodyCompressor.start coding : C) chunks)
          ++ Http.lastChunk ++ (reader.absorb taken.rest).rest) ∧
      chunks.flatten = (reader.absorb taken.rest).payload := by
  induction pieces generalizing held with
  | nil =>
    rw [List.flatten_nil, List.append_nil, hheld] at htake
    cases htake
  | cons piece pieces ih =>
    rw [List.flatten_cons, ← List.append_assoc] at htake
    have htransform : ∀ result, (ResponseTranscoder.inspecting held : ResponseTranscoder C).transform
        (some coding) piece = result →
        relayed (⟨requests, .inspecting held⟩ : Duplex C) (piece :: pieces) =
          result.1 ++ relayed ⟨requests, result.2⟩ pieces := by
      rintro result rfl
      rw [relayed_cons, Duplex.transform, ← hcoding]
    rcases Http.takeResponse_front htake with hnone | ⟨rest, hrest, hsome⟩
    · rw [htransform _ (ResponseTranscoder.transform_of_incomplete hnone)]
      exact ih hnone htake
    · have hsound := BodyReader.sound_ofResponse hreader
      obtain ⟨chunks, hout, hpayload⟩ := relayed_pump (C := C)
        (e := ⟨reader, BodyCompressor.start coding, .start, rest⟩) rfl hsound requests pieces
      rw [htransform _ (ResponseTranscoder.transform_of_eligible hsome hcompressible hreader hrender)]
      refine ⟨chunks, ?_, ?_⟩
      · rw [List.append_assoc, hrest]
        exact congrArg (head ++ ·) hout
      · rw [hrest]
        exact hpayload

end Decided

/-- A compressible response is recoded correctly. For every way of cutting what the destination sends
into pieces, the recoded head goes out, then chunks, the last chunk, and what the body reader leaves
unread behind the end of the body or behind a fault. What is in the chunks reads back as the payload
that the body reader finds behind the head, up to the end of the body, the first fault or the end of
what was sent. The only thing required of the compressor is that bodies can be read back. -/
theorem relayed_reads_back {C : Type} [BodyCompressor C]
    {read? : ContentCoding → Bytes → Option Bytes} (hlossless : BodyCompressor.IsLossless C read?)
    {requests : RequestInspector} {coding : ContentCoding}
    (hcoding : requests.coding? = some coding) {pieces : List Bytes}
    {taken : Http.Taken Http.ResponseHead}
    (htake : Http.takeResponse pieces.flatten = .ok (some taken))
    (hcompressible : isCompressible taken.head = true) {reader : BodyReader}
    (hreader : BodyReader.ofResponse taken.head = .ok reader) :
    ∃ (head : Bytes) (frames : List Bytes), (recodedHead coding taken.head).render? = some head ∧
      (∀ frame ∈ frames, frame ≠ []) ∧
      relayed (⟨requests, .start⟩ : Duplex C) pieces =
        head ++ frames.flatMap Http.chunkFrame ++ Http.lastChunk
          ++ (reader.drain taken.rest).buffer ∧
      read? coding frames.flatten = some (reader.drain taken.rest).chunks.flatten ∧
      ((reader.drain taken.rest).stop = .starved → (reader.drain taken.rest).buffer = []) := by
  have hsound := BodyReader.sound_ofResponse hreader
  have habsorbed := BodyReader.absorbed_drain hsound taken.rest
  obtain ⟨head, hrender⟩ := ResponseTranscoder.render?_recodedHead htake coding
  have hnothing : Http.takeResponse [] = .ok none := rfl
  obtain ⟨chunks, hout, hpayload⟩ :=
    relayed_inspecting (C := C) hcoding hcompressible hreader hrender hnothing htake
  rw [← habsorbed] at hout hpayload
  refine ⟨head, (BodyCompressor.outputs (BodyCompressor.start coding : C) chunks).filter
    (!·.isEmpty), hrender, ?_, ?_, ?_, BodyReader.buffer_drain_of_starved hsound⟩
  · intro frame hframe hempty
    rw [hempty] at hframe
    simp at hframe
  · rw [List.append_assoc, List.append_assoc]
    rw [List.append_assoc] at hout
    exact hout
  · -- leaving out empty pieces leaves the compressed stream as it is
    rw [List.flatten_filter_not_isEmpty, hlossless coding chunks, hpayload]
    rfl

/-- A short response with an octet behind its body. -/
def shortResponse : Bytes :=
  Ascii.bytes "HTTP/1.1 200 OK\r\nContent-Type: text/css\r\nContent-Length: 2\r\n\r\nhi!"

/-- The short response, cut inside its head and inside its body. -/
theorem shortResponse_reads_back :
    ∃ taken reader, ∃ (head : Bytes) (frames : List Bytes),
      Http.takeResponse shortResponse = .ok (some taken) ∧
      BodyReader.ofResponse taken.head = .ok reader ∧
      (recodedHead .gzip taken.head).render? = some head ∧
      relayed (⟨.decided (some .gzip), .start⟩ : Duplex)
          [shortResponse.take 20, (shortResponse.drop 20).take 42, (shortResponse.drop 20).drop 42] =
        head ++ frames.flatMap Http.chunkFrame ++ Http.lastChunk
          ++ (reader.drain taken.rest).buffer ∧
      Compression.decompress? .gzip frames.flatten =
        some (reader.drain taken.rest).chunks.flatten := by
  have hpieces : [shortResponse.take 20, (shortResponse.drop 20).take 42,
      (shortResponse.drop 20).drop 42].flatten = shortResponse := by
    simp only [List.flatten_cons, List.flatten_nil, List.append_nil, List.take_append_drop]
  have heligible : ((Http.takeResponse shortResponse).toOption.bind fun found => found.bind
      fun taken => ResponseTranscoder.plan? taken.head).isSome = true := by
    decide +kernel
  cases htake : Http.takeResponse shortResponse with
  | error error => rw [htake] at heligible; cases heligible
  | ok found =>
    cases found with
    | none => rw [htake] at heligible; cases heligible
    | some taken =>
      rw [htake] at heligible
      obtain ⟨reader, hplan⟩ := Option.isSome_iff_exists.mp heligible
      obtain ⟨hcompressible, hreader⟩ := ResponseTranscoder.plan?_eq_some.mp hplan
      have hcoding : (RequestInspector.decided (some .gzip)).coding? = some .gzip := rfl
      obtain ⟨head, frames, hrender, _, hout, hread, _⟩ :=
        relayed_reads_back Compression.Compressor.isLossless hcoding (hpieces.symm ▸ htake)
          hcompressible hreader
      exact ⟨taken, reader, head, frames, rfl, hreader, hrender, hout, hread⟩

end RelayTunnel.Transcode
