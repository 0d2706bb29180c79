import RelayTunnel.Proofs.Http.BodySessions
import RelayTunnel.Proofs.Transcode.Calls

/-!
# The rounds of a call

A call that has a body to compress goes round a loop: the reader is asked for an item, a piece of payload is
compressed, and what comes of it is framed. `Work` is what the loop holds at the start of a round. The
compressor is gone once its stream has been ended, and a piece of payload that came up then would be lost.

`Work.Live` rules this out: the compressor is there and the chunked body is open. A live work is live in every
round (`Rounds.live`), and each round that is followed by another takes octets out of the pending ones
(`Live.again`), so the loop ends. What the loop does is what draining first and compressing then
does (`loop_eq`), and so it is what `pump` and `finish` do (`loop_of_encoding`, `loop_of_close`).
-/

set_option autoImplicit false

namespace RelayTunnel.Http.BodyReader

variable {r : BodyReader} {closed : Bool} {buffer : Bytes}

/-- Yields chunks for as long as the buffer allows, on a connection that may have been closed. -/
def drained (r : BodyReader) (closed : Bool) (buffer : Bytes) : Drained BodyReader :=
  if closed then r.drainLast buffer else r.drain buffer

/-- To drain is to answer again and again, and to stop where the answer is no chunk. -/
theorem drained_eq (r : BodyReader) (closed : Bool) (buffer : Bytes) :
    r.drained closed buffer =
      match (r.reply closed buffer).item with
      | .ok (some (.chunk data)) =>
          ((r.reply closed buffer).reader.drained closed (r.reply closed buffer).buffer).cons data
      | .ok (some .eof) => ⟨[], .ended, (r.reply closed buffer).reader, (r.reply closed buffer).buffer⟩
      | .ok none => ⟨[], .starved, (r.reply closed buffer).reader, (r.reply closed buffer).buffer⟩
      | .error e => ⟨[], .failed e, (r.reply closed buffer).reader, (r.reply closed buffer).buffer⟩ := by
  cases closed with
  | false =>
    simp only [drained, reply, Bool.false_eq_true, if_false]
    rw [drain, drainWith]
    split <;> simp_all
  | true =>
    simp only [drained, reply, if_true]
    rw [drainLast, drainWith]
    split <;> simp_all

/-- A chunk makes the reader lighter. -/
theorem weight_reply_lt {data : Bytes} (h : (r.reply closed buffer).item = .ok (some (.chunk data))) :
    (r.reply closed buffer).reader.weight (r.reply closed buffer).buffer < r.weight buffer := by
  cases closed with
  | false => exact weight_read_lt r buffer data h
  | true =>
    have hread := readLast_of_chunk r buffer data h
    simp only [reply, if_true] at h ⊢
    rw [hread] at h ⊢
    exact weight_read_lt r buffer data h

/-- A reader that waits for more has not come to the end of the body. -/
theorem isOver_of_reply_none (h : r.Sound) (hitem : (r.reply closed buffer).item = .ok none) :
    (r.reply closed buffer).reader.isOver = false ∧ (r.reply closed buffer).buffer = [] := by
  rcases reply_cases r closed buffer with ⟨heq, -⟩ | ⟨-, -, -, heq⟩ | ⟨-, -, -, heq⟩
  · rw [heq] at hitem ⊢
    have hread := absorb_read h buffer
    rw [hitem] at hread
    have hstarved : (r.absorb buffer).stop = .starved := by rw [hread]
    have hover := isOver_absorb_of_starved hstarved
    have hrest := rest_absorb_of_starved hstarved
    rw [hread] at hover hrest
    exact ⟨hover, hrest⟩
  · rw [heq] at hitem
    cases hitem
  · rw [heq] at hitem
    cases hitem

/-- There is nothing to take out of an empty buffer. -/
theorem buffer_reply_nil (h : r.Sound) (closed : Bool) : (r.reply closed []).buffer = [] := by
  have hread : (r.read []).buffer = [] := by
    have habsorb := absorb_read h []
    rw [absorb] at habsorb
    split at habsorb
    · next data hitem => exact absurd hitem (item_read_nil r data)
    · exact (Absorbed.mk.inj habsorb).2.2.2.symm
    · exact (Absorbed.mk.inj habsorb).2.2.2.symm
    · exact (Absorbed.mk.inj habsorb).2.2.2.symm
  rcases reply_cases r closed [] with ⟨heq, -⟩ | ⟨-, -, -, heq⟩ | ⟨-, -, -, heq⟩
  · rwa [heq]
  · rw [heq]
  · rwa [heq]

end RelayTunnel.Http.BodyReader

namespace RelayTunnel.Transcode

open Compression (BodyCompressor)
open Http (BodyReader ChunkWriter PayloadItem)

/-! ## Parts -/

/-- A part of what goes to the relay. -/
inductive Part where
  /-- The head of a response that is compressed. -/
  | head (head : Http.ResponseHead)
  /-- A chunk of the compressed body. -/
  | chunk (data : Bytes)
  /-- The end of the compressed body. -/
  | lastChunk
  /-- Octets as they came from the destination. -/
  | verbatim (octets : Bytes)

def Part.octets : Part → Bytes
  | .head h => h.render?.getD []
  | .chunk data => Http.chunkFrame data
  | .lastChunk => Http.lastChunk
  | .verbatim octets => octets

/-- The octets of parts that go out one after the other. -/
def octets (parts : List Part) : Bytes := parts.flatMap Part.octets

/-- No parts have no octets. -/
@[simp] theorem octets_nil : octets [] = [] := rfl

/-- The octets of the first part stand in front. -/
@[simp] theorem octets_cons (part : Part) (parts : List Part) :
    octets (part :: parts) = part.octets ++ octets parts := List.flatMap_cons

/-- The octets of two rows of parts stand one behind the other. -/
@[simp] theorem octets_append (front behind : List Part) :
    octets (front ++ behind) = octets front ++ octets behind := List.flatMap_append

/-- The parts that a writer makes of an item. -/
def partsOf (writer : ChunkWriter) (item : PayloadItem) : List Part :=
  if writer.finished then []
  else match item with
    | .chunk data => if data.isEmpty then [] else [.chunk data]
    | .eof => [.lastChunk]

/-- Compressed pieces as parts: each piece that is not empty is a chunk. -/
def chunkParts (pieces : List Bytes) : List Part := (pieces.filter (!·.isEmpty)).map .chunk

/-- Chunks have the octets of their frames. -/
theorem octets_chunkParts (pieces : List Bytes) : octets (chunkParts pieces) = framed pieces := by
  rw [octets, chunkParts, framed, List.flatMap_map]
  rfl

/-- No pieces are no chunks. -/
@[simp] theorem chunkParts_nil : chunkParts [] = [] := rfl

/-- Two rows of pieces are chunks one behind the other. -/
theorem chunkParts_append (front behind : List Bytes) :
    chunkParts (front ++ behind) = chunkParts front ++ chunkParts behind := by
  simp [chunkParts]

/-- A writer makes one chunk of a piece, or none of an empty one. -/
theorem partsOf_start_chunk (data : Bytes) : partsOf .start (.chunk data) = chunkParts [data] := by
  cases data <;> rfl

def Part.isHead : Part → Bool
  | .head _ => true
  | _ => false

def Part.isLastChunk : Part → Bool
  | .lastChunk => true
  | _ => false

/-- Among chunks there is no head. -/
@[simp] theorem countP_isHead_chunkParts (pieces : List Bytes) :
    (chunkParts pieces).countP Part.isHead = 0 := by
  simp [chunkParts, List.countP_eq_zero, Part.isHead]

/-- Nor is there a last chunk. -/
@[simp] theorem countP_isLastChunk_chunkParts (pieces : List Bytes) :
    (chunkParts pieces).countP Part.isLastChunk = 0 := by
  simp [chunkParts, List.countP_eq_zero, Part.isLastChunk]

/-- Among octets that are let through there is no head. -/
@[simp] theorem countP_isHead_verbatim (passed : List Bytes) :
    passed.countP (Part.isHead ∘ .verbatim) = 0 := by
  simp [List.countP_eq_zero, Part.isHead]

/-- Nor is there a last chunk. -/
@[simp] theorem countP_isLastChunk_verbatim (passed : List Bytes) :
    passed.countP (Part.isLastChunk ∘ .verbatim) = 0 := by
  simp [List.countP_eq_zero, Part.isLastChunk]

/-! ## One round -/

/-- An encoding at the start of a round. -/
structure Work (C : Type) where
  /-- Whether the destination has closed. -/
  closed : Bool
  reader : BodyReader
  /-- None once the compressed stream has been ended. -/
  compressor : Option C
  writer : ChunkWriter
  pending : Bytes

/-- How a round ends. -/
inductive Outcome (C : Type) where
  /-- A piece of payload has been compressed, and another round follows. -/
  | again (parts : List Part) (w : Work C)
  /-- Nothing can be read until more octets come. -/
  | waiting (w : Work C)
  /-- The body is over or its framing is broken, and the compressed body has been ended. -/
  | finished (parts : List Part) (w : Work C)

namespace Work

variable {C : Type}

/-- The work that a call has with an encoding. -/
def ofEncoding (closed : Bool) (e : Encoding C) : Work C :=
  ⟨closed, e.reader, some e.compressor, e.writer, e.pending⟩

/-- How the loop of a call leaves the transcoder: it goes on with what the loop was left waiting with, or
everything that comes from then on passes through. -/
inductive Leaves : Option (Work C) → ResponseTranscoder C → Prop
  | waiting (e : Encoding C) : Leaves (some (ofEncoding false e)) (.encoding e)
  | finished : Leaves none .passthrough

/-- What the reader answers in a round. -/
def asked (w : Work C) : Http.Reply BodyReader := w.reader.reply w.closed w.pending

/-- The work once the reader has answered. -/
def read (w : Work C) : Work C := { w with reader := w.asked.reader, pending := w.asked.buffer }

/-- What becomes of octets that are left when the response is over: they go out as they are, unless the
destination has closed. -/
def leave (w : Work C) : List Part := if w.closed then [] else [.verbatim w.pending]

/-- The compressor is there and the chunked body is open. -/
structure Live (w : Work C) : Prop where
  sound : w.reader.Sound
  compressor : w.compressor.isSome = true
  writer : w.writer = .start

namespace Live

variable {w : Work C}

/-- The work has a compressor, and its chunked body is open. -/
theorem exists_eq (h : w.Live) : ∃ c, w = ⟨w.closed, w.reader, some c, .start, w.pending⟩ := by
  obtain ⟨closed, reader, compressor, writer, pending⟩ := w
  obtain ⟨-, hcompressor, hwriter⟩ := h
  obtain ⟨c, rfl⟩ := Option.isSome_iff_exists.mp hcompressor
  obtain rfl : writer = .start := hwriter
  exact ⟨c, rfl⟩

/-- An encoding between two calls makes such work. -/
theorem of_encoding (closed : Bool) {e : Encoding C} (hsound : e.reader.Sound)
    (hwriter : e.writer = .start) : (ofEncoding closed e).Live :=
  ⟨hsound, rfl, hwriter⟩

/-- So does reading. -/
theorem read (h : w.Live) : w.read.Live :=
  ⟨BodyReader.sound_reply h.sound w.closed w.pending, h.compressor, h.writer⟩

end Live

variable [BodyCompressor C]

/-- Compresses a piece of payload and frames what comes out of it. Without a compressor the piece is
lost. -/
def compress (w : Work C) (data : Bytes) : List Part × Work C :=
  match w.compressor with
  | none => ([], w)
  | some c =>
      let (compressed, c) := BodyCompressor.write c data
      (partsOf w.writer (.chunk compressed),
        { w with compressor := some c, writer := (w.writer.write (.chunk compressed)).2 })

/-- Ends the compressed stream, if it has not been ended, and the chunked body around it. -/
def close (w : Work C) : List Part × Work C :=
  let (tail, writer) :=
    match w.compressor with
    | none => ([], w.writer)
    | some c =>
        let tail := PayloadItem.chunk (BodyCompressor.finish c)
        (partsOf w.writer tail, (w.writer.write tail).2)
  (tail ++ partsOf writer .eof, { w with compressor := none, writer := (writer.write .eof).2 })

/-- One round of the loop. -/
def round (w : Work C) : Outcome C :=
  match w.asked.item with
  | .ok (some (.chunk data)) => .again (w.read.compress data).1 (w.read.compress data).2
  | .ok (some .eof) | .error _ => .finished w.read.close.1 w.read.close.2
  | .ok none => if w.closed then .finished w.read.close.1 w.read.close.2 else .waiting w.read

variable {w w' w'' : Work C} {parts more : List Part} {n : Nat}

/-- Another round follows a chunk. -/
theorem again_of_round (h : w.round = .again parts w') :
    ∃ data, w.asked.item = .ok (some (.chunk data)) ∧ w.read.compress data = (parts, w') := by
  unfold round at h
  split at h
  · next data hitem =>
    cases h
    exact ⟨data, hitem, rfl⟩
  · cases h
  · cases h
  · split at h <;> cases h

/-- The loop waits where nothing can be read, on a connection that is open. -/
theorem waiting_of_round (h : w.round = .waiting w') :
    w.asked.item = .ok none ∧ w.closed = false ∧ w' = w.read := by
  unfold round at h
  split at h
  · cases h
  · cases h
  · cases h
  · next hitem =>
    split at h
    · cases h
    · next hopen =>
      cases h
      exact ⟨hitem, by simpa using hopen, rfl⟩

/-- Otherwise the round closes the body. -/
theorem finished_of_round (h : w.round = .finished parts w') : w.read.close = (parts, w') := by
  unfold round at h
  split at h
  · cases h
  · cases h
    rfl
  · cases h
    rfl
  · split at h
    · cases h
      rfl
    · cases h

/-- To compress a piece of payload changes the compressor and the writer only. -/
theorem compress_keeps (w : Work C) (data : Bytes) :
    (w.compress data).2.closed = w.closed ∧ (w.compress data).2.reader = w.reader ∧
      (w.compress data).2.pending = w.pending := by
  unfold compress
  split <;> exact ⟨rfl, rfl, rfl⟩

/-- To close takes nothing off the buffer. -/
theorem pending_close (w : Work C) : w.close.2.pending = w.pending := rfl

/-- A piece of payload is compressed and goes out as a chunk. -/
theorem compress_eq (closed : Bool) (reader : BodyReader) (c : C) (pending data : Bytes) :
    (⟨closed, reader, some c, .start, pending⟩ : Work C).compress data =
      (chunkParts [(BodyCompressor.write c data).1],
        ⟨closed, reader, some (BodyCompressor.write c data).2, .start, pending⟩) := by
  unfold compress
  rw [← partsOf_start_chunk]
  rfl

/-- The rest of the compressed stream goes out, and then the last chunk. -/
theorem close_eq (closed : Bool) (reader : BodyReader) (c : C) (pending : Bytes) :
    (⟨closed, reader, some c, .start, pending⟩ : Work C).close =
      (chunkParts [BodyCompressor.finish c] ++ [.lastChunk],
        ⟨closed, reader, none, ⟨true⟩, pending⟩) := by
  unfold close
  rw [← partsOf_start_chunk]
  rfl

namespace Live

/-- To compress keeps the body open and sends chunks only. -/
theorem compress (h : w.Live) (data : Bytes) :
    (w.compress data).2.Live ∧ ∃ pieces, (w.compress data).1 = chunkParts pieces := by
  obtain ⟨c, hw⟩ := h.exists_eq
  rw [hw, compress_eq]
  exact ⟨⟨h.sound, rfl, rfl⟩, _, rfl⟩

/-- A round that another round follows leaves the work live, sends nothing but chunks, and takes octets out
of the pending ones. -/
theorem again (h : w.Live) (hround : w.round = .again parts w') :
    w'.Live ∧ w'.closed = w.closed ∧ w'.pending.length < w.pending.length ∧
      ∃ pieces, parts = chunkParts pieces := by
  obtain ⟨data, hitem, hcompress⟩ := again_of_round hround
  obtain ⟨hlive, hpieces⟩ := h.read.compress data
  have hkeeps := compress_keeps w.read data
  rw [hcompress] at hlive hpieces hkeeps
  obtain ⟨hclosed, -, hpending⟩ := hkeeps
  refine ⟨hlive, hclosed, ?_, hpieces⟩
  rw [hpending]
  exact (BodyReader.chunk_of_reply h.sound hitem).2

/-- A work that waits is live, has nothing pending, and its body is not over. -/
theorem waiting (h : w.Live) (hround : w.round = .waiting w') :
    w'.Live ∧ w'.closed = false ∧ w'.pending = [] ∧ w'.reader.isOver = false := by
  obtain ⟨hitem, hopen, rfl⟩ := waiting_of_round hround
  obtain ⟨hover, hpending⟩ := BodyReader.isOver_of_reply_none h.sound hitem
  exact ⟨h.read, hopen, hpending, hover⟩

end Live

/-! ## The loop -/

/-- Rounds that follow one another: how many there are, what goes out in them, and the work behind them. -/
inductive Rounds : Work C → Nat → List Part → Work C → Prop
  | none {w : Work C} : Rounds w 0 [] w
  | next {w w' w'' : Work C} {n : Nat} {first parts : List Part} :
      w.round = .again first w' → Rounds w' n parts w'' → Rounds w (n + 1) (first ++ parts) w''

/-- Another round has less to read. -/
theorem weight_lt_of_again (h : w.round = .again parts w') :
    w'.reader.weight w'.pending < w.reader.weight w.pending := by
  obtain ⟨data, hitem, hcompress⟩ := again_of_round h
  have hkeeps := compress_keeps w.read data
  rw [hcompress] at hkeeps
  obtain ⟨-, hreader, hpending⟩ := hkeeps
  rw [hreader, hpending]
  exact BodyReader.weight_reply_lt hitem

/-- All that goes out in the loop, and the work if it is left waiting. -/
def loop (w : Work C) : List Part × Option (Work C) :=
  match _h : w.round with
  | .again parts w' => (parts ++ w'.loop.1, w'.loop.2)
  | .waiting w' => ([], some w')
  | .finished parts w' => (parts ++ w'.leave, none)
  termination_by w.reader.weight w.pending
  decreasing_by all_goals exact weight_lt_of_again _h

/-- The loop goes on behind a round. -/
theorem loop_of_again (h : w.round = .again parts w') : w.loop = (parts ++ w'.loop.1, w'.loop.2) := by
  rw [loop]
  split <;> simp_all

/-- The loop ends where it waits. -/
theorem loop_of_waiting (h : w.round = .waiting w') : w.loop = ([], some w') := by
  rw [loop]
  split <;> simp_all

/-- The loop ends with the body. -/
theorem loop_of_finished (h : w.round = .finished parts w') : w.loop = (parts ++ w'.leave, none) := by
  rw [loop]
  split <;> simp_all

namespace Rounds

/-- What is left of the loop behind some of its rounds. -/
theorem loop (h : Rounds w n parts w') : w.loop = (parts ++ w'.loop.1, w'.loop.2) := by
  induction h with
  | none => rfl
  | next hround _ ih => rw [loop_of_again hround, ih, List.append_assoc]

/-- A live work is live in every round, sends nothing but chunks, and every round has taken an octet at
least. -/
theorem live (h : Rounds w n parts w') (hlive : w.Live) :
    w'.Live ∧ w'.closed = w.closed ∧ n + w'.pending.length ≤ w.pending.length ∧
      ∃ pieces, parts = chunkParts pieces := by
  induction h with
  | none => exact ⟨hlive, rfl, by omega, [], rfl⟩
  | next hround _ ih =>
    obtain ⟨hnext, hclosed, hshorter, first, rfl⟩ := hlive.again hround
    obtain ⟨hlast, hstill, hbound, rest, rfl⟩ := ih hnext
    refine ⟨hlast, hstill.trans hclosed, by omega, first ++ rest, ?_⟩
    rw [chunkParts_append]

end Rounds

/-- The loop comes to a round that no other follows. -/
theorem exists_last_round (w : Work C) :
    ∃ n parts w', Rounds w n parts w' ∧ ∀ more w'', w'.round ≠ .again more w'' := by
  -- by what `loop` ends: the weight of the reader over the pending octets
  induction hweight : w.reader.weight w.pending using Nat.strongRecOn generalizing w with
  | ind weight ih =>
    cases hround : w.round with
    | again parts w' =>
      have hlighter := weight_lt_of_again hround
      obtain ⟨n, rest, w'', hrounds, hlast⟩ := ih _ (by omega) w' rfl
      exact ⟨n + 1, parts ++ rest, w'', .next hround hrounds, hlast⟩
    | waiting w' => exact ⟨0, [], w, .none, by simp [hround]⟩
    | finished parts w' => exact ⟨0, [], w, .none, by simp [hround]⟩

section Reading

variable {closed : Bool} {reader : BodyReader} {c : C} {pending : Bytes}

/-- A chunk is compressed. -/
theorem round_of_chunk {data : Bytes}
    (hitem : (reader.reply closed pending).item = .ok (some (.chunk data))) :
    (⟨closed, reader, some c, .start, pending⟩ : Work C).round =
      .again (chunkParts [(BodyCompressor.write c data).1])
        ⟨closed, (reader.reply closed pending).reader, some (BodyCompressor.write c data).2, .start,
          (reader.reply closed pending).buffer⟩ := by
  simp only [round, asked, read, hitem, compress_eq]

/-- Nothing yet is waited for. -/
theorem round_of_none (hitem : (reader.reply false pending).item = .ok none) :
    (⟨false, reader, some c, .start, pending⟩ : Work C).round =
      .waiting ⟨false, (reader.reply false pending).reader, some c, .start,
        (reader.reply false pending).buffer⟩ := by
  simp [round, asked, read, hitem]

/-- Anything else closes the body. -/
theorem round_of_stop (hchunk : ∀ data, (reader.reply closed pending).item ≠ .ok (some (.chunk data)))
    (hnone : (reader.reply closed pending).item = .ok none → closed = true) :
    (⟨closed, reader, some c, .start, pending⟩ : Work C).round =
      .finished (chunkParts [BodyCompressor.finish c] ++ [.lastChunk])
        ⟨closed, (reader.reply closed pending).reader, none, ⟨true⟩,
          (reader.reply closed pending).buffer⟩ := by
  unfold round
  simp only [asked, read, close_eq]
  split
  · next data hitem => exact absurd hitem (hchunk data)
  · rfl
  · rfl
  · next hitem => rw [if_pos (hnone hitem)]

/-- What goes out when all that draining yields is compressed then, and the work if it is left waiting. -/
def ofDrained (closed : Bool) (c : C) (d : Http.Drained BodyReader) : List Part × Option (Work C) :=
  if d.stop = .starved ∧ closed = false then
    (chunkParts (BodyCompressor.writeAll c d.chunks).1,
      some ⟨closed, d.reader, some (BodyCompressor.writeAll c d.chunks).2, .start, d.buffer⟩)
  else
    (chunkParts (BodyCompressor.outputs c d.chunks) ++ [.lastChunk]
      ++ if closed then [] else [.verbatim d.buffer], none)

/-- A chunk that was drained is compressed in front of the rest. -/
theorem ofDrained_cons (data : Bytes) (d : Http.Drained BodyReader) :
    ofDrained closed c (d.cons data) =
      (chunkParts [(BodyCompressor.write c data).1]
        ++ (ofDrained closed (BodyCompressor.write c data).2 d).1,
        (ofDrained closed (BodyCompressor.write c data).2 d).2) := by
  unfold ofDrained Http.Drained.cons
  split
  · rw [← chunkParts_append, BodyCompressor.writeAll_cons]
    rfl
  · simp only [BodyCompressor.outputs, BodyCompressor.writeAll_cons, ← List.append_assoc,
      ← chunkParts_append]
    rfl

/-- Where draining stops, the body is closed. -/
theorem ofDrained_of_stop {d : Http.Drained BodyReader} (hchunks : d.chunks = [])
    (hstop : d.stop = .starved → closed = true) :
    ofDrained closed c d =
      (chunkParts [BodyCompressor.finish c] ++ [.lastChunk]
        ++ if closed then [] else [.verbatim d.buffer], none) := by
  unfold ofDrained
  rw [if_neg fun h => by simp [hstop h.1] at h, hchunks]
  rfl

/-- Going round the loop comes to the same as reading first and compressing then. -/
theorem loop_eq (closed : Bool) (reader : BodyReader) (c : C) (pending : Bytes) :
    (⟨closed, reader, some c, .start, pending⟩ : Work C).loop =
      ofDrained closed c (reader.drained closed pending) := by
  induction hweight : reader.weight pending using Nat.strongRecOn generalizing reader c pending with
  | ind weight ih =>
    have hdrained := reader.drained_eq closed pending
    -- another round follows behind a chunk, the loop waits for more, or it comes to its end
    by_cases hchunk : ∃ data, (reader.reply closed pending).item = .ok (some (.chunk data))
    · obtain ⟨data, hitem⟩ := hchunk
      have hlighter := BodyReader.weight_reply_lt hitem
      simp only [hitem] at hdrained
      rw [loop_of_again (round_of_chunk hitem), ih _ (by omega) _ _ _ rfl, hdrained, ofDrained_cons]
    · have hstop : ∀ data, (reader.reply closed pending).item ≠ .ok (some (.chunk data)) := by
        simpa using hchunk
      by_cases hwaits : (reader.reply closed pending).item = .ok none ∧ closed = false
      · obtain ⟨hitem, rfl⟩ := hwaits
        simp only [hitem] at hdrained
        rw [loop_of_waiting (round_of_none hitem), hdrained]
        simp [ofDrained]
      · have hnone : (reader.reply closed pending).item = .ok none → closed = true := by
          simpa using hwaits
        rw [loop_of_finished (round_of_stop hstop hnone), hdrained]
        split
        · next data hitem => exact absurd hitem (hstop data)
        · rw [ofDrained_of_stop rfl (by simp)]
          rfl
        · next hitem =>
          rw [ofDrained_of_stop rfl fun _ => hnone hitem]
          rfl
        · rw [ofDrained_of_stop rfl (by simp)]
          rfl

end Reading

/-- In no round is payload lost or the end of the chunked body passed, and a round that another follows takes
octets out of the pending ones. -/
def Careful (w : Work C) : Prop :=
  ∀ n parts w', Rounds w n parts w' →
    w'.compressor.isSome = true ∧ w'.writer.finished = false ∧
    ∀ more w'', w'.round = .again more w'' → w''.pending.length < w'.pending.length

/-- Work that goes on is careful. -/
theorem Live.careful (h : w.Live) : w.Careful := by
  intro n parts w' hrounds
  obtain ⟨hlive, -, -, -⟩ := hrounds.live h
  refine ⟨hlive.compressor, ?_, ?_⟩
  · rw [hlive.writer]
    rfl
  · intro more w'' hround
    exact (hlive.again hround).2.2.1

/-- How a loop comes to its end, and what the call gives that goes round it: the loop is left waiting with an
encoding, or the response is over, and octets that are left go out behind it. If the destination has closed,
the first round finds nothing to compress and nothing is left. -/
inductive Ends (lead : List Part) (w : Work C) : Bytes × ResponseTranscoder C → Prop
  | waiting {n : Nat} {parts : List Part} {w' : Work C} {e : Encoding C} :
      Rounds w n parts w' → w'.round = .waiting (ofEncoding false e) →
      Ends lead w (octets (lead ++ parts), .encoding e)
  | finished {n : Nat} {parts more : List Part} {w' w'' : Work C} :
      Rounds w n parts w' → w'.round = .finished more w'' →
      (w.closed = true → n = 0 ∧ w''.pending = []) →
      Ends lead w (octets (lead ++ parts ++ more ++ w''.leave), .passthrough)

/-- Where nothing is left to read, nothing is left at the end. -/
theorem Live.pending_finished (h : w.Live) (hpending : w.pending = []) (hround : w.round = .finished parts w') :
    w'.pending = [] := by
  have hclose := finished_of_round hround
  have hkept := pending_close w.read
  rw [hclose] at hkept
  rw [hkept, Work.read, asked, hpending]
  exact BodyReader.buffer_reply_nil h.sound w.closed

/-- The loop of a live work comes to its end. -/
theorem ends_of_live (h : w.Live) (hclosed : w.closed = true → w.pending = []) {lead : List Part}
    {t : ResponseTranscoder C} (hleaves : Leaves w.loop.2 t) :
    Ends lead w (octets (lead ++ w.loop.1), t) := by
  obtain ⟨n, parts, last, hrounds, hlast⟩ := exists_last_round w
  obtain ⟨hlive, -, hbound, -⟩ := hrounds.live h
  rw [hrounds.loop] at hleaves ⊢
  cases hround : last.round with
  | again more w' => exact absurd hround (hlast more w')
  | waiting w' =>
    rw [loop_of_waiting hround] at hleaves ⊢
    obtain ⟨e⟩ := hleaves
    rw [List.append_nil]
    exact .waiting hrounds hround
  | finished more w' =>
    rw [loop_of_finished hround] at hleaves ⊢
    obtain ⟨⟩ := hleaves
    simp only [← List.append_assoc]
    refine .finished hrounds hround fun hshut => ?_
    have hnothing : w.pending.length = 0 := by rw [hclosed hshut]; rfl
    exact ⟨by omega, hlive.pending_finished (List.length_eq_zero_iff.mp (by omega)) hround⟩

/-- What goes out in the loop of a live work: chunks, and if the work is not left waiting, the last chunk and
octets as they came. -/
theorem loop_of_live (h : w.Live) :
    (∃ pieces w', w.loop = (chunkParts pieces, some w')) ∨
      ∃ pieces, ∃ passed : List Bytes,
        w.loop = (chunkParts pieces ++ .lastChunk :: passed.map .verbatim, none) := by
  obtain ⟨c, hw⟩ := h.exists_eq
  rw [hw, loop_eq, ofDrained]
  split
  · exact .inl ⟨_, _, rfl⟩
  · cases w.closed with
    | false => exact .inr ⟨_, [_], by simp; rfl⟩
    | true => exact .inr ⟨_, [], by simp; rfl⟩

/-- The loop of a call that has taken octets in does what pumping does. -/
theorem loop_of_encoding {e : Encoding C} (hsound : e.reader.Sound) (hwriter : e.writer = .start) :
    octets (ofEncoding false e).loop.1 = (ResponseTranscoder.pump e).1 ∧
      Leaves (ofEncoding false e).loop.2 (ResponseTranscoder.pump e).2 := by
  have hloop := loop_eq false e.reader e.compressor e.pending
  rw [← hwriter] at hloop
  rw [ofEncoding, hloop, BodyReader.drained, if_neg Bool.false_ne_true, ofDrained]
  by_cases hstop : (e.reader.drain e.pending).stop = .starved
  · rw [ResponseTranscoder.pump_of_starved hwriter hsound hstop, if_pos ⟨hstop, rfl⟩,
      BodyReader.buffer_drain_of_starved hsound hstop]
    exact ⟨octets_chunkParts _, .waiting ⟨_, _, .start, []⟩⟩
  · rw [ResponseTranscoder.pump_of_stopped hwriter hstop, if_neg fun h => hstop h.1]
    refine ⟨?_, .finished⟩
    simp [octets_chunkParts, Part.octets]

/-- The loop of a call behind the close of the destination does what finishing does. -/
theorem loop_of_close {e : Encoding C} (hwriter : e.writer = .start) :
    octets (ofEncoding true e).loop.1 = (ResponseTranscoder.encoding e).finish.1 ∧
      Leaves (ofEncoding true e).loop.2 (ResponseTranscoder.encoding e).finish.2 := by
  have hloop := loop_eq true e.reader e.compressor e.pending
  rw [← hwriter] at hloop
  rw [ofEncoding, hloop, BodyReader.drained, if_pos rfl, ofDrained, if_neg (by simp),
    ResponseTranscoder.finish, Encoding.compressAll_eq hwriter]
  dsimp only
  rw [Encoding.close_eq (by exact hwriter)]
  refine ⟨?_, .finished⟩
  simp [octets_chunkParts, Part.octets, BodyCompressor.outputs, framed_append]

end Work

end RelayTunnel.Transcode
