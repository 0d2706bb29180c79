import RelayTunnel.Proofs.Http.ChunkAcceptance
import RelayTunnel.Proofs.Http.ChunkLines

/-!
# Every body of the grammar is read

A reader takes each chunk of a body off the front and stands where it stood before (`absorb_dataChunk`), so
by induction it takes all chunks, the trailer and the end (`absorb_body`). Digits that spell a size out of
range are read up to the first one that takes the size there, and no further (`absorb_overflow`).

`absorb` takes the octets one by one. A reader that is fed pieces and asked for items comes to the same
stop with the same payload (`stopsBehind_of_absorb`), so the two facts together say how a reader goes
through a body, whatever follows it and however it arrives (`body_is_read`).
-/

set_option autoImplicit false

namespace RelayTunnel.Http

open Ascii (crlf)

/-! ## Octet by octet -/

namespace BodyReader

/-- Framing that can be skipped carries no payload. -/
theorem absorb_of_skipFraming {reader reader' : ChunkReader} {octets behind : Bytes}
    (h : reader.skipFraming octets = reader'.skipFraming behind) :
    (chunked reader).absorb octets = (chunked reader').absorb behind := by
  rw [absorb_skipFraming, absorb_skipFraming reader', h]

/-- A chunk is taken off the front of a body, and the reader is back where it was. -/
theorem absorb_dataChunk (chunk : DataChunk) (behind : Bytes) :
    (chunked .start).absorb (chunk.octets ++ behind) =
      ((chunked .start).absorb behind).prepend chunk.data := by
  have hoctets : chunk.octets ++ behind = chunk.line.octets ++ (chunk.data ++ (crlf ++ behind)) := by
    simp [DataChunk.octets]
  have hsize : chunk.line.size ≠ 0 := Nat.ne_of_gt chunk.size_pos
  have htake : (chunk.data ++ (crlf ++ behind)).take chunk.line.size = chunk.data := by
    rw [← chunk.length_data, List.take_left]
  have hdrop : (chunk.data ++ (crlf ++ behind)).drop chunk.line.size = crlf ++ behind := by
    rw [← chunk.length_data, List.drop_left]
  have hleft : chunk.line.size - chunk.data.length = 0 := by rw [chunk.length_data, Nat.sub_self]
  rw [hoctets, absorb_of_skipFraming (ChunkReader.skipFraming_sizeLine chunk.line _), if_neg hsize,
    absorb_data chunk.size_pos, htake, hdrop, hleft, if_pos rfl,
    absorb_of_skipFraming (ChunkReader.skipFraming_dataEnd behind)]

/-- Chunks are taken off the front of a body, one after the other. -/
theorem absorb_dataChunks (chunks : List DataChunk) (behind : Bytes) :
    (chunked .start).absorb (chunks.flatMap DataChunk.octets ++ behind) =
      ((chunked .start).absorb behind).prepend (chunks.flatMap DataChunk.data) := by
  induction chunks with
  | nil => rfl
  | cons chunk chunks ih =>
    rw [List.flatMap_cons, List.flatMap_cons, List.append_assoc, absorb_dataChunk, ih,
      Absorbed.prepend_prepend]

/-- Behind the chunks of a body there is no more payload. -/
theorem absorb_bodyEnd (body : ChunkedBody) :
    (chunked .start).absorb
      (body.last.octets ++ (body.trailers.flatMap TrailerLine.octets ++ crlf)) =
        ⟨[], .ended, chunked ⟨.done, 0⟩, []⟩ := by
  rw [absorb_skipFraming, ChunkReader.skipFraming_sizeLine, body.last_size, if_pos rfl,
    ChunkReader.skipFraming_trailers, ← List.append_nil crlf, ChunkReader.skipFraming_bodyEnd]
  rfl

/-- A whole body is taken, and its payload is that of its chunks. -/
theorem absorb_body (body : ChunkedBody) :
    (chunked .start).absorb body.octets = ⟨body.payload, .ended, chunked ⟨.done, 0⟩, []⟩ := by
  rw [ChunkedBody.octets, absorb_dataChunks, absorb_bodyEnd, ChunkedBody.payload, Absorbed.prepend,
    List.append_nil]

/-- The digit that takes a size out of range is the last octet that is read. -/
theorem absorb_overflow {front : Bytes} {b : UInt8} (hhex : ∀ c ∈ front, isHexDigit c = true)
    (hb : isHexDigit b = true) (hfits : sizeFrom 0 front < chunkSizeBound)
    (hover : chunkSizeBound ≤ sizeFrom 0 (front ++ [b])) :
    (chunked .start).absorb (front ++ [b]) =
      ⟨[], .failed (.malformedBody ChunkFault.sizeOverflow.reason),
        chunked ⟨.size, sizeFrom 0 front⟩, []⟩ := by
  obtain ⟨digit, hdigit⟩ := Option.isSome_iff_exists.mp hb
  rw [sizeFrom_append, sizeFrom_cons hdigit, sizeFrom_nil] at hover
  have hoctet : (ChunkReader.mk .size (sizeFrom 0 front)).octet b = .error .sizeOverflow := by
    simp [ChunkReader.octet, hdigit, Nat.not_lt.mpr hover]
  have hplace : ¬ ((ChunkReader.mk .size (sizeFrom 0 front)).place = .data ∨
      (ChunkReader.mk .size (sizeFrom 0 front)).place = .done) := by simp
  rw [absorb_skipFraming, ChunkReader.start, ChunkReader.skipFraming_digits hhex hfits,
    skipFraming_of_error hplace hoctet]

end BodyReader

/-- Among digits that spell a size out of range, one is the first to do so. -/
theorem exists_first_overflow {size : Nat} {digits : Bytes} (hsize : size < chunkSizeBound)
    (h : chunkSizeBound ≤ sizeFrom size digits) :
    ∃ front b back, digits = front ++ b :: back ∧ sizeFrom size front < chunkSizeBound ∧
      chunkSizeBound ≤ sizeFrom size (front ++ [b]) := by
  induction digits generalizing size with
  | nil => exact absurd h (Nat.not_le.mpr hsize)
  | cons b digits ih =>
    by_cases hb : sizeFrom size [b] < chunkSizeBound
    · have hcons : ∀ more, sizeFrom size (b :: more) = sizeFrom (sizeFrom size [b]) more :=
        fun more => sizeFrom_append size [b] more
      obtain ⟨front, c, back, rfl, hfits, hover⟩ := ih hb (hcons digits ▸ h)
      exact ⟨b :: front, c, back, rfl, hcons front ▸ hfits, hcons (front ++ [c]) ▸ hover⟩
    · exact ⟨[], b, digits, rfl, hsize, Nat.not_lt.mp hb⟩

/-! ## Piece by piece -/

namespace ChunkReader

/-- A run that has not stopped can be gone on with. -/
theorem drive_append_of_starved {r : ChunkReader} {buffer : Bytes} {calls : List ReaderCall}
    (h : (r.drive buffer calls).stop = .starved) (later : List ReaderCall) :
    r.drive buffer (calls ++ later) =
      ((r.drive buffer calls).reader.drive (r.drive buffer calls).buffer later).after
        (r.drive buffer calls).chunks := by
  induction calls generalizing r buffer with
  | nil => rfl
  | cons call calls ih =>
    cases call with
    | feed octets => exact ih h
    | read =>
      rw [List.cons_append]
      obtain ⟨data, hitem⟩ | hitem | hitem | ⟨error, hitem⟩ := item_cases (r.read buffer).item
      · simp only [drive, hitem] at h ⊢
        rw [ih h]
        rfl
      · simp [drive, hitem] at h
      · simp only [drive, hitem] at h ⊢
        exact ih h
      · simp [drive, hitem] at h

/-- Asking often enough brings a reader to the stop that draining the buffer brings it to. -/
theorem exists_drive_eq_drain (r : ChunkReader) (buffer : Bytes) :
    ∃ n, (r.drive buffer (List.replicate n .read)).stop = (r.drain buffer).stop := by
  induction hweight : r.weight buffer using Nat.strongRecOn generalizing r buffer with
  | ind n ih =>
    rw [drain]
    obtain ⟨data, hitem⟩ | hitem | hitem | ⟨error, hitem⟩ := item_cases (r.read buffer).item
    · have hlighter := weight_read_lt r buffer data hitem
      obtain ⟨n, hdrive⟩ := ih _ (hweight ▸ hlighter) _ _ rfl
      rw [drainWith_of_chunk hitem]
      refine ⟨n + 1, ?_⟩
      simp only [List.replicate_succ, drive, hitem]
      exact hdrive
    · rw [drainWith_of_eof hitem]
      exact ⟨1, by simp [drive, hitem]⟩
    · rw [drainWith_of_none hitem]
      exact ⟨0, rfl⟩
    · rw [drainWith_of_error hitem]
      exact ⟨1, by simp [drive, hitem]⟩

/-- A drain stops for the reason for which taking octets one by one stops. -/
theorem stop_drain {r : ChunkReader} (h : (BodyReader.chunked r).Sound) (buffer : Bytes) :
    (r.drain buffer).stop = ((BodyReader.chunked r).absorb buffer).stop := by
  rw [← BodyReader.absorbed_drain h, BodyReader.drain_chunked]
  rfl

/-- Feeding and asking leaves a sound reader. -/
theorem sound_drive {r : ChunkReader} (h : (BodyReader.chunked r).Sound) (buffer : Bytes)
    (calls : List ReaderCall) : (BodyReader.chunked (r.drive buffer calls).reader).Sound := by
  induction calls generalizing r buffer with
  | nil => exact h
  | cons call calls ih =>
    cases call with
    | feed octets => exact ih h (buffer ++ octets)
    | read =>
      have hsound : (BodyReader.chunked (r.read buffer).reader).Sound := BodyReader.sound_read h buffer
      obtain ⟨data, hitem⟩ | hitem | hitem | ⟨error, hitem⟩ := item_cases (r.read buffer).item
      · simp only [drive, hitem]
        exact ih hsound (r.read buffer).buffer
      · simp only [drive, hitem]
        exact hsound
      · simp only [drive, hitem]
        exact ih hsound (r.read buffer).buffer
      · simp only [drive, hitem]
        exact hsound

end ChunkReader

/-- However octets arrive and whenever a reader is asked for an item, it stops behind the octets taken,
with their payload, and leaves whatever is behind them. As long as it has not stopped, it has yielded a
front part of the payload. When all of them are there, asking often enough makes it stop. -/
structure StopsBehind (taken payload : Bytes) (stop : Stop) : Prop where
  outcome : ∀ {calls : List ReaderCall} {more behind : Bytes}, fed calls ++ more = taken ++ behind →
    (ChunkReader.start.drive [] calls).stop = .starved ∧
      (ChunkReader.start.drive [] calls).chunks.flatten <+: payload ∨
    (ChunkReader.start.drive [] calls).stop = stop ∧
      (ChunkReader.start.drive [] calls).chunks.flatten = payload ∧
      (ChunkReader.start.drive [] calls).buffer ++ more = behind
  reached : ∀ {calls : List ReaderCall} {behind : Bytes}, fed calls = taken ++ behind →
    ∃ n, (ChunkReader.start.drive [] (calls ++ List.replicate n .read)).stop = stop

/-- Octets that stop a reader leave all that follows them. -/
theorem stopsBehind_of_absorb {taken payload : Bytes} {stop : Stop} {reader : BodyReader}
    (h : (BodyReader.chunked .start).absorb taken = ⟨payload, stop, reader, []⟩)
    (hstop : stop ≠ .starved) : StopsBehind taken payload stop := by
  have hsound : (BodyReader.chunked .start).Sound := BodyReader.sound_ofFraming .chunked
  -- a run that is gone on with takes what the reader would take of all the octets at once
  have hall : ∀ {calls : List ReaderCall} {more behind : Bytes}, fed calls ++ more = taken ++ behind →
      (ChunkReader.start.drive [] calls).resume more = ⟨payload, stop, reader, behind⟩ := by
    intro calls more behind hfed
    have hdrive := ChunkReader.absorb_drive hsound [] calls more
    rw [List.nil_append, hfed, BodyReader.absorb_append_of_stopped (by rw [h]; exact hstop), h]
      at hdrive
    exact hdrive.symm
  constructor
  · intro calls more behind hfed
    have hresume := hall hfed
    by_cases hstarved : (ChunkReader.start.drive [] calls).stop = .starved
    · rw [Drained.resume_of_starved more hstarved] at hresume
      have hpayload := congrArg Absorbed.payload hresume
      exact .inl ⟨hstarved, _, hpayload⟩
    · rw [Drained.resume_of_stopped more hstarved, Absorbed.mk.injEq] at hresume
      obtain ⟨hpayload, hstops, _, hbehind⟩ := hresume
      exact .inr ⟨hstops, hpayload, hbehind⟩
  · intro calls behind hfed
    have hresume := hall (by rw [List.append_nil]; exact hfed)
    by_cases hstarved : (ChunkReader.start.drive [] calls).stop = .starved
    · -- the octets that are missing from what it has yielded are all in its buffer
      rw [Drained.resume_of_starved [] hstarved, List.append_nil] at hresume
      have hmore := ChunkReader.sound_drive hsound [] calls
      obtain ⟨n, hdrain⟩ := ChunkReader.exists_drive_eq_drain
        (ChunkReader.start.drive [] calls).reader (ChunkReader.start.drive [] calls).buffer
      refine ⟨n, ?_⟩
      rw [ChunkReader.drive_append_of_starved hstarved]
      calc _ = _ := hdrain
        _ = _ := ChunkReader.stop_drain hmore _
        _ = stop := congrArg Absorbed.stop hresume
    · rw [Drained.resume_of_stopped [] hstarved, Absorbed.mk.injEq] at hresume
      exact ⟨0, by simpa using hresume.2.1⟩

/-- A body stops a reader at its end. -/
theorem stopsBehind_body (body : ChunkedBody) : StopsBehind body.octets body.payload .ended :=
  stopsBehind_of_absorb (BodyReader.absorb_body body) (by simp)

/-- A size that does not fit stops a reader with an error. -/
theorem stopsBehind_overflow (chunks : List DataChunk) {front : Bytes} {b : UInt8}
    (hhex : ∀ c ∈ front, isHexDigit c = true) (hb : isHexDigit b = true)
    (hfits : sizeFrom 0 front < chunkSizeBound)
    (hover : chunkSizeBound ≤ sizeFrom 0 (front ++ [b])) :
    StopsBehind (chunks.flatMap DataChunk.octets ++ (front ++ [b])) (chunks.flatMap DataChunk.data)
      (.failed (.malformedBody "chunk size overflow")) := by
  have habsorb : (BodyReader.chunked .start).absorb
      (chunks.flatMap DataChunk.octets ++ (front ++ [b])) =
      ⟨chunks.flatMap DataChunk.data, .failed (.malformedBody ChunkFault.sizeOverflow.reason),
        .chunked ⟨.size, sizeFrom 0 front⟩, []⟩ := by
    rw [BodyReader.absorb_dataChunks, BodyReader.absorb_overflow hhex hb hfits hover,
      Absorbed.prepend, List.append_nil]
  exact stopsBehind_of_absorb habsorb (by simp)

/-- A reader that has reported the end goes on reporting it, and leaves every octet. -/
theorem read_of_drive_ended {calls : List ReaderCall}
    (h : (ChunkReader.start.drive [] calls).stop = .ended) (buffer : Bytes) :
    (ChunkReader.start.drive [] calls).reader.read buffer =
      ⟨.ok (some .eof), (ChunkReader.start.drive [] calls).reader, buffer⟩ := by
  have hsound : (BodyReader.chunked .start).Sound := BodyReader.sound_ofFraming .chunked
  have habsorbed := ChunkReader.absorbed_drive_of_ended hsound h
  have hstop : ((BodyReader.chunked .start).absorb ([] ++ fed calls)).stop = .ended := by
    rw [← habsorbed]
    exact h
  have hover := BodyReader.isOver_absorb_of_ended hstop
  rw [← habsorbed] at hover
  exact ChunkReader.read_of_isFinished hover buffer

/-- Every body of the grammar is read, in whatever pieces it arrives and whenever an item is asked for. A
reader yields the payload, reports the end, goes on reporting it, and leaves whatever stands behind the
body. Digits that spell a size of 2⁶⁴ or more make it fail at the first of them that takes the size there,
behind the payload of the chunks in front. -/
theorem body_is_read :
    (∀ body : ChunkedBody, StopsBehind body.octets body.payload .ended) ∧
    (∀ calls : List ReaderCall, (ChunkReader.start.drive [] calls).stop = .ended → ∀ buffer,
      (ChunkReader.start.drive [] calls).reader.read buffer =
        ⟨.ok (some .eof), (ChunkReader.start.drive [] calls).reader, buffer⟩) ∧
    ∀ (chunks : List DataChunk) (digits : Bytes), (∀ b ∈ digits, isHexDigit b = true) →
      UInt64.size ≤ sizeFrom 0 digits → ∃ front b back, digits = front ++ b :: back ∧
        sizeFrom 0 front < UInt64.size ∧ UInt64.size ≤ sizeFrom 0 (front ++ [b]) ∧
        StopsBehind (chunks.flatMap DataChunk.octets ++ (front ++ [b]))
          (chunks.flatMap DataChunk.data) (.failed (.malformedBody "chunk size overflow")) := by
  refine ⟨stopsBehind_body, fun calls h => read_of_drive_ended h, ?_⟩
  intro chunks digits hhex hover
  obtain ⟨front, b, back, rfl, hfits, hfirst⟩ := exists_first_overflow (by decide) hover
  have hfront : ∀ c ∈ front, isHexDigit c = true := fun c hc => hhex c (by simp [hc])
  have hb : isHexDigit b = true := hhex b (by simp)
  exact ⟨front, b, back, rfl, hfits, hfirst, stopsBehind_overflow chunks hfront hb hfits hfirst⟩

/-- A body with a padded size in capitals, an extension, a padded last line and a trailer line. -/
def paddedBody : ChunkedBody where
  chunks := [{
    line := ⟨Ascii.bytes "00B", .ofExtension (Ascii.bytes "x=1") (by decide +kernel),
      List.all_eq_true.mp (by decide), by decide⟩
    data := Ascii.bytes "hello world"
    size_pos := by decide
    length_data := by decide }]
  last := ⟨Ascii.bytes "000", .empty, List.all_eq_true.mp (by decide), by decide⟩
  trailers := [⟨Ascii.bytes "A: b", by decide, by decide +kernel⟩]
  last_size := by decide

/-- A body with all that the grammar allows is read, and the end is reported once more. -/
theorem paddedBody_is_read :
    paddedBody.octets = Ascii.bytes "00B;x=1\r\nhello world\r\n000\r\nA: b\r\n\r\n" ∧
    StopsBehind paddedBody.octets (Ascii.bytes "hello world") .ended ∧
    (ChunkReader.start.drive [] partedBody).stop = .ended ∧
    (ChunkReader.start.drive [] partedBody).reader.read (Ascii.bytes "GET") =
      ⟨.ok (some .eof), (ChunkReader.start.drive [] partedBody).reader, Ascii.bytes "GET"⟩ ∧
    (∀ b ∈ Ascii.bytes "10000000000000000", isHexDigit b = true) ∧
    UInt64.size ≤ sizeFrom 0 (Ascii.bytes "10000000000000000") ∧
    ∃ front b back, Ascii.bytes "10000000000000000" = front ++ b :: back ∧
      StopsBehind (front ++ [b]) [] (.failed (.malformedBody "chunk size overflow")) := by
  obtain ⟨hbody, hended, hoverflow⟩ := body_is_read
  have hparted : (ChunkReader.start.drive [] partedBody).stop = .ended := by decide
  have hhex : ∀ b ∈ Ascii.bytes "10000000000000000", isHexDigit b = true :=
    List.all_eq_true.mp (by decide)
  have hlarge : UInt64.size ≤ sizeFrom 0 (Ascii.bytes "10000000000000000") := by decide
  obtain ⟨front, b, back, hdigits, _, _, hstops⟩ := hoverflow [] _ hhex hlarge
  exact ⟨by decide, hbody paddedBody, hparted, hended partedBody hparted _, hhex, hlarge,
    front, b, back, hdigits, hstops⟩

end RelayTunnel.Http
