import RelayTunnel.Http.ChunkWriter
import RelayTunnel.Proofs.Http.BodyCuts
import RelayTunnel.Proofs.Http.ChunkLines
import RelayTunnel.Proofs.Text.Numerals

/-!
# Reading back what has been written in chunks

A writer puts each piece of payload into one chunk. The size in front of it is a hexadecimal numeral that
reads back as its length (`sizeFrom_hexBytes`), so a reader takes the chunk off as one item, whatever octets
it holds, and stands where it stood before (`drain_chunkFrame`). Hence everything written up to the end is
read back, in whatever pieces it arrives, and what stands behind it is left alone (`written_reads_back`).
-/

set_option autoImplicit false

namespace RelayTunnel.Http

open Ascii (cr lf crlf)

/-! ## Hexadecimal numerals -/

/-- A number is the size that its numeral states. -/
theorem sizeFrom_hexBytes (n : Nat) : sizeFrom 0 (Text.hexBytes n) = n := by
  induction n using Text.hexBytes.induct with
  | case1 n hsmall =>
    rw [Text.hexBytes, if_pos hsmall, sizeFrom_cons (Text.hexValue?_hexDigit hsmall)]
    simp
  | case2 n hlarge ih =>
    have hdigit : n % 16 < 16 := by omega
    rw [Text.hexBytes, if_neg hlarge, sizeFrom_append, ih, sizeFrom_cons (Text.hexValue?_hexDigit hdigit),
      sizeFrom_nil]
    omega

/-- A numeral has hexadecimal digits only. -/
theorem isHexDigit_of_mem_hexBytes (n : Nat) : ∀ b ∈ Text.hexBytes n, isHexDigit b = true := by
  have hdigit : ∀ {digit : Nat}, digit < 16 → isHexDigit (Text.hexDigit digit) = true := by
    intro digit h
    simp [isHexDigit, Text.hexValue?_hexDigit h]
  induction n using Text.hexBytes.induct with
  | case1 n hsmall =>
    rw [Text.hexBytes, if_pos hsmall]
    simpa using hdigit hsmall
  | case2 n hlarge ih =>
    rw [Text.hexBytes, if_neg hlarge]
    intro b hb
    rcases List.mem_append.mp hb with hb | hb
    · exact ih b hb
    · obtain rfl := List.mem_singleton.mp hb
      exact hdigit (by omega)

/-- The size line in its plainest form. -/
def SizeLine.ofSize (size : Nat) (h : size < chunkSizeBound) : SizeLine :=
  ⟨Text.hexBytes size, .empty, isHexDigit_of_mem_hexBytes size, by rwa [sizeFrom_hexBytes]⟩

namespace ChunkReader

/-! ## Reading a chunk -/

/-- A size line that was written is skipped. -/
theorem skipFraming_ofSize {size : Nat} (hfits : size < chunkSizeBound) (behind : Bytes) :
    start.skipFraming (Text.hexBytes size ++ crlf ++ behind) =
      skipFraming ⟨if size = 0 then .trailerStart else .data, size⟩ behind := by
  have hoctets : (SizeLine.ofSize size hfits).octets = Text.hexBytes size ++ crlf := by
    rw [SizeLine.octets, SizeLine.ofSize, LineTail.octets_empty, List.append_nil]
  have hsize : (SizeLine.ofSize size hfits).size = size := sizeFrom_hexBytes size
  rw [← hoctets, skipFraming_sizeLine, hsize]

/-- A chunk that was written is read. -/
theorem read_chunkFrame {data : Bytes} (hdata : data ≠ []) (hfits : data.length < chunkSizeBound)
    (behind : Bytes) :
    start.read (chunkFrame data ++ behind) =
      ⟨.ok (some (.chunk data)), ⟨.dataCr, 0⟩, crlf ++ behind⟩ := by
  have hlength : data.length ≠ 0 := by simpa using hdata
  have hframe : chunkFrame data ++ behind =
      Text.hexBytes data.length ++ crlf ++ (data ++ (crlf ++ behind)) := by
    simp [chunkFrame]
  have hskip : start.skipFraming (chunkFrame data ++ behind) =
      ⟨⟨.data, data.length⟩, data ++ (crlf ++ behind), none⟩ := by
    rw [hframe, skipFraming_ofSize hfits, if_neg hlength, skipFraming_of_data _ _ rfl]
  have hrest : data ++ (crlf ++ behind) ≠ [] := by simp [hdata]
  simp [read, hskip, hrest]

/-- Behind the payload of a chunk, reading goes on as in front of it. -/
theorem drain_dataCr (behind : Bytes) :
    drain ⟨.dataCr, 0⟩ (crlf ++ behind) = start.drain behind := by
  apply drainWith_of_read_eq
  rw [read, read, skipFraming_dataEnd]

/-- A chunk that has been written is read as one item. -/
theorem drain_chunkFrame {data : Bytes} (hdata : data ≠ []) (hfits : data.length < chunkSizeBound)
    (behind : Bytes) :
    start.drain (chunkFrame data ++ behind) = (start.drain behind).cons data := by
  have hread := read_chunkFrame hdata hfits behind
  have hmore := drain_dataCr behind
  rw [drain] at hmore ⊢
  rw [drainWith_of_chunk (by rw [hread]), hread, hmore]

/-- The last chunk that was written ends the body. -/
theorem drain_lastChunk (behind : Bytes) :
    start.drain (lastChunk ++ behind) = ⟨[], .ended, ⟨.done, 0⟩, behind⟩ := by
  have hzero : Text.hexBytes 0 = Ascii.bytes "0" := by
    rw [Text.hexBytes, if_pos (by decide)]
    decide
  have hlast : lastChunk ++ behind = Text.hexBytes 0 ++ crlf ++ (crlf ++ behind) := by
    simp [lastChunk, hzero, crlf]
  have hskip : start.skipFraming (lastChunk ++ behind) = ⟨⟨.done, 0⟩, behind, none⟩ := by
    rw [hlast, skipFraming_ofSize (by decide), if_pos rfl, skipFraming_bodyEnd]
  have hread : start.read (lastChunk ++ behind) = ⟨.ok (some .eof), ⟨.done, 0⟩, behind⟩ := by
    simp [read, hskip]
  rw [drain, drainWith_of_eof (by rw [hread]), hread]

/-- Where there are no octets, a reader waits for some. -/
theorem drain_nil : start.drain [] = ⟨[], .starved, start, []⟩ := by
  rw [drain, drainWith_of_none (by rfl)]
  rfl

/-- To receive one piece is to drain it. -/
theorem receive_singleton (r : ChunkReader) (octets : Bytes) :
    r.receive [octets] = r.drain octets := by
  by_cases hstarved : (r.drain octets).stop = .starved
  · rw [receive, drainPieces_of_starved (by exact hstarved), List.nil_append]
    simp [drainPieces, Drained.after, ← hstarved]
  · rw [receive, drainPieces_of_stopped (by exact hstarved), List.nil_append]
    simp

end ChunkReader

/-! ## Writing -/

/-- What is given to a writer: a piece of payload, in one or several parts, or the end. -/
inductive Parcel where
  | chunk (parts : List Bytes)
  | eof
  deriving DecidableEq

def ChunkWriter.send (w : ChunkWriter) : Parcel → Bytes × ChunkWriter
  | .chunk parts => w.writeParts parts
  | .eof => w.write .eof

/-- The octets that parcels become, one after another. -/
def ChunkWriter.sendAll (w : ChunkWriter) : List Parcel → Bytes
  | [] => []
  | parcel :: parcels => (w.send parcel).1 ++ (w.send parcel).2.sendAll parcels

/-- The pieces of payload in front of the end. -/
def payloads : List Parcel → List Bytes
  | [] => []
  | .chunk parts :: parcels => parts.flatten :: payloads parcels
  | .eof :: _ => []

/-- Every piece of payload has a length that can be stated. -/
def Sendable (parcels : List Parcel) : Prop :=
  ∀ parts, Parcel.chunk parts ∈ parcels → parts.flatten.length < chunkSizeBound

namespace ChunkWriter

/-- Behind the end, nothing is written. -/
theorem sendAll_of_finished {w : ChunkWriter} (h : w.finished = true) (parcels : List Parcel) :
    w.sendAll parcels = [] := by
  have hsend : ∀ parcel, w.send parcel = ([], w) := by
    intro parcel
    cases parcel <;> simp [send, writeParts, write, h]
  induction parcels with
  | nil => rfl
  | cons parcel parcels ih => rw [sendAll, hsend, ih, List.append_nil]

/-- The end is written as the last chunk. -/
theorem sendAll_eof (parcels : List Parcel) : start.sendAll (.eof :: parcels) = lastChunk := by
  have hsend : start.send .eof = (lastChunk, ⟨true⟩) := rfl
  rw [sendAll, hsend, sendAll_of_finished rfl, List.append_nil]

/-- A chunk is written in front of the rest, and nothing if it is empty. -/
theorem sendAll_chunk (parts : List Bytes) (parcels : List Parcel) :
    start.sendAll (.chunk parts :: parcels) =
      (if parts.flatten.isEmpty then [] else chunkFrame parts.flatten)
        ++ start.sendAll parcels := by
  have hsend : start.send (.chunk parts) =
      (if parts.flatten.isEmpty then [] else chunkFrame parts.flatten, start) := by
    rw [send, writeParts_eq_write]
    rfl
  rw [sendAll, hsend]

/-- What comes behind the end is not written. -/
theorem sendAll_append_eof (front behind : List Parcel) :
    start.sendAll (front ++ .eof :: behind) = start.sendAll (front ++ [.eof]) := by
  induction front with
  | nil => rw [List.nil_append, List.nil_append, sendAll_eof, sendAll_eof]
  | cons parcel front ih =>
    cases parcel with
    | eof => rw [List.cons_append, List.cons_append, sendAll_eof, sendAll_eof]
    | chunk parts => rw [List.cons_append, List.cons_append, sendAll_chunk, sendAll_chunk, ih]

end ChunkWriter

/-! ## Round trip -/

namespace ChunkReader

/-- What has been written is drained piece by piece, up to the end if there is one. -/
theorem drain_sendAll {parcels : List Parcel} (hsendable : Sendable parcels) (behind : Bytes) :
    start.drain (ChunkWriter.start.sendAll parcels ++ behind) =
      (if Parcel.eof ∈ parcels then ⟨[], .ended, ⟨.done, 0⟩, behind⟩
        else start.drain behind).after ((payloads parcels).filter (!·.isEmpty)) := by
  induction parcels with
  | nil => rfl
  | cons parcel parcels ih =>
    cases parcel with
    | eof =>
      rw [ChunkWriter.sendAll_eof, drain_lastChunk, if_pos (by simp)]
      rfl
    | chunk parts =>
      have hfits := hsendable parts (by simp)
      have hmore := ih fun parts' h => hsendable parts' (by simp [h])
      have heof : Parcel.eof ∈ Parcel.chunk parts :: parcels ↔ Parcel.eof ∈ parcels := by simp
      rw [ChunkWriter.sendAll_chunk, payloads]
      simp only [heof]
      by_cases hempty : parts.flatten = []
      · rw [hempty]
        exact hmore
      · have hfull : parts.flatten.isEmpty = false := by simpa using hempty
        rw [hfull, if_neg Bool.false_ne_true, List.append_assoc, drain_chunkFrame hempty hfits, hmore,
          List.filter_cons_of_pos (by simp [hfull])]
        rfl

/-- A body that is received in pieces is read as if it came at once. -/
theorem receive_agrees_drain (pieces : List Bytes) :
    (start.receive pieces).Agrees (start.drain pieces.flatten) := by
  have hsound : (BodyReader.chunked .start).Sound := BodyReader.sound_ofFraming .chunked
  rw [← receive_singleton]
  exact receive_agrees hsound rfl pieces

/-- Up to chunks that are empty, what was given to the writer comes out again. -/
theorem receive_sendAll {parcels : List Parcel} (hsendable : Sendable parcels)
    {behind : Bytes} {pieces : List Bytes}
    (hpieces : pieces.flatten = ChunkWriter.start.sendAll parcels ++ behind) :
    (start.receive pieces).Agrees
      ((if Parcel.eof ∈ parcels then ⟨[], .ended, ⟨.done, 0⟩, behind⟩
        else start.drain behind).after (payloads parcels)) := by
  have hagrees := receive_agrees_drain pieces
  rw [hpieces, drain_sendAll hsendable] at hagrees
  refine ⟨?_, hagrees.stop, hagrees.reader, hagrees.buffer⟩
  rw [hagrees.payload]
  simp [Drained.after, List.flatten_filter_not_isEmpty]

/-- The chunks that are read are those that were written, without the empty ones. -/
theorem chunks_receive_sendAll {parcels : List Parcel} (hsendable : Sendable parcels)
    {behind : Bytes} (h : Parcel.eof ∈ parcels ∨ behind = []) :
    (start.receive [ChunkWriter.start.sendAll parcels ++ behind]).chunks =
      (payloads parcels).filter (!·.isEmpty) := by
  rw [receive_singleton, drain_sendAll hsendable]
  rcases h with heof | rfl
  · rw [if_pos heof]
    simp [Drained.after]
  · rw [drain_nil]
    split <;> simp [Drained.after]

end ChunkReader

/-- What has been written in chunks reads back. If the end has been written, then whatever stands behind
it, and in whatever pieces all of it arrives, the reader yields the payload in front of the end, reports
the end and leaves what stands behind; parcels behind the end add no octet. If it has not, then the reader
yields the payload and waits for more. Octets that arrive at once come back as the pieces of payload they
were written from, those left out that are empty. -/
theorem written_reads_back {parcels : List Parcel} (hsendable : Sendable parcels) :
    (Parcel.eof ∈ parcels → ∀ (behind : Bytes) (pieces : List Bytes),
      pieces.flatten = ChunkWriter.start.sendAll parcels ++ behind →
        (ChunkReader.start.receive pieces).chunks.flatten = (payloads parcels).flatten ∧
        (ChunkReader.start.receive pieces).stop = .ended ∧
        (ChunkReader.start.receive pieces).buffer = behind) ∧
    (Parcel.eof ∉ parcels → ∀ pieces : List Bytes,
      pieces.flatten = ChunkWriter.start.sendAll parcels →
        (ChunkReader.start.receive pieces).chunks.flatten = (payloads parcels).flatten ∧
        (ChunkReader.start.receive pieces).stop = .starved ∧
        (ChunkReader.start.receive pieces).reader.isFinished = false ∧
        (ChunkReader.start.receive pieces).buffer = []) ∧
    (∀ behind : Bytes, Parcel.eof ∈ parcels ∨ behind = [] →
      (ChunkReader.start.receive [ChunkWriter.start.sendAll parcels ++ behind]).chunks =
        (payloads parcels).filter (!·.isEmpty)) ∧
    ∀ front behind : List Parcel, parcels = front ++ .eof :: behind →
      ChunkWriter.start.sendAll parcels = ChunkWriter.start.sendAll (front ++ [.eof]) := by
  refine ⟨?_, ?_, ?_, ?_⟩
  · intro heof behind pieces hpieces
    have hagrees := ChunkReader.receive_sendAll hsendable hpieces
    rw [if_pos heof] at hagrees
    have hpayload := hagrees.payload
    rw [Drained.after, List.append_nil] at hpayload
    exact ⟨hpayload, hagrees.stop, hagrees.buffer⟩
  · intro heof pieces hpieces
    rw [← List.append_nil (ChunkWriter.start.sendAll parcels)] at hpieces
    have hagrees := ChunkReader.receive_sendAll hsendable hpieces
    rw [if_neg heof, ChunkReader.drain_nil] at hagrees
    have hpayload := hagrees.payload
    rw [Drained.after, List.append_nil] at hpayload
    have hunfinished : (ChunkReader.start.receive pieces).reader.isFinished = false := by
      have hreader : (ChunkReader.start.receive pieces).reader = .start := hagrees.reader
      rw [hreader]
      decide
    exact ⟨hpayload, hagrees.stop, hunfinished, hagrees.buffer⟩
  · intro behind hbehind
    exact ChunkReader.chunks_receive_sendAll hsendable hbehind
  · rintro front behind rfl
    exact ChunkWriter.sendAll_append_eof front behind

/-- Two pieces of payload, one of them in two parts, an empty piece between them, and a piece behind the
end. -/
def fewParcels : List Parcel :=
  [.chunk [Ascii.bytes "0\r\n", Ascii.bytes "\r\n"], .chunk [[], []], .chunk [Ascii.bytes "llo"], .eof,
    .chunk [Ascii.bytes "late"]]

/-- Parcels with what comes behind the end are read back, one octet at a time and at once. -/
theorem fewParcels_read_back :
    Sendable fewParcels ∧
    (ChunkReader.start.receive ((ChunkWriter.start.sendAll fewParcels ++ crlf).map ([·]))).stop =
      .ended ∧
    (ChunkReader.start.receive [ChunkWriter.start.sendAll fewParcels ++ crlf]).chunks =
      [Ascii.bytes "0\r\n\r\n", Ascii.bytes "llo"] := by
  have hsendable : Sendable fewParcels := by
    intro parts hparts
    simp only [fewParcels, List.mem_cons, List.not_mem_nil, Parcel.chunk.injEq, or_false,
      reduceCtorEq, false_or] at hparts
    rcases hparts with rfl | rfl | rfl | rfl <;> decide
  have hback := written_reads_back hsendable
  have heof : Parcel.eof ∈ fewParcels := by simp [fewParcels]
  refine ⟨hsendable, ?_, ?_⟩
  · -- every octet is a piece of its own
    have hpieces : ((ChunkWriter.start.sendAll fewParcels ++ crlf).map ([·])).flatten =
        ChunkWriter.start.sendAll fewParcels ++ crlf := by
      rw [← List.flatMap_def, List.flatMap_singleton']
    exact (hback.1 heof crlf _ hpieces).2.1
  · rw [hback.2.2.1 crlf (.inl heof)]
    decide

end RelayTunnel.Http
