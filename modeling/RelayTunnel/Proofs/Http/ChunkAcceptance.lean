import RelayTunnel.Proofs.Http.BodyCuts
import RelayTunnel.Proofs.Http.ChunkGrammar

/-!
# What a reader of chunks accepts

`Follows` says, for each place a reader can be in, which octets lead from there to the end of a body. A
step of the reader takes the first of these octets off (`follows_of_step`), so whatever a reader has taken
when it reports the end is a body of the grammar, and what it has yielded is the payload
(`ended_reads_body`). This holds however feeding and asking are interleaved.

In one respect the reader takes more than the grammar allows: where the last size line has no digit, it
goes on with a size of zero, and the body is over (`digitless_line_ends_body`).
-/

set_option autoImplicit false

namespace RelayTunnel.Http

open Ascii (cr lf crlf)

/-! ## What may follow -/

/-- The octets are a chunked body that carries the payload. -/
def IsBody (octets payload : Bytes) : Prop :=
  ∃ body : ChunkedBody, octets = body.octets ∧ payload = body.payload

/-- The octets are trailer lines and the empty line behind them. -/
def IsTrailer (octets payload : Bytes) : Prop :=
  ∃ trailers : List TrailerLine,
    octets = trailers.flatMap TrailerLine.octets ++ crlf ∧ payload = []

/-- The octets are the rest of a chunk, of which so much payload is left, and a body behind it. -/
def IsData (left : Nat) (octets payload : Bytes) : Prop :=
  ∃ data behind more, data.length = left ∧ octets = data ++ crlf ++ behind ∧
    IsBody behind more ∧ payload = data ++ more

/-- The octets may follow a line that states the size. -/
def BehindSize (size : Nat) (octets payload : Bytes) : Prop :=
  if size = 0 then IsTrailer octets payload else IsData size octets payload

/-- The octets are the rest of a line whose digits have stated the size so far, and what may follow that
line. -/
def IsSize (size : Nat) (octets payload : Bytes) : Prop :=
  ∃ digits, ∃ tail : LineTail, ∃ behind, (∀ b ∈ digits, isHexDigit b = true) ∧
    sizeFrom size digits < chunkSizeBound ∧ octets = digits ++ tail.octets ++ crlf ++ behind ∧
    BehindSize (sizeFrom size digits) behind payload

/-- The octets lead from where the reader is to the end of a body, and carry the payload. -/
def ChunkReader.Follows (r : ChunkReader) (octets payload : Bytes) : Prop :=
  match r.place with
  | .size => IsSize r.remaining octets payload
  | .sizeBlank => ∃ tail : LineTail, ∃ behind, octets = tail.octets ++ crlf ++ behind ∧
      BehindSize r.remaining behind payload
  | .extension => ∃ text behind, (∀ b ∈ text, b ≠ cr ∧ b ≠ lf) ∧ octets = text ++ crlf ++ behind ∧
      BehindSize r.remaining behind payload
  | .sizeLf => ∃ behind, octets = lf :: behind ∧ BehindSize r.remaining behind payload
  | .data => IsData r.remaining octets payload
  | .dataCr => ∃ behind, octets = crlf ++ behind ∧ IsSize r.remaining behind payload
  | .dataLf => ∃ behind, octets = lf :: behind ∧ IsSize r.remaining behind payload
  | .trailerStart => IsTrailer octets payload
  | .trailer => ∃ text behind, (∀ b ∈ text, b ≠ cr) ∧ octets = text ++ crlf ++ behind ∧
      IsTrailer behind payload
  | .trailerLf => ∃ behind, octets = lf :: behind ∧ IsTrailer behind payload
  | .endLf => octets = [lf] ∧ payload = []
  | .done => octets = [] ∧ payload = []

/-- A size line that is read from its start begins a body. -/
theorem isBody_of_isSize {octets payload : Bytes} (h : IsSize 0 octets payload) :
    IsBody octets payload := by
  obtain ⟨digits, tail, behind, hhex, hfits, rfl, hbehind⟩ := h
  let line : SizeLine := ⟨digits, tail, hhex, hfits⟩
  have hline : line.size = sizeFrom 0 digits := rfl
  rw [← hline, BehindSize] at hbehind
  by_cases hzero : line.size = 0
  · rw [if_pos hzero] at hbehind
    obtain ⟨trailers, rfl, rfl⟩ := hbehind
    refine ⟨⟨[], line, trailers, hzero⟩, ?_, rfl⟩
    simp [ChunkedBody.octets, SizeLine.octets, line]
  · rw [if_neg hzero] at hbehind
    obtain ⟨data, rest, more, hlength, rfl, ⟨body, rfl, rfl⟩, rfl⟩ := hbehind
    let chunk : DataChunk := ⟨line, data, Nat.pos_of_ne_zero hzero, hlength⟩
    refine ⟨⟨chunk :: body.chunks, body.last, body.trailers, body.last_size⟩, ?_, ?_⟩
    · simp [ChunkedBody.octets, DataChunk.octets, SizeLine.octets, chunk, line]
    · simp [ChunkedBody.payload, chunk]

def LineTail.consBlank (tail : LineTail) (b : UInt8) (hb : Ascii.isBlank b = true) : LineTail where
  blanks := b :: tail.blanks
  extension := tail.extension
  blanks_blank := by simpa [hb] using tail.blanks_blank
  extension_plain := tail.extension_plain

/-- A blank in front of the end of a size line belongs to it. -/
theorem LineTail.octets_consBlank (tail : LineTail) (b : UInt8) (hb : Ascii.isBlank b = true) :
    (tail.consBlank b hb).octets = b :: tail.octets := rfl

/-- The end of a size line may have blanks and an extension. -/
theorem isSize_of_tail {size : Nat} (tail : LineTail) {behind payload : Bytes}
    (hfits : size < chunkSizeBound) (h : BehindSize size behind payload) :
    IsSize size (tail.octets ++ crlf ++ behind) payload :=
  ⟨[], tail, behind, by simp, hfits, by simp, h⟩

namespace ChunkReader

variable {r r' : ChunkReader} {b : UInt8} {octets payload : Bytes}

/-- Behind its digits, the rest of a size line leads the reader to what may follow the line. -/
theorem follows_of_tail {place : ChunkPlace} {size : Nat} (tail : LineTail) {behind : Bytes}
    (hplace : EndsDigits place) (hfits : size < chunkSizeBound)
    (h : BehindSize size behind payload) :
    Follows ⟨place, size⟩ (tail.octets ++ crlf ++ behind) payload := by
  rcases hplace with rfl | rfl
  · exact isSize_of_tail tail hfits h
  · exact ⟨tail, behind, rfl, h⟩

/-- What may follow a reader behind a step may follow the octet of the step in front of it. -/
theorem follows_of_step (hstep : Step r b r') (hfits : r.remaining < chunkSizeBound)
    (h : r'.Follows octets payload) : r.Follows (b :: octets) payload := by
  cases hstep with
  | @digit size digit b hdigit hfits' =>
    obtain ⟨digits, tail, behind, hhex, hmore, rfl, hbehind⟩ := h
    have hb : isHexDigit b = true := by simp [isHexDigit, hdigit]
    refine ⟨b :: digits, tail, behind, by simpa [hb] using hhex, ?_, rfl, ?_⟩
    · rw [sizeFrom_cons hdigit]
      exact hmore
    · rw [sizeFrom_cons hdigit]
      exact hbehind
  | blank hplace hblank =>
    obtain ⟨tail, behind, rfl, hbehind⟩ := h
    have hline := follows_of_tail (tail.consBlank b hblank) hplace hfits hbehind
    rwa [LineTail.octets_consBlank] at hline
  | semicolon hplace =>
    obtain ⟨text, behind, hplain, rfl, hbehind⟩ := h
    have hline := follows_of_tail (.ofExtension text hplain) hplace hfits hbehind
    rwa [LineTail.octets_ofExtension] at hline
  | extension hcr hlf =>
    obtain ⟨text, behind, hplain, rfl, hbehind⟩ := h
    exact ⟨b :: text, behind, by simpa [hcr, hlf] using hplain, rfl, hbehind⟩
  | sizeCr hplace =>
    obtain ⟨behind, rfl, hbehind⟩ := h
    rcases hplace with hplace | rfl
    · have hline := follows_of_tail .empty hplace hfits hbehind
      rwa [LineTail.octets_empty] at hline
    · exact ⟨[], behind, by simp, rfl, hbehind⟩
  | @sizeLf size =>
    refine ⟨octets, rfl, ?_⟩
    rw [BehindSize]
    by_cases hzero : size = 0
    · simp only [hzero, if_true] at h ⊢
      exact h
    · simp only [hzero, if_false] at h ⊢
      exact h
  | dataCr =>
    obtain ⟨behind, rfl, hbehind⟩ := h
    exact ⟨behind, rfl, hbehind⟩
  | dataLf => exact ⟨octets, rfl, h⟩
  | trailer hplace hcr =>
    obtain ⟨text, behind, hplain, rfl, hbehind⟩ := h
    have htext : ∀ c ∈ b :: text, c ≠ cr := by simpa [hcr] using hplain
    rcases hplace with rfl | rfl
    · -- a new line, so the text in it is not empty
      obtain ⟨trailers, rfl, rfl⟩ := hbehind
      refine ⟨⟨b :: text, by simp, htext⟩ :: trailers, ?_, rfl⟩
      simp [TrailerLine.octets]
    · exact ⟨b :: text, behind, htext, rfl, hbehind⟩
  | trailerCr =>
    obtain ⟨behind, rfl, hbehind⟩ := h
    exact ⟨[], behind, by simp, rfl, hbehind⟩
  | trailerLf => exact ⟨octets, rfl, h⟩
  | endCr =>
    obtain ⟨rfl, rfl⟩ := h
    exact ⟨[], rfl, rfl⟩
  | endLf =>
    obtain ⟨rfl, rfl⟩ := h
    exact ⟨rfl, rfl⟩

/-- An octet of payload is taken in front of the rest of the chunk. -/
theorem follows_of_data {left : Nat} (hpos : 0 < left)
    (h : Follows ⟨if left - 1 = 0 then .dataCr else .data, left - 1⟩ octets payload) :
    Follows ⟨.data, left⟩ (b :: octets) (b :: payload) := by
  by_cases hone : left - 1 = 0
  · -- the last octet of the chunk
    rw [if_pos hone, hone] at h
    obtain ⟨behind, rfl, hsize⟩ := h
    exact ⟨[b], behind, payload, by simp; omega, rfl, isBody_of_isSize hsize, rfl⟩
  · rw [if_neg hone] at h
    obtain ⟨data, behind, more, hlength, rfl, hbody, rfl⟩ := h
    simp only at hlength
    exact ⟨b :: data, behind, more, by simp; omega, rfl, hbody, rfl⟩

/-- A finished reader has nothing more to follow. -/
theorem follows_nil (h : r.isFinished = true) : r.Follows [] [] := by
  have hplace : r.place = .done := by simpa [isFinished] using h
  simp [Follows, hplace]

/-- A step keeps the size within its bound. -/
theorem remaining_lt_of_step (hstep : Step r b r') (hfits : r.remaining < chunkSizeBound) :
    r'.remaining < chunkSizeBound := by
  cases hstep with
  | digit _ hfits' => exact hfits'
  | _ => exact hfits

end ChunkReader

namespace BodyReader

/-- The two kinds of octets in a chunked body. -/
theorem takeOctet_chunked {reader : ChunkReader} {b : UInt8} {taken : Bytes × BodyReader}
    (h : (chunked reader).takeOctet b = .ok taken) :
    (reader.place = .data ∧ taken = ([b], chunked
      ⟨if reader.remaining - 1 = 0 then .dataCr else .data, reader.remaining - 1⟩)) ∨
    ∃ reader', ChunkReader.Step reader b reader' ∧ taken = ([], chunked reader') := by
  rw [takeOctet] at h
  split at h
  · next hdata => exact .inl ⟨hdata, (Except.ok.inj h).symm⟩
  · split at h
    · next reader' hoctet =>
      exact .inr ⟨reader', ChunkReader.step_of_octet hoctet, (Except.ok.inj h).symm⟩
    · cases h

/-- A reader that comes to the end has taken octets that lead there. -/
theorem follows_of_absorb {reader : ChunkReader} {octets : Bytes} (hsound : (chunked reader).Sound)
    (hfits : reader.remaining < chunkSizeBound)
    (h : ((chunked reader).absorb octets).stop = .ended) :
    ∃ front, octets = front ++ ((chunked reader).absorb octets).rest ∧
      reader.Follows front ((chunked reader).absorb octets).payload := by
  induction octets generalizing reader with
  | nil =>
    cases hover : (chunked reader).isOver with
    | true => exact ⟨[], rfl, ChunkReader.follows_nil hover⟩
    | false => simp [absorb, hover] at h
  | cons b octets ih =>
    cases hover : (chunked reader).isOver with
    | true =>
      rw [absorb_of_isOver hover]
      exact ⟨[], rfl, ChunkReader.follows_nil hover⟩
    | false =>
      cases htake : (chunked reader).takeOctet b with
      | error error => rw [absorb_cons_of_error hover htake] at h; cases h
      | ok taken =>
        have hsound' : taken.2.Sound := sound_takeOctet htake
        rw [absorb_cons hover htake] at h ⊢
        rcases takeOctet_chunked htake with ⟨hdata, rfl⟩ | ⟨reader', hstep, rfl⟩
        · have hless : reader.remaining - 1 < chunkSizeBound := by omega
          obtain ⟨front, hfront, hfollows⟩ := ih hsound' hless h
          refine ⟨b :: front, by rw [List.cons_append]; exact congrArg (b :: ·) hfront, ?_⟩
          obtain ⟨place, left⟩ := reader
          obtain rfl : place = .data := hdata
          -- inside a chunk something is left of it
          exact ChunkReader.follows_of_data (hsound rfl) hfollows
        · have hless := ChunkReader.remaining_lt_of_step hstep hfits
          obtain ⟨front, hfront, hfollows⟩ := ih hsound' hless h
          refine ⟨b :: front, by rw [List.cons_append]; exact congrArg (b :: ·) hfront, ?_⟩
          exact ChunkReader.follows_of_step hstep hfits hfollows

/-- A read leaves a sound reader. -/
theorem sound_read {r : BodyReader} (h : r.Sound) (buffer : Bytes) :
    (r.read buffer).reader.Sound := by
  have hread := absorb_read h buffer
  have habsorb := sound_absorb h buffer
  obtain ⟨data, hitem⟩ | hitem | hitem | ⟨error, hitem⟩ := item_cases (r.read buffer).item
  · rw [hitem] at hread
    exact hread.1
  · rw [hitem] at hread
    rwa [hread] at habsorb
  · rw [hitem] at hread
    rwa [hread] at habsorb
  · rw [hitem] at hread
    rwa [hread] at habsorb

/-! What one item takes off a buffer, with more behind the buffer. -/

section More

variable {r : BodyReader} {buffer : Bytes}

/-- After a chunk, more octets follow what is left of the buffer. -/
theorem absorb_append_of_chunk (h : r.Sound) {data : Bytes}
    (hitem : (r.read buffer).item = .ok (some (.chunk data))) (more : Bytes) :
    r.absorb (buffer ++ more) =
      ((r.read buffer).reader.absorb ((r.read buffer).buffer ++ more)).prepend data := by
  have hread := absorb_read h buffer
  rw [hitem] at hread
  obtain ⟨_, habsorb⟩ := hread
  have hstop : (r.absorb buffer).stop =
      ((r.read buffer).reader.absorb (r.read buffer).buffer).stop := by rw [habsorb]; rfl
  by_cases hstarved : (r.absorb buffer).stop = .starved
  · rw [absorb_append hstarved, absorb_append (hstop ▸ hstarved), habsorb]
    simp [Absorbed.prepend]
  · rw [absorb_append_of_stopped hstarved, absorb_append_of_stopped (hstop ▸ hstarved), habsorb]
    rfl

/-- At the end, more octets are left as well. -/
theorem absorb_append_of_eof (h : r.Sound) (hitem : (r.read buffer).item = .ok (some .eof))
    (more : Bytes) :
    r.absorb (buffer ++ more) =
      ⟨[], .ended, (r.read buffer).reader, (r.read buffer).buffer ++ more⟩ := by
  have hread := absorb_read h buffer
  rw [hitem] at hread
  rw [absorb_append_of_stopped (by rw [hread]; exact nofun), hread]

/-- After an error, more octets are left as well. -/
theorem absorb_append_of_error (h : r.Sound) {error : MessageError}
    (hitem : (r.read buffer).item = .error error) (more : Bytes) :
    r.absorb (buffer ++ more) =
      ⟨[], .failed error, (r.read buffer).reader, (r.read buffer).buffer ++ more⟩ := by
  have hread := absorb_read h buffer
  rw [hitem] at hread
  rw [absorb_append_of_stopped (by rw [hread]; exact nofun), hread]

/-- Where there was nothing yet, more octets may complete an item. -/
theorem absorb_append_of_none (h : r.Sound) (hitem : (r.read buffer).item = .ok none)
    (more : Bytes) :
    r.absorb (buffer ++ more) =
      (r.read buffer).reader.absorb ((r.read buffer).buffer ++ more) := by
  have hread := absorb_read h buffer
  rw [hitem] at hread
  have hstarved : (r.absorb buffer).stop = .starved := by rw [hread]
  have hempty : (r.read buffer).buffer = [] := by
    have hrest := rest_absorb_of_starved hstarved
    rwa [hread] at hrest
  rw [absorb_append hstarved, hread, hempty]
  rfl

end More

end BodyReader

/-! ## Feeding and asking in any order -/

/-- What is done with a reader: octets arrive, or the next item is asked for. -/
inductive ReaderCall where
  | feed (octets : Bytes)
  | read

/-- All octets that arrive. -/
def fed : List ReaderCall → Bytes
  | [] => []
  | .feed octets :: calls => octets ++ fed calls
  | .read :: calls => fed calls

/-- Feeds and asks a reader in any order, up to the end of the body or the first fault. -/
def ChunkReader.drive (r : ChunkReader) (buffer : Bytes) : List ReaderCall → Drained ChunkReader
  | [] => ⟨[], .starved, r, buffer⟩
  | .feed octets :: calls => r.drive (buffer ++ octets) calls
  | .read :: calls =>
      let reply := r.read buffer
      match reply.item with
      | .ok (some (.chunk data)) => (reply.reader.drive reply.buffer calls).cons data
      | .ok (some .eof) => ⟨[], .ended, reply.reader, reply.buffer ++ fed calls⟩
      | .ok none => reply.reader.drive reply.buffer calls
      | .error error => ⟨[], .failed error, reply.reader, reply.buffer ++ fed calls⟩

/-- What comes of a run when more octets follow it. A run that has stopped leaves them unread. -/
def Drained.resume (d : Drained ChunkReader) (more : Bytes) : Absorbed :=
  match d.stop with
  | .starved => ((BodyReader.chunked d.reader).absorb (d.buffer ++ more)).prepend d.chunks.flatten
  | stop => ⟨d.chunks.flatten, stop, .chunked d.reader, d.buffer ++ more⟩

namespace Drained

variable {d : Drained ChunkReader} (more : Bytes)

/-- A chunk stays in front of all that follows. -/
theorem resume_cons (data : Bytes) : (d.cons data).resume more = (d.resume more).prepend data := by
  obtain ⟨chunks, stop, reader, buffer⟩ := d
  cases stop with
  | starved =>
    rw [resume, resume, cons, List.flatten_cons, ← Absorbed.prepend_prepend]
  | ended => rfl
  | failed error => rfl

/-- A run that wants more goes on with the octets that follow. -/
theorem resume_of_starved (h : d.stop = .starved) :
    d.resume more =
      ((BodyReader.chunked d.reader).absorb (d.buffer ++ more)).prepend d.chunks.flatten := by
  rw [resume, h]

/-- A run that has stopped leaves them. -/
theorem resume_of_stopped (h : d.stop ≠ .starved) :
    d.resume more = ⟨d.chunks.flatten, d.stop, .chunked d.reader, d.buffer ++ more⟩ := by
  rw [resume]
  split
  · next hstarved => exact absurd hstarved h
  · rfl

end Drained

namespace ChunkReader

/-- Feeding and asking in any order comes to the same as taking all octets one by one. -/
theorem absorb_drive {r : ChunkReader} (h : (BodyReader.chunked r).Sound) (buffer : Bytes)
    (calls : List ReaderCall) (more : Bytes) :
    (BodyReader.chunked r).absorb (buffer ++ (fed calls ++ more)) =
      (r.drive buffer calls).resume more := by
  induction calls generalizing r buffer with
  | nil => rw [drive, Drained.resume_of_starved more rfl]; rfl
  | cons call calls ih =>
    cases call with
    | feed octets =>
      rw [fed, drive, List.append_assoc, ← List.append_assoc buffer]
      exact ih h (buffer ++ octets)
    | read =>
      have hsound : (BodyReader.chunked (r.read buffer).reader).Sound := BodyReader.sound_read h buffer
      have hreply : (BodyReader.chunked r).read buffer =
          ⟨(r.read buffer).item, .chunked (r.read buffer).reader, (r.read buffer).buffer⟩ := rfl
      rw [fed]
      obtain ⟨data, hitem⟩ | hitem | hitem | ⟨error, hitem⟩ := item_cases (r.read buffer).item
      · have hmore := BodyReader.absorb_append_of_chunk h (by rw [hreply]; exact hitem)
          (fed calls ++ more)
        simp only [drive, hitem]
        rw [hmore, hreply, ih hsound, Drained.resume_cons]
      · have hmore := BodyReader.absorb_append_of_eof h (by rw [hreply]; exact hitem)
          (fed calls ++ more)
        simp only [drive, hitem]
        rw [hmore, hreply, Drained.resume_of_stopped more (by exact nofun), List.append_assoc]
        rfl
      · have hmore := BodyReader.absorb_append_of_none h (by rw [hreply]; exact hitem)
          (fed calls ++ more)
        simp only [drive, hitem]
        rw [hmore, hreply]
        exact ih hsound (r.read buffer).buffer
      · have hmore := BodyReader.absorb_append_of_error h (by rw [hreply]; exact hitem)
          (fed calls ++ more)
        simp only [drive, hitem]
        rw [hmore, hreply, Drained.resume_of_stopped more (by exact nofun), List.append_assoc]
        rfl

/-- Where a driven reader comes to the end, it has taken the same octets as one that takes all of them
one by one. -/
theorem absorbed_drive_of_ended {r : ChunkReader} (h : (BodyReader.chunked r).Sound) {buffer : Bytes}
    {calls : List ReaderCall} (hended : (r.drive buffer calls).stop = .ended) :
    ((r.drive buffer calls).map BodyReader.chunked).absorbed =
      (BodyReader.chunked r).absorb (buffer ++ fed calls) := by
  have hstopped : (r.drive buffer calls).stop ≠ .starved := by rw [hended]; exact nofun
  have hdrive := absorb_drive h buffer calls []
  rw [List.append_nil, Drained.resume_of_stopped [] hstopped, List.append_nil] at hdrive
  exact hdrive.symm

end ChunkReader

/-- Whatever a reader has taken when it reports the end of a body is a chunked body, and the chunks it
has yielded carry its payload, in whatever pieces the octets arrive and whenever an item is asked for. The
size lines all have a digit, as the grammar asks for, exactly if the last of them has one. -/
theorem ended_reads_body {calls : List ReaderCall}
    (hended : (ChunkReader.start.drive [] calls).stop = .ended) :
    ∃ body : ChunkedBody,
      fed calls = body.octets ++ (ChunkReader.start.drive [] calls).buffer ∧
      (ChunkReader.start.drive [] calls).chunks.flatten = body.payload ∧
      ((∃ proper : ChunkedBody, proper.HasDigits ∧ proper.octets = body.octets ∧
        proper.payload = body.payload) ↔ body.last.digits ≠ []) := by
  have hsound : (BodyReader.chunked .start).Sound := BodyReader.sound_ofFraming .chunked
  have habsorbed := ChunkReader.absorbed_drive_of_ended hsound hended
  rw [List.nil_append] at habsorbed
  have hstop : ((BodyReader.chunked .start).absorb (fed calls)).stop = .ended := by
    rw [← habsorbed]
    exact hended
  obtain ⟨front, hfront, hfollows⟩ := BodyReader.follows_of_absorb hsound (by decide) hstop
  rw [← habsorbed] at hfront hfollows
  obtain ⟨body, rfl, hpayload⟩ := isBody_of_isSize hfollows
  refine ⟨body, hfront, hpayload, ?_⟩
  rw [← ChunkedBody.hasDigits_iff]
  constructor
  · rintro ⟨proper, hproper, hoctets, _⟩
    exact (ChunkedBody.hasDigits_of_octets_eq hoctets).mp hproper
  · intro hdigits
    exact ⟨body, hdigits, rfl, rfl⟩

/-- A body whose chunk arrives in two pieces, and the octets of another message behind it. -/
def partedBody : List ReaderCall :=
  [.feed (Ascii.bytes "5;x\r\nhel"), .read, .read, .feed (Ascii.bytes "lo\r\n0\r\nA: b\r\n\r\nGET"),
    .read, .read]

/-- A body that is fed in parts, with questions between them, is read to its end. -/
theorem partedBody_reads_body :
    (ChunkReader.start.drive [] partedBody).stop = .ended ∧
    ∃ body : ChunkedBody, fed partedBody = body.octets ++ Ascii.bytes "GET" ∧
      body.payload = Ascii.bytes "hello" := by
  have hended : (ChunkReader.start.drive [] partedBody).stop = .ended := by decide
  have hbuffer : (ChunkReader.start.drive [] partedBody).buffer = Ascii.bytes "GET" := by decide
  have hchunks : (ChunkReader.start.drive [] partedBody).chunks =
      [Ascii.bytes "hel", Ascii.bytes "lo"] := by decide
  obtain ⟨body, hoctets, hpayload, _⟩ := ended_reads_body hended
  rw [hbuffer] at hoctets
  rw [hchunks] at hpayload
  exact ⟨hended, body, hoctets, hpayload.symm⟩

/-- Two empty lines are taken for a body, and the grammar knows no such body. -/
theorem digitless_line_ends_body :
    (ChunkReader.start.drive [] [.feed (crlf ++ crlf), .read]).stop = .ended ∧
    (ChunkReader.start.drive [] [.feed (crlf ++ crlf), .read]).buffer = [] ∧
    ¬ ∃ body : ChunkedBody, body.HasDigits ∧ body.octets = crlf ++ crlf := by
  refine ⟨by decide, by decide, ?_⟩
  rintro ⟨body, hdigits, hoctets⟩
  obtain ⟨b, rest, hbody, hb⟩ := ChunkedBody.exists_digit hdigits
  obtain rfl : b = cr := by
    have hcons : b :: rest = crlf ++ crlf := hbody.symm.trans hoctets
    exact (List.cons.inj hcons).1
  exact absurd hb (by decide)

end RelayTunnel.Http
