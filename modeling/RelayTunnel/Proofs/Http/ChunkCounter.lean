import RelayTunnel.Proofs.Http.BodySessions
import RelayTunnel.Proofs.Http.ChunkLines

/-!
# The counter of a reader of chunks

A reader of chunks counts with one number: in a size line it is the size read so far, in a chunk what is left
of it. A session feeds a reader and asks it in any order, and goes on behind errors. Beside the reader it keeps
a `ChunkLedger`, which the reader knows nothing of: for each size line the digits that were accepted and the
payload that was yielded behind it. Wherever the reader stands, the payload behind the present size line and
the counter add up to the size that the line states (`InStep.counted`); each step on an octet keeps that
(`InStep.octet`), hence each call does, and hence a session (`run_counts`). What a call does to the buffer is
said by `Steps`, the octets of framing that it accepts one by one.
-/

set_option autoImplicit false

namespace RelayTunnel.Http

/-! ## What one call takes -/

namespace ChunkReader

variable {r r' : ChunkReader} {b : UInt8} {buffer rest front data : Bytes} {error : MessageError}

/-- Whether the reader is behind framing, in front of payload or at the end of the body. -/
def IsBehindFraming (r : ChunkReader) : Prop := r.place = .data ∨ r.place = .done

/-- Behind framing, no octet of framing is accepted. -/
theorem octet_of_isBehindFraming (h : r.IsBehindFraming) (b : UInt8) :
    r.octet b = .error (.unexpected b r.place) := by
  rcases h with h | h <;> rw [octet, h]

/-- The reader accepts these octets of framing one after another. -/
inductive Steps : ChunkReader → Bytes → ChunkReader → Prop where
  | nil (r : ChunkReader) : Steps r [] r
  | cons {r between r' : ChunkReader} {b : UInt8} {bs : Bytes} :
      Step r b between → Steps between bs r' → Steps r (b :: bs) r'

/-- An octet of framing that is refused in front of the rest, and the reader there. -/
def Refuses (r : ChunkReader) (buffer : Bytes) (fault : ChunkFault) (r' : ChunkReader) (rest : Bytes) :
    Prop :=
  ∃ front b, buffer = front ++ b :: rest ∧ Steps r front r' ∧ ¬ r'.IsBehindFraming ∧
    r'.octet b = .error fault

/-- Skipping without a fault accepts octets up to the end of the framing or of the buffer. -/
theorem skipFraming_of_none (h : (r.skipFraming buffer).fault = none) :
    ∃ front, buffer = front ++ (r.skipFraming buffer).rest ∧
      Steps r front (r.skipFraming buffer).reader ∧
      ((r.skipFraming buffer).rest = [] ∨ (r.skipFraming buffer).reader.IsBehindFraming) := by
  induction buffer generalizing r with
  | nil => exact ⟨[], rfl, .nil r, .inl rfl⟩
  | cons b bs ih =>
    by_cases hstop : r.place = .data ∨ r.place = .done
    · rw [BodyReader.skipFraming_of_stop hstop]
      exact ⟨[], rfl, .nil r, .inr hstop⟩
    · cases hoctet : r.octet b with
      | ok next =>
        rw [BodyReader.skipFraming_of_ok hstop hoctet] at h ⊢
        obtain ⟨front, hbuffer, hsteps, hend⟩ := ih h
        exact ⟨b :: front, congrArg (b :: ·) hbuffer, .cons (step_of_octet hoctet) hsteps, hend⟩
      | error fault =>
        rw [BodyReader.skipFraming_of_error hstop hoctet] at h
        cases h

/-- Skipping with a fault ends at an octet that is refused. -/
theorem refuses_of_skipFraming {fault : ChunkFault} (h : (r.skipFraming buffer).fault = some fault) :
    r.Refuses buffer fault (r.skipFraming buffer).reader (r.skipFraming buffer).rest := by
  induction buffer generalizing r with
  | nil => cases h
  | cons b bs ih =>
    by_cases hstop : r.place = .data ∨ r.place = .done
    · rw [BodyReader.skipFraming_of_stop hstop] at h
      cases h
    · cases hoctet : r.octet b with
      | ok next =>
        rw [BodyReader.skipFraming_of_ok hstop hoctet] at h ⊢
        obtain ⟨front, refused, hbuffer, hsteps, hend⟩ := ih h
        exact ⟨b :: front, refused, congrArg (b :: ·) hbuffer,
          .cons (step_of_octet hoctet) hsteps, hend⟩
      | error fault' =>
        rw [BodyReader.skipFraming_of_error hstop hoctet] at h ⊢
        cases h
        exact ⟨[], b, rfl, .nil r, hstop, hoctet⟩

/-- A call that fails has taken the octet that was refused, and what was accepted in front of it. -/
theorem refuses_of_error (h : (r.read buffer).item = .error error) :
    ∃ fault, error = .malformedBody fault.reason ∧
      r.Refuses buffer fault (r.read buffer).reader (r.read buffer).buffer := by
  rw [read] at h ⊢
  cases hfault : (r.skipFraming buffer).fault with
  | some fault =>
    simp only [hfault] at h ⊢
    exact ⟨fault, (Except.error.inj h).symm, refuses_of_skipFraming hfault⟩
  | none =>
    simp only [hfault] at h
    split at h
    · cases h
    · split at h <;> cases h

/-- A call that yields a chunk has come to payload, takes the chunk off it and counts it down. -/
theorem read_of_chunk (h : (r.read buffer).item = .ok (some (.chunk data))) :
    ∃ left, (r.skipFraming buffer).fault = none ∧
      (r.skipFraming buffer).reader = ⟨.data, data.length + left⟩ ∧
      (r.skipFraming buffer).rest = data ++ (r.read buffer).buffer ∧
      (r.read buffer).reader = ⟨if left = 0 then .dataCr else .data, left⟩ := by
  rw [read] at h ⊢
  generalize r.skipFraming buffer = skipped at h ⊢
  obtain ⟨⟨place, remaining⟩, rest, _ | fault⟩ := skipped
  · dsimp only at h ⊢
    split at h
    · cases h
    · next hdone =>
      rw [if_neg hdone]
      split at h
      · next hdata =>
        rw [if_pos hdata]
        obtain ⟨rfl, -⟩ := hdata
        cases h
        have hle : (rest.take remaining).length ≤ remaining := List.length_take_le _ _
        refine ⟨remaining - (rest.take remaining).length, rfl, ?_, ?_, rfl⟩
        · rw [Nat.add_sub_cancel' hle]
        · exact (List.take_append_drop _ _).symm
      · cases h
  · cases h

/-- A call that yields no chunk leaves the reader behind the framing that it accepts. -/
theorem read_of_no_chunk (h : ∀ data, (r.read buffer).item ≠ .ok (some (.chunk data))) :
    (r.read buffer).reader = (r.skipFraming buffer).reader := by
  rw [read] at h ⊢
  generalize r.skipFraming buffer = skipped at h ⊢
  obtain ⟨reader, rest, _ | fault⟩ := skipped
  · dsimp only at h ⊢
    split at h
    · next hdone => rw [if_pos hdone]
    · next hdone =>
      rw [if_neg hdone]
      split at h
      · exact absurd rfl (h _)
      · next hdata => rw [if_neg hdata]
  · rfl

/-- A chunk is taken off the payload that remains, at most all of it, and is counted down. -/
def Pays (r : ChunkReader) (buffer data : Bytes) (r' : ChunkReader) (rest : Bytes) : Prop :=
  ∃ front left, buffer = front ++ data ++ rest ∧ Steps r front ⟨.data, data.length + left⟩ ∧
    data ≠ [] ∧ r' = ⟨if left = 0 then .dataCr else .data, left⟩

/-- A call that yields a chunk has accepted framing and then taken the payload. -/
theorem pays_of_chunk (hpos : r.place = .data → 0 < r.remaining)
    (h : (r.read buffer).item = .ok (some (.chunk data))) :
    r.Pays buffer data (r.read buffer).reader (r.read buffer).buffer := by
  have hsound : (BodyReader.chunked r).Sound := hpos
  obtain ⟨hne, -⟩ := BodyReader.chunk_of_chunked hsound h
  obtain ⟨left, hfault, hreader, hrest, hleft⟩ := read_of_chunk h
  obtain ⟨front, hbuffer, hsteps, -⟩ := skipFraming_of_none hfault
  rw [hreader] at hsteps
  rw [hrest, ← List.append_assoc] at hbuffer
  exact ⟨front, left, hbuffer, hsteps, hne, hleft⟩

end ChunkReader

/-! ## The ledger -/

/-- A size line as far as it has been read, and the payload that has come behind it. -/
structure SizeEntry where
  digits : Bytes
  payload : Bytes

namespace SizeEntry

/-- A size line of which nothing has been read. -/
def blank : SizeEntry := ⟨[], []⟩

/-- The size that the line states. -/
def size (entry : SizeEntry) : Nat := sizeFrom 0 entry.digits

end SizeEntry

/-- The size lines of a body so far: those that another line has followed, and the present one. -/
structure ChunkLedger where
  past : List SizeEntry
  present : SizeEntry

namespace ChunkLedger

def blank : ChunkLedger := ⟨[], .blank⟩

/-- All payload in the ledger. -/
def payload (ledger : ChunkLedger) : Bytes :=
  ledger.past.flatMap SizeEntry.payload ++ ledger.present.payload

/-- An octet of framing is accepted at a place: a digit belongs to the present line, and the line end behind
a chunk opens a line. -/
def note (ledger : ChunkLedger) (place : ChunkPlace) (b : UInt8) : ChunkLedger :=
  match place with
  | .size =>
      if isHexDigit b then
        { ledger with present := { ledger.present with digits := ledger.present.digits ++ [b] } }
      else ledger
  | .dataLf => ⟨ledger.past ++ [ledger.present], .blank⟩
  | _ => ledger

/-- All octets of framing are noted that a reader accepts at the front of a buffer. -/
def noteAll (ledger : ChunkLedger) (r : ChunkReader) : Bytes → ChunkLedger
  | [] => ledger
  | b :: rest =>
      match r.octet b with
      | .ok r' => (ledger.note r.place b).noteAll r' rest
      | .error _ => ledger

def pay (ledger : ChunkLedger) (data : Bytes) : ChunkLedger :=
  { ledger with present := { ledger.present with payload := ledger.present.payload ++ data } }

/-- Where there are no digits and no line ends of chunks, nothing is noted. -/
theorem note_of_place (ledger : ChunkLedger) {place : ChunkPlace} (hsize : place ≠ .size)
    (hdata : place ≠ .dataLf) (b : UInt8) : ledger.note place b = ledger := by
  cases place <;> first | rfl | contradiction

/-- In a size line, only a digit is noted. -/
theorem note_of_not_digit (ledger : ChunkLedger) {place : ChunkPlace} {b : UInt8}
    (hb : isHexDigit b = false) (hdata : place ≠ .dataLf) : ledger.note place b = ledger := by
  by_cases hsize : place = .size
  · simp [hsize, note, hb]
  · exact ledger.note_of_place hsize hdata b

/-- Framing adds no payload. -/
theorem payload_note (ledger : ChunkLedger) (place : ChunkPlace) (b : UInt8) :
    (ledger.note place b).payload = ledger.payload := by
  by_cases hsize : place = .size
  · rw [hsize, note]
    split <;> rfl
  · by_cases hdata : place = .dataLf
    · simp [hdata, note, payload, SizeEntry.blank]
    · rw [ledger.note_of_place hsize hdata]

/-- Nor does any amount of it. -/
theorem payload_noteAll (ledger : ChunkLedger) (r : ChunkReader) (buffer : Bytes) :
    (ledger.noteAll r buffer).payload = ledger.payload := by
  induction buffer generalizing ledger r with
  | nil => rfl
  | cons b rest ih =>
    rw [noteAll]
    split
    · rw [ih, payload_note]
    · rfl

/-- Payload that is not there adds nothing. -/
theorem pay_nil (ledger : ChunkLedger) : ledger.pay [] = ledger := by
  rw [pay, List.append_nil]

/-- Payload that is there is added behind. -/
theorem payload_pay (ledger : ChunkLedger) (data : Bytes) :
    (ledger.pay data).payload = ledger.payload ++ data := by
  simp [payload, pay]

end ChunkLedger

/-- What is no chunk has no payload. -/
theorem payloadOf_of_no_chunk {item : Except MessageError (Option PayloadItem)}
    (h : ∀ data, item ≠ .ok (some (.chunk data))) : payloadOf item = [] := by
  obtain ⟨data, hitem⟩ | rfl | rfl | ⟨error, rfl⟩ := item_cases item
  · exact absurd hitem (h data)
  · rfl
  · rfl
  · rfl

/-! ## The counter and the place -/

/-- Whether a place is in a size line. -/
def ChunkPlace.isInSizeLine : ChunkPlace → Bool
  | .size | .sizeBlank | .extension | .sizeLf => true
  | _ => false

/-- Whether a place is behind the payload of a chunk or behind the last size line. -/
def ChunkPlace.isBehindChunk : ChunkPlace → Bool
  | .dataCr | .dataLf | .trailerStart | .trailer | .trailerLf | .endLf | .done => true
  | _ => false

/-- A place in a size line is neither in front of payload nor behind a chunk. -/
theorem ChunkPlace.of_isInSizeLine {place : ChunkPlace} (h : place.isInSizeLine = true) :
    place ≠ .data ∧ ¬ place.isBehindChunk = true := by
  cases place <;> simp_all [isInSizeLine, isBehindChunk]

/-- A place behind a chunk is neither in front of payload nor in a size line. -/
theorem ChunkPlace.of_isBehindChunk {place : ChunkPlace} (h : place.isBehindChunk = true) :
    place ≠ .data ∧ ¬ place.isInSizeLine = true := by
  cases place <;> simp_all [isInSizeLine, isBehindChunk]

/-- The counter is in step with the place, and with what has been read and yielded. -/
structure InStep (r : ChunkReader) (ledger : ChunkLedger) : Prop where
  data_pos : r.place = .data → 0 < r.remaining
  spent : r.place.isBehindChunk = true → r.remaining = 0
  fits : r.remaining < chunkSizeBound
  /-- What has been yielded of the present chunk and what is left of it make up its size. -/
  counted : ledger.present.payload.length + r.remaining = ledger.present.size
  /-- Nothing is yielded before the end of a size line. -/
  unpaid : r.place.isInSizeLine = true → ledger.present.payload = []
  /-- Before another size line is read, all of the chunk has been yielded. -/
  past_paid : ∀ entry ∈ ledger.past, entry.payload.length = entry.size

namespace InStep

variable {r r' : ChunkReader} {ledger : ChunkLedger} {b : UInt8} {buffer : Bytes}

/-- A reader that has just been made is in step. -/
theorem start : InStep .start .blank where
  data_pos := by rintro ⟨⟩
  spent _ := rfl
  fits := by decide
  counted := rfl
  unpaid _ := rfl
  past_paid := by simp [ChunkLedger.blank]

/-- A step within a size line. -/
theorem inLine {place place' : ChunkPlace} {size : Nat} (h : InStep ⟨place, size⟩ ledger)
    (hplace : place.isInSizeLine = true) (hplace' : place'.isInSizeLine = true) :
    InStep ⟨place', size⟩ ledger where
  data_pos hdata := absurd hdata (ChunkPlace.of_isInSizeLine hplace').1
  spent hbehind := absurd hbehind (ChunkPlace.of_isInSizeLine hplace').2
  fits := h.fits
  counted := h.counted
  unpaid _ := h.unpaid hplace
  past_paid := h.past_paid

/-- A step behind a chunk, or to the end of the last size line. -/
theorem behindChunk {place place' : ChunkPlace} {size : Nat} (h : InStep ⟨place, size⟩ ledger)
    (hsize : size = 0) (hplace' : place'.isBehindChunk = true) : InStep ⟨place', size⟩ ledger where
  data_pos hdata := absurd hdata (ChunkPlace.of_isBehindChunk hplace').1
  spent _ := hsize
  fits := h.fits
  counted := h.counted
  unpaid hline := absurd hline (ChunkPlace.of_isBehindChunk hplace').2
  past_paid := h.past_paid

/-- The end of a size line in front of payload. -/
theorem toData {place : ChunkPlace} {size : Nat} (h : InStep ⟨place, size⟩ ledger) (hsize : 0 < size) :
    InStep ⟨.data, size⟩ ledger where
  data_pos _ := hsize
  spent := by rintro ⟨⟩
  fits := h.fits
  counted := h.counted
  unpaid := by rintro ⟨⟩
  past_paid := h.past_paid

/-- A digit goes behind those of the present line and into the counter alike. -/
theorem digit {size digit : Nat} (h : InStep ⟨.size, size⟩ ledger)
    (hdigit : Ascii.hexValue? b = some digit) (hfits : size * 16 + digit < chunkSizeBound) :
    InStep ⟨.size, size * 16 + digit⟩ (ledger.note .size b) := by
  have hhex : isHexDigit b = true := by rw [isHexDigit, hdigit]; rfl
  have hnone := h.unpaid rfl
  have hcounted := h.counted
  rw [hnone, SizeEntry.size] at hcounted
  simp only [List.length_nil, Nat.zero_add] at hcounted
  rw [ChunkLedger.note, if_pos hhex]
  refine ⟨by rintro ⟨⟩, by rintro ⟨⟩, hfits, ?_, fun _ => hnone, h.past_paid⟩
  rw [hnone, SizeEntry.size, sizeFrom_append, ← hcounted, sizeFrom_cons hdigit]
  exact Nat.zero_add _

/-- The line end behind a chunk closes the books on it. -/
theorem nextLine {size : Nat} (h : InStep ⟨.dataLf, size⟩ ledger) :
    InStep ⟨.size, size⟩ (ledger.note .dataLf b) := by
  obtain rfl : size = 0 := h.spent rfl
  refine ⟨by rintro ⟨⟩, by rintro ⟨⟩, h.fits, rfl, fun _ => rfl, fun entry hentry => ?_⟩
  rcases List.mem_append.mp hentry with hpast | hpresent
  · exact h.past_paid entry hpast
  · rw [List.mem_singleton.mp hpresent]
    exact h.counted

/-- An octet of framing that is accepted keeps the reader in step. -/
theorem octet (h : InStep r ledger) (hstep : ChunkReader.Step r b r') :
    InStep r' (ledger.note r.place b) := by
  cases hstep with
  | digit hdigit hfits => exact h.digit hdigit hfits
  | dataLf => exact h.nextLine
  | blank hplace hblank =>
    have hplain : isHexDigit b = false := by rw [isHexDigit, ChunkReader.hexValue?_of_isBlank hblank]; rfl
    rcases hplace with rfl | rfl
    · have hsame : ledger.note .size b = ledger := ledger.note_of_not_digit hplain (by decide)
      show InStep _ (ledger.note .size b)
      rw [hsame]
      exact h.inLine rfl rfl
    · exact h
  | semicolon hplace =>
    rcases hplace with rfl | rfl
    · exact h.inLine rfl rfl
    · exact h.inLine rfl rfl
  | extension _ _ => exact h
  | sizeCr hplace =>
    rcases hplace with (rfl | rfl) | rfl
    · exact h.inLine rfl rfl
    · exact h.inLine rfl rfl
    · exact h.inLine rfl rfl
  | @sizeLf size =>
    by_cases hzero : size = 0
    · rw [if_pos hzero]
      exact h.behindChunk hzero rfl
    · rw [if_neg hzero]
      exact h.toData (Nat.pos_of_ne_zero hzero)
  | trailer hplace _ =>
    rcases hplace with rfl | rfl
    · exact h.behindChunk (h.spent rfl) rfl
    · exact h
  | dataCr | trailerCr | trailerLf | endCr | endLf => exact h.behindChunk (h.spent rfl) rfl

/-- All the framing of a call keeps the counter in step. -/
theorem skipFraming (h : InStep r ledger) (buffer : Bytes) :
    InStep (r.skipFraming buffer).reader (ledger.noteAll r buffer) := by
  induction buffer generalizing r ledger with
  | nil => exact h
  | cons b bs ih =>
    rw [ChunkLedger.noteAll]
    by_cases hstop : r.place = .data ∨ r.place = .done
    · rw [BodyReader.skipFraming_of_stop hstop, ChunkReader.octet_of_isBehindFraming hstop]
      exact h
    · cases hoctet : r.octet b with
      | ok next =>
        rw [BodyReader.skipFraming_of_ok hstop hoctet]
        exact ih (h.octet (ChunkReader.step_of_octet hoctet))
      | error fault =>
        rw [BodyReader.skipFraming_of_error hstop hoctet]
        exact h

/-- Payload that is counted down. -/
theorem pay {left : Nat} {data : Bytes} (h : InStep ⟨.data, data.length + left⟩ ledger) :
    InStep ⟨if left = 0 then .dataCr else .data, left⟩ (ledger.pay data) := by
  have hcounted := h.counted
  have hbound : left < chunkSizeBound := Nat.lt_of_le_of_lt (Nat.le_add_left _ _) h.fits
  have hmore : (ledger.pay data).present.payload.length + left = (ledger.pay data).present.size := by
    show (ledger.present.payload ++ data).length + left = ledger.present.size
    rw [List.length_append, Nat.add_assoc]
    exact hcounted
  by_cases hzero : left = 0
  · rw [if_pos hzero]
    exact ⟨by rintro ⟨⟩, fun _ => hzero, hbound, hmore, by rintro ⟨⟩, h.past_paid⟩
  · rw [if_neg hzero]
    exact ⟨fun _ => Nat.pos_of_ne_zero hzero, by rintro ⟨⟩, hbound, hmore, by rintro ⟨⟩, h.past_paid⟩

/-- A call notes what it accepts and pays what it yields. -/
theorem read (h : InStep r ledger) (buffer : Bytes) :
    InStep (r.read buffer).reader
      ((ledger.noteAll r buffer).pay (payloadOf (r.read buffer).item)) := by
  have hskipped := h.skipFraming buffer
  by_cases hchunk : ∃ data, (r.read buffer).item = .ok (some (.chunk data))
  · obtain ⟨data, hitem⟩ := hchunk
    obtain ⟨left, -, hreader, -, hleft⟩ := ChunkReader.read_of_chunk hitem
    rw [hreader] at hskipped
    rw [hitem, hleft]
    exact hskipped.pay
  · rw [ChunkReader.read_of_no_chunk (not_exists.mp hchunk), payloadOf_of_no_chunk (not_exists.mp hchunk),
      ChunkLedger.pay_nil]
    exact hskipped

end InStep

/-! ## Sessions -/

/-- A reader of chunks between two calls, with its buffer, its ledger and what it has answered. -/
structure ChunkSession where
  reader : ChunkReader
  buffer : Bytes
  ledger : ChunkLedger
  answers : List (Except MessageError (Option PayloadItem))

namespace ChunkSession

def start : ChunkSession := ⟨.start, [], .blank, []⟩

/-- What would be answered next. -/
def asked (s : ChunkSession) : Reply ChunkReader := s.reader.read s.buffer

def call (s : ChunkSession) : ReaderCall → ChunkSession
  | .feed octets => { s with buffer := s.buffer ++ octets }
  | .read =>
      { reader := s.asked.reader
        buffer := s.asked.buffer
        ledger := (s.ledger.noteAll s.reader s.buffer).pay (payloadOf s.asked.item)
        answers := s.answers ++ [s.asked.item] }

def run (s : ChunkSession) (calls : List ReaderCall) : ChunkSession := calls.foldl call s

/-- All payload so far. -/
def yielded (s : ChunkSession) : Bytes := s.answers.flatMap payloadOf

/-- What holds of a session between two calls. -/
structure Counts (s : ChunkSession) : Prop where
  inStep : InStep s.reader s.ledger
  /-- The ledger holds all that has been yielded, in order. -/
  yielded : s.yielded = s.ledger.payload
  /-- A chunk is not empty, not longer than what remains, and counted down. -/
  chunk : ∀ data, s.asked.item = .ok (some (.chunk data)) →
    s.reader.Pays s.buffer data s.asked.reader s.asked.buffer
  /-- A call that fails has dropped all octets up to the one that is refused, and leaves the reader as it was
  in front of it. -/
  failed : ∀ error, s.asked.item = .error error → ∃ fault, error = .malformedBody fault.reason ∧
    s.reader.Refuses s.buffer fault s.asked.reader s.asked.buffer
  /-- At the end of the body nothing is consumed any more, whatever is fed and asked. -/
  done : s.reader.place = .done → ∀ later,
    (s.run later).asked = ⟨.ok (some .eof), s.reader, (s.run later).buffer⟩

variable {s : ChunkSession}

/-- What every call keeps holds throughout a session. -/
theorem run_keeps {P : ChunkSession → Prop} (hcall : ∀ s c, P s → P (s.call c)) (h : P s)
    (calls : List ReaderCall) : P (s.run calls) := by
  induction calls generalizing s with
  | nil => exact h
  | cons c calls ih => exact ih (hcall s c h)

/-- A reader at the end of the body stays there. -/
theorem asked_of_done (h : s.reader.place = .done) (later : List ReaderCall) :
    (s.run later).asked = ⟨.ok (some .eof), s.reader, (s.run later).buffer⟩ := by
  have hkeeps : ∀ (t : ChunkSession) c, t.reader = s.reader → (t.call c).reader = s.reader := by
    intro t c hsame
    have hfinished : t.reader.isFinished = true := by simp [ChunkReader.isFinished, hsame, h]
    cases c with
    | feed octets => exact hsame
    | read =>
      show t.asked.reader = s.reader
      rw [asked, ChunkReader.read_of_isFinished hfinished]
      exact hsame
  have hreader := run_keeps hkeeps rfl later
  have hfinished : (s.run later).reader.isFinished = true := by
    simp [ChunkReader.isFinished, hreader, h]
  rw [asked, ChunkReader.read_of_isFinished hfinished, hreader]

/-- Every call keeps the reader in step. -/
theorem inStep_call (h : InStep s.reader s.ledger) (c : ReaderCall) :
    InStep (s.call c).reader (s.call c).ledger := by
  cases c with
  | feed octets => exact h
  | read => exact h.read s.buffer

/-- Every call yields what the ledger says. -/
theorem yielded_call (h : s.yielded = s.ledger.payload) (c : ReaderCall) :
    (s.call c).yielded = (s.call c).ledger.payload := by
  cases c with
  | feed octets => exact h
  | read =>
    show (s.answers ++ [s.asked.item]).flatMap payloadOf = _
    rw [call, ChunkLedger.payload_pay, ChunkLedger.payload_noteAll, ← h, yielded]
    simp

/-- In every session with a new reader of chunks, errors included, the counter keeps in step with the place:
all the payload behind a size line is yielded, and no more, before another line is read. -/
theorem run_counts (calls : List ReaderCall) : (start.run calls).Counts := by
  have hinStep : InStep (start.run calls).reader (start.run calls).ledger :=
    run_keeps (P := fun s => InStep s.reader s.ledger) (fun _ c h => inStep_call h c) InStep.start calls
  exact
    { inStep := hinStep
      yielded := run_keeps (P := fun s => s.yielded = s.ledger.payload) (fun _ c h => yielded_call h c)
        rfl calls
      chunk := fun _ hitem => ChunkReader.pays_of_chunk hinStep.data_pos hitem
      failed := fun _ hitem => ChunkReader.refuses_of_error hitem
      done := asked_of_done }

/-- A stray octet in a size is dropped, and the digits in front of it and behind it count. -/
example : (start.run [.feed (Ascii.bytes "1x2\r\nhello"), .read, .read]).reader = ⟨.data, 13⟩ ∧
    (start.run [.feed (Ascii.bytes "1x2\r\nhello"), .read, .read]).yielded = Ascii.bytes "hello" := by
  decide +kernel

end ChunkSession

end RelayTunnel.Http
