import RelayTunnel.Proofs.Http.ChunkAcceptance

/-!
# Sessions with a reader of bodies

The owner of a reader puts octets behind its buffer and asks for items in any order, on a connection that
may have been closed, and may go on asking behind the end and behind errors. `BodySession` holds the reader
and the buffer, and keeps what was fed and answered. What one call keeps, a session keeps (`run_keeps`).
Hence a body of a given length takes its octets off the front of the stream and no others
(`atLength_run`), one that ends with its connection takes all of them (`atClose_run`), and an empty one none
(`atNothing_run`). Whatever the framing, a reader that has reported the end goes on reporting it and leaves
every octet (`atEnd_of_eof_mem`), and every chunk is payload that was taken out of the buffer
(`BodyReader.chunk_of_reply`).
-/

set_option autoImplicit false

namespace RelayTunnel.Http

/-! ## One question -/

namespace BodyReader

variable {r : BodyReader} {closed : Bool} {buffer : Bytes}

/-- Reads the next item off a buffer, on a connection that may have been closed. -/
def reply (r : BodyReader) (closed : Bool) (buffer : Bytes) : Reply BodyReader :=
  if closed then r.readLast buffer else r.read buffer

/-- A reader that waits for the close is never another one. -/
theorem reader_read_eq_untilClose (r : BodyReader) (buffer : Bytes) :
    (r.read buffer).reader = .untilClose ↔ r = .untilClose := by
  cases r with
  | empty => simp [read]
  | untilClose => cases buffer <;> simp [read]
  | chunked reader => simp [read]
  | length remaining =>
    rw [read]
    split
    · simp
    · split <;> simp

/-- The close does not matter where there is an item. -/
theorem readLast_of_item (h : (r.read buffer).item ≠ .ok none) : r.readLast buffer = r.read buffer := by
  rw [readLast]
  split
  · next hitem => exact absurd hitem h
  · rfl

/-- A body that is cut short is an error. -/
theorem readLast_of_none (h : (r.read buffer).item = .ok none) (hopen : r ≠ .untilClose) :
    r.readLast buffer = ⟨.error truncated, (r.read buffer).reader, (r.read buffer).buffer⟩ := by
  have hreader := mt (reader_read_eq_untilClose r buffer).mp hopen
  simp only [readLast, h, if_neg hreader]

/-- The close of a connection matters where there is no item: it ends a body that lasts until then, and it
is an error in all others. -/
theorem reply_cases (r : BodyReader) (closed : Bool) (buffer : Bytes) :
    (r.reply closed buffer = r.read buffer ∧ (closed = true → (r.read buffer).item ≠ .ok none)) ∨
    (closed = true ∧ r = .untilClose ∧ buffer = [] ∧
      r.reply closed buffer = ⟨.ok (some .eof), .empty, []⟩) ∨
    (closed = true ∧ r ≠ .untilClose ∧ (r.read buffer).item = .ok none ∧
      r.reply closed buffer =
        ⟨.error truncated, (r.read buffer).reader, (r.read buffer).buffer⟩) := by
  cases closed with
  | false => exact Or.inl ⟨rfl, nofun⟩
  | true =>
    by_cases hitem : (r.read buffer).item = .ok none
    · by_cases hopen : r = .untilClose
      · subst hopen
        cases buffer with
        | nil => exact Or.inr (Or.inl ⟨rfl, rfl, rfl, rfl⟩)
        | cons b bs => cases hitem
      · exact Or.inr (Or.inr ⟨rfl, hopen, hitem, readLast_of_none hitem hopen⟩)
    · exact Or.inl ⟨readLast_of_item hitem, fun _ => hitem⟩

/-- A reply leaves a sound reader. -/
theorem sound_reply (h : r.Sound) (closed : Bool) (buffer : Bytes) :
    (r.reply closed buffer).reader.Sound := by
  have hread := sound_read h buffer
  rcases reply_cases r closed buffer with ⟨heq, -⟩ | ⟨-, -, -, heq⟩ | ⟨-, -, -, heq⟩
  · rwa [heq]
  · rw [heq]
    trivial
  · rwa [heq]

/-- At the end, every reply is the end. -/
theorem reply_of_isOver (h : r.isOver = true) (closed : Bool) (buffer : Bytes) :
    r.reply closed buffer = ⟨.ok (some .eof), r, buffer⟩ := by
  have hread := read_of_isOver h buffer
  rcases reply_cases r closed buffer with ⟨heq, -⟩ | ⟨-, rfl, -, -⟩ | ⟨-, -, hitem, -⟩
  · rw [heq, hread]
  · cases h
  · rw [hread] at hitem
    cases hitem

/-- A reader that reports the end is behind it. -/
theorem isOver_of_reply_eof (h : r.Sound) (hitem : (r.reply closed buffer).item = .ok (some .eof)) :
    (r.reply closed buffer).reader.isOver = true := by
  rcases reply_cases r closed buffer with ⟨heq, -⟩ | ⟨-, -, -, heq⟩ | ⟨-, -, -, heq⟩
  · rw [heq] at hitem ⊢
    have hread := absorb_read h buffer
    rw [hitem] at hread
    have hended : (r.absorb buffer).stop = .ended := by rw [hread]
    have hover := isOver_absorb_of_ended hended
    rwa [hread] at hover
  · rw [heq]
    rfl
  · rw [heq] at hitem
    cases hitem

/-- A chunk of a chunked body is payload behind some framing. -/
theorem chunk_of_chunked {reader : ChunkReader} (h : (chunked reader).Sound) {data : Bytes}
    (hitem : (reader.read buffer).item = .ok (some (.chunk data))) :
    data ≠ [] ∧ (reader.read buffer).buffer.length < buffer.length := by
  have hsound := sound_skipFraming h buffer
  have hle := ChunkReader.skipFraming_length_le reader buffer
  rw [ChunkReader.read] at hitem ⊢
  generalize reader.skipFraming buffer = s at hsound hle hitem ⊢
  obtain ⟨reader', rest, fault⟩ := s
  cases fault with
  | some fault => cases hitem
  | none =>
    dsimp only at hsound hle hitem ⊢
    split at hitem
    · cases hitem
    · next hdone =>
      rw [if_neg hdone]
      split at hitem
      · next hdata =>
        rw [if_pos hdata]
        have hremaining : 0 < reader'.remaining := hsound hdata.1
        have hrest : 0 < rest.length := List.length_pos_iff.mpr hdata.2
        cases hitem
        constructor
        · rw [ne_eq, List.take_eq_nil_iff]
          exact not_or.mpr ⟨Nat.ne_of_gt hremaining, hdata.2⟩
        · dsimp only
          rw [List.length_drop]
          omega
      · cases hitem

/-- A chunk is never empty, and the buffer is shorter behind it. -/
theorem chunk_of_read (h : r.Sound) {data : Bytes} (hitem : (r.read buffer).item = .ok (some (.chunk data))) :
    data ≠ [] ∧ (r.read buffer).buffer.length < buffer.length := by
  cases r with
  | empty => cases hitem
  | chunked reader => exact chunk_of_chunked h hitem
  | untilClose =>
    cases buffer with
    | nil => cases hitem
    | cons b bs =>
      cases hitem
      exact ⟨List.cons_ne_nil b bs, Nat.succ_pos _⟩
  | length remaining =>
    rw [read] at hitem ⊢
    split at hitem
    · cases hitem
    · next hzero =>
      rw [if_neg hzero]
      cases buffer with
      | nil => cases hitem
      | cons b bs =>
        cases hitem
        obtain ⟨left, rfl⟩ := Nat.exists_eq_succ_of_ne_zero hzero
        refine ⟨List.cons_ne_nil b _, ?_⟩
        show (bs.drop left).length < bs.length + 1
        rw [List.length_drop]
        omega

/-- A chunk in a reply has payload, which is taken off the buffer. -/
theorem chunk_of_reply (h : r.Sound) {data : Bytes}
    (hitem : (r.reply closed buffer).item = .ok (some (.chunk data))) :
    data ≠ [] ∧ (r.reply closed buffer).buffer.length < buffer.length := by
  rcases reply_cases r closed buffer with ⟨heq, -⟩ | ⟨-, -, -, heq⟩ | ⟨-, -, -, heq⟩
  · rw [heq] at hitem ⊢
    exact chunk_of_read h hitem
  · rw [heq] at hitem
    cases hitem
  · rw [heq] at hitem
    cases hitem

end BodyReader

/-! ## Sessions -/

/-- What the owner of a reader does: octets are put behind the buffer, or the next item is asked for. -/
inductive BodyCall where
  | feed (octets : Bytes)
  | ask (closed : Bool)

/-- A reader between two calls, with its buffer, what has been fed and what has been answered. -/
structure BodySession where
  reader : BodyReader
  buffer : Bytes
  fed : Bytes
  answers : List (Except MessageError (Option PayloadItem))

/-- The payload in an answer. -/
def payloadOf : Except MessageError (Option PayloadItem) → Bytes
  | .ok (some (.chunk data)) => data
  | _ => []

namespace BodySession

def start (framing : Framing) : BodySession := ⟨.ofFraming framing, [], [], []⟩

/-- What would be answered next. -/
def asked (s : BodySession) (closed : Bool) : Reply BodyReader := s.reader.reply closed s.buffer

def call (s : BodySession) : BodyCall → BodySession
  | .feed octets => { s with buffer := s.buffer ++ octets, fed := s.fed ++ octets }
  | .ask closed =>
      { s with
        reader := (s.asked closed).reader
        buffer := (s.asked closed).buffer
        answers := s.answers ++ [(s.asked closed).item] }

def run (s : BodySession) (calls : List BodyCall) : BodySession := calls.foldl call s

/-- All payload so far. -/
def yielded (s : BodySession) : Bytes := s.answers.flatMap payloadOf

/-- The end has been reached: whatever follows, the end is reported again and no octet is taken. -/
def AtEnd (s : BodySession) : Prop :=
  ∀ later closed, ((s.run later).asked closed).item = .ok (some .eof) ∧
    ((s.run later).asked closed).buffer = (s.run later).buffer

variable {s : BodySession} {framing : Framing}

/-- What every call keeps holds throughout a session. -/
theorem run_keeps {P : BodySession → Prop} (hcall : ∀ s c, P s → P (s.call c)) (h : P s)
    (calls : List BodyCall) : P (s.run calls) := by
  induction calls generalizing s with
  | nil => exact h
  | cons c calls ih => exact ih (hcall s c h)

/-- A question adds the payload of its answer. -/
theorem yielded_ask (s : BodySession) (closed : Bool) :
    (s.call (.ask closed)).yielded = s.yielded ++ payloadOf (s.asked closed).item := by
  simp [yielded, call]

/-- The end is among the answers if it was before or is the new one. -/
theorem eof_mem_ask (s : BodySession) (closed : Bool) :
    .ok (some .eof) ∈ (s.call (.ask closed)).answers ↔
      .ok (some .eof) ∈ s.answers ∨ (s.asked closed).item = .ok (some .eof) := by
  simp [call, eq_comm]

/-- At the end, the end would be answered. -/
theorem asked_of_isOver (h : s.reader.isOver = true) (closed : Bool) :
    s.asked closed = ⟨.ok (some .eof), s.reader, s.buffer⟩ :=
  BodyReader.reply_of_isOver h closed s.buffer

/-- A session whose reader is at the end has reached the end. -/
theorem atEnd_of_isOver (h : s.reader.isOver = true) : s.AtEnd := by
  have hkeeps : ∀ (s : BodySession) c, s.reader.isOver = true → (s.call c).reader.isOver = true := by
    intro s c hover
    cases c with
    | feed octets => exact hover
    | ask closed =>
      show (s.asked closed).reader.isOver = true
      rwa [asked_of_isOver hover]
  intro later closed
  rw [asked_of_isOver (run_keeps hkeeps h later)]
  exact ⟨rfl, rfl⟩

/-- The readers of a session are sound. -/
theorem sound_run (framing : Framing) (calls : List BodyCall) :
    ((start framing).run calls).reader.Sound := by
  refine run_keeps (P := fun s => s.reader.Sound) ?_ (BodyReader.sound_ofFraming framing) calls
  intro s c h
  cases c with
  | feed octets => exact h
  | ask closed => exact BodyReader.sound_reply h closed s.buffer

/-- A session in which the end has been reported is at the end. -/
theorem atEnd_of_eof_mem {calls : List BodyCall}
    (h : .ok (some .eof) ∈ ((start framing).run calls).answers) : ((start framing).run calls).AtEnd := by
  have hkeeps : ∀ (s : BodySession) c,
      s.reader.Sound ∧ (.ok (some .eof) ∈ s.answers → s.reader.isOver = true) →
      (s.call c).reader.Sound ∧
        (.ok (some .eof) ∈ (s.call c).answers → (s.call c).reader.isOver = true) := by
    rintro s c ⟨hsound, hover⟩
    cases c with
    | feed octets => exact ⟨hsound, hover⟩
    | ask closed =>
      refine ⟨BodyReader.sound_reply hsound closed s.buffer, fun hmem => ?_⟩
      rcases (eof_mem_ask s closed).mp hmem with hbefore | hitem
      · show (s.asked closed).reader.isOver = true
        rw [asked_of_isOver (hover hbefore)]
        exact hover hbefore
      · exact BodyReader.isOver_of_reply_eof hsound hitem
  have hstart : (start framing).reader.Sound ∧
      (.ok (some .eof) ∈ (start framing).answers → (start framing).reader.isOver = true) :=
    ⟨BodyReader.sound_ofFraming framing, nofun⟩
  exact atEnd_of_isOver ((run_keeps hkeeps hstart calls).2 h)

/-! ## Bodies of a given length -/

/-- A session with a body of `n` octets: what was taken out of the stream was yielded, and what is left of
the body is not there yet. -/
structure AtLength (n : Nat) (s : BodySession) : Prop where
  reader : s.reader = .length (n - s.yielded.length)
  le : s.yielded.length ≤ n
  fed : s.fed = s.yielded ++ s.buffer

/-- What a question leads to where a number of octets is left. -/
theorem reply_length (left : Nat) (closed : Bool) (buffer : Bytes) :
    ∃ item, (BodyReader.length left).reply closed buffer =
        ⟨item, .length (left - (buffer.take left).length), buffer.drop left⟩ ∧
      payloadOf item = buffer.take left ∧ (item = .ok (some .eof) ↔ left = 0) := by
  by_cases hzero : left = 0
  · subst hzero
    have hover : (BodyReader.length 0).isOver = true := rfl
    exact ⟨_, BodyReader.reply_of_isOver hover closed buffer, rfl, by simp⟩
  · cases buffer with
    | nil =>
      have hread : (BodyReader.length left).read [] = ⟨.ok none, .length left, []⟩ := by
        rw [BodyReader.read, if_neg hzero, List.isEmpty_nil, if_pos rfl]
      cases closed with
      | false => exact ⟨.ok none, hread.trans (by simp), by simp [payloadOf], by simp [hzero]⟩
      | true =>
        have hopen : BodyReader.length left ≠ .untilClose := by simp
        have hlast := BodyReader.readLast_of_none (by rw [hread]) hopen
        rw [hread] at hlast
        exact ⟨.error BodyReader.truncated, hlast.trans (by simp), by simp [payloadOf], by simp [hzero]⟩
    | cons b bs =>
      have hread : (BodyReader.length left).read (b :: bs) = ⟨.ok (some (.chunk ((b :: bs).take left))),
          .length (left - ((b :: bs).take left).length), (b :: bs).drop left⟩ := by
        rw [BodyReader.read, if_neg hzero, List.isEmpty_cons, if_neg Bool.false_ne_true]
      refine ⟨.ok (some (.chunk ((b :: bs).take left))), ?_, rfl, by simp [hzero]⟩
      cases closed with
      | false => exact hread
      | true => exact (BodyReader.readLast_of_item (by simp [hread])).trans hread

/-- Every call keeps count of the length. -/
theorem AtLength.call {n : Nat} (h : s.AtLength n) (c : BodyCall) : (s.call c).AtLength n := by
  cases c with
  | feed octets =>
    refine ⟨h.reader, h.le, ?_⟩
    show s.fed ++ octets = s.yielded ++ (s.buffer ++ octets)
    rw [h.fed, List.append_assoc]
  | ask closed =>
    obtain ⟨item, hreply, hpayload, -⟩ := reply_length (n - s.yielded.length) closed s.buffer
    rw [← h.reader, ← asked] at hreply
    have hyielded : (s.call (.ask closed)).yielded =
        s.yielded ++ s.buffer.take (n - s.yielded.length) := by
      rw [yielded_ask, hreply, ← hpayload]
    have hle := h.le
    have htake : (s.buffer.take (n - s.yielded.length)).length ≤ n - s.yielded.length :=
      List.length_take_le _ _
    refine ⟨?_, ?_, ?_⟩
    · show (s.asked closed).reader = _
      rw [hreply, hyielded, List.length_append, Nat.sub_add_eq]
    · rw [hyielded, List.length_append]
      omega
    · show s.fed = _ ++ (s.asked closed).buffer
      rw [hyielded, hreply, List.append_assoc, List.take_append_drop, h.fed]

/-- In every session, the payload and what is left make up the length. -/
theorem atLength_run (n : Nat) (calls : List BodyCall) : ((start (.length n)).run calls).AtLength n :=
  run_keeps (fun _ c h => h.call c) ⟨rfl, Nat.zero_le n, rfl⟩ calls

/-- What has been yielded is the front of the stream, up to the length of the body. -/
theorem AtLength.yielded_eq {n : Nat} (h : s.AtLength n) :
    s.yielded = s.fed.take (min n (s.fed.length - s.buffer.length)) := by
  have hle := h.le
  have hlength : min n (s.fed.length - s.buffer.length) = s.yielded.length := by
    rw [h.fed, List.length_append]
    omega
  rw [hlength, h.fed, List.take_left]

/-- The end is answered exactly when all payload has been given. -/
theorem AtLength.asked_eof_iff {n : Nat} (h : s.AtLength n) (closed : Bool) :
    (s.asked closed).item = .ok (some .eof) ↔ s.yielded.length = n := by
  obtain ⟨item, hreply, -, heof⟩ := reply_length (n - s.yielded.length) closed s.buffer
  have hle := h.le
  rw [asked, h.reader, hreply]
  exact heof.trans (by omega)

/-- Then the session is at its end. -/
theorem AtLength.atEnd {n : Nat} (h : s.AtLength n) (hall : s.yielded.length = n) : s.AtEnd := by
  refine atEnd_of_isOver ?_
  rw [h.reader, hall, Nat.sub_self]
  rfl

/-! ## Bodies that end with the connection -/

/-- A session with a body that ends with the connection: all octets of the stream that are not in the
buffer were yielded, and the end has been reported exactly if the reader takes no more. -/
structure AtClose (s : BodySession) : Prop where
  fed : s.yielded ++ s.buffer = s.fed
  reader : s.reader = .untilClose ∧ .ok (some .eof) ∉ s.answers ∨
    s.reader = .empty ∧ .ok (some .eof) ∈ s.answers

/-- What a question leads to while the connection has not been found closed. -/
theorem reply_untilClose (closed : Bool) (buffer : Bytes) :
    ((BodyReader.untilClose.reply closed buffer).item = .ok (some .eof) ↔ closed = true ∧ buffer = []) ∧
    (BodyReader.untilClose.reply closed buffer).reader =
      (if closed = true ∧ buffer = [] then .empty else .untilClose) ∧
    payloadOf (BodyReader.untilClose.reply closed buffer).item ++
      (BodyReader.untilClose.reply closed buffer).buffer = buffer := by
  cases closed <;> cases buffer <;>
    simp [BodyReader.reply, BodyReader.readLast, BodyReader.read, payloadOf]

/-- Every call keeps the payload and the buffer together what was fed. -/
theorem AtClose.call (h : s.AtClose) (c : BodyCall) : (s.call c).AtClose := by
  cases c with
  | feed octets =>
    refine ⟨?_, h.reader⟩
    show s.yielded ++ (s.buffer ++ octets) = s.fed ++ octets
    rw [← h.fed, List.append_assoc]
  | ask closed =>
    rcases h.reader with ⟨hreader, hquiet⟩ | ⟨hreader, hended⟩
    · obtain ⟨heof, hnext, hpayload⟩ := reply_untilClose closed s.buffer
      have hasked : s.asked closed = BodyReader.untilClose.reply closed s.buffer := by
        rw [asked, hreader]
      constructor
      · show _ ++ (s.asked closed).buffer = s.fed
        rw [yielded_ask, List.append_assoc, hasked, hpayload, h.fed]
      · show (s.asked closed).reader = _ ∧ _ ∨ (s.asked closed).reader = _ ∧ _
        rw [eof_mem_ask, hasked, hnext, heof]
        by_cases hlast : closed = true ∧ s.buffer = []
        · exact Or.inr ⟨if_pos hlast, Or.inr hlast⟩
        · exact Or.inl ⟨if_neg hlast, not_or.mpr ⟨hquiet, hlast⟩⟩
    · have hasked : s.asked closed = ⟨.ok (some .eof), .empty, s.buffer⟩ := by
        rw [asked_of_isOver (by rw [hreader]; rfl), hreader]
      refine ⟨?_, Or.inr ⟨?_, (eof_mem_ask s closed).mpr (Or.inl hended)⟩⟩
      · show _ ++ (s.asked closed).buffer = s.fed
        rw [yielded_ask, hasked, ← h.fed]
        simp [payloadOf]
      · show (s.asked closed).reader = _
        rw [hasked]

/-- So it is in every session that lasts until the close. -/
theorem atClose_run (calls : List BodyCall) : ((start .untilClose).run calls).AtClose :=
  run_keeps (fun _ c h => h.call c) ⟨rfl, Or.inl ⟨rfl, nofun⟩⟩ calls

/-- The end is reported for the first time when the connection has been closed and nothing is left. -/
theorem AtClose.asked_eof_iff (h : s.AtClose) (hquiet : .ok (some .eof) ∉ s.answers) (closed : Bool) :
    (s.asked closed).item = .ok (some .eof) ↔ closed = true ∧ s.buffer = [] := by
  rcases h.reader with ⟨hreader, -⟩ | ⟨-, hended⟩
  · rw [asked, hreader]
    exact (reply_untilClose closed s.buffer).1
  · exact absurd hended hquiet

/-! ## Empty bodies -/

/-- A session with an empty body: nothing is taken out of the stream. -/
structure AtNothing (s : BodySession) : Prop where
  reader : s.reader = .empty
  buffer : s.buffer = s.fed

/-- In every session without a body there is no payload. -/
theorem atNothing_run (calls : List BodyCall) : ((start .empty).run calls).AtNothing := by
  refine run_keeps ?_ ⟨rfl, rfl⟩ calls
  rintro s c ⟨hreader, hbuffer⟩
  have hover : s.reader.isOver = true := by rw [hreader]; rfl
  cases c with
  | feed octets => exact ⟨hreader, congrArg (· ++ octets) hbuffer⟩
  | ask closed =>
    refine ⟨?_, ?_⟩
    · show (s.asked closed).reader = _
      rw [asked_of_isOver hover, hreader]
    · show (s.asked closed).buffer = s.fed
      rw [asked_of_isOver hover, hbuffer]

/-- Such a session is at its end from the start. -/
theorem AtNothing.atEnd (h : s.AtNothing) : s.AtEnd :=
  atEnd_of_isOver (by rw [h.reader]; rfl)

end BodySession

end RelayTunnel.Http
