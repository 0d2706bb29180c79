import RelayTunnel.Proofs.Http.Absorption

/-!
# Bodies in pieces

A connection hands a body over in pieces, and a piece may end anywhere: among the digits of a size,
between CR and LF, inside a chunk. `drainPieces` puts each piece behind what the buffer still holds and
drains the buffer. The chunks that come out depend on the pieces. What they hold together, why reading
stops, the reader and the octets that are left do not (`receive_agrees_uncut`), because all of these are
read off `absorb`, which takes one octet at a time.
-/

set_option autoImplicit false

namespace RelayTunnel.Http

variable {R S : Type}

/-! ## Draining, item by item -/

/-- An answer is a chunk, the end, nothing yet or an error. -/
theorem item_cases (item : Except MessageError (Option PayloadItem)) :
    (∃ data, item = .ok (some (.chunk data))) ∨ item = .ok (some .eof) ∨ item = .ok none ∨
      ∃ error, item = .error error := by
  cases item with
  | error error => simp
  | ok item =>
    cases item with
    | none => simp
    | some item => cases item <;> simp

section Items

variable {read : R → Bytes → Reply R} {weight : R → Bytes → Nat}
  {lighter : ∀ r buffer data, (read r buffer).item = .ok (some (.chunk data)) →
    weight (read r buffer).reader (read r buffer).buffer < weight r buffer}
  {r : R} {buffer : Bytes}

/-- Draining goes on behind a chunk. -/
theorem drainWith_of_chunk {data : Bytes} (h : (read r buffer).item = .ok (some (.chunk data))) :
    drainWith read weight lighter r buffer =
      (drainWith read weight lighter (read r buffer).reader (read r buffer).buffer).cons data := by
  rw [drainWith]
  split <;> simp_all

/-- Draining ends with the body. -/
theorem drainWith_of_eof (h : (read r buffer).item = .ok (some .eof)) :
    drainWith read weight lighter r buffer =
      ⟨[], .ended, (read r buffer).reader, (read r buffer).buffer⟩ := by
  rw [drainWith]
  split <;> simp_all

/-- Draining waits where there is nothing yet. -/
theorem drainWith_of_none (h : (read r buffer).item = .ok none) :
    drainWith read weight lighter r buffer =
      ⟨[], .starved, (read r buffer).reader, (read r buffer).buffer⟩ := by
  rw [drainWith]
  split <;> simp_all

/-- Draining ends with an error. -/
theorem drainWith_of_error {error : MessageError} (h : (read r buffer).item = .error error) :
    drainWith read weight lighter r buffer =
      ⟨[], .failed error, (read r buffer).reader, (read r buffer).buffer⟩ := by
  rw [drainWith]
  split <;> simp_all

/-- Readers that answer alike are drained alike. -/
theorem drainWith_of_read_eq {r' : R} {buffer' : Bytes} (h : read r buffer = read r' buffer') :
    drainWith read weight lighter r buffer = drainWith read weight lighter r' buffer' := by
  obtain ⟨data, hitem⟩ | hitem | hitem | ⟨error, hitem⟩ := item_cases (read r buffer).item
  · have hitem' : (read r' buffer').item = .ok (some (.chunk data)) := h ▸ hitem
    have first : drainWith read weight lighter r buffer = _ := drainWith_of_chunk hitem
    have second : drainWith read weight lighter r' buffer' = _ := drainWith_of_chunk hitem'
    rw [first, second, h]
  · have hitem' : (read r' buffer').item = .ok (some .eof) := h ▸ hitem
    rw [drainWith_of_eof hitem, drainWith_of_eof hitem', h]
  · have hitem' : (read r' buffer').item = .ok none := h ▸ hitem
    rw [drainWith_of_none hitem, drainWith_of_none hitem', h]
  · have hitem' : (read r' buffer').item = .error error := h ▸ hitem
    rw [drainWith_of_error hitem, drainWith_of_error hitem', h]

end Items

/-- A finished reader reports the end and takes nothing. -/
theorem ChunkReader.read_of_isFinished {r : ChunkReader} (h : r.isFinished = true) (buffer : Bytes) :
    r.read buffer = ⟨.ok (some .eof), r, buffer⟩ := by
  have hdone : r.place = .done := by simpa [isFinished] using h
  rw [read, BodyReader.skipFraming_of_stop (.inr hdone)]
  simp [hdone]

/-! ## Pieces -/

section Pieces

namespace Drained

/-- The two outcomes differ at most in how the payload is divided into chunks. -/
structure Agrees (first second : Drained R) : Prop where
  payload : first.chunks.flatten = second.chunks.flatten
  stop : first.stop = second.stop
  reader : first.reader = second.reader
  buffer : first.buffer = second.buffer

/-- The same outcome with more chunks in front. -/
def after (chunks : List Bytes) (d : Drained R) : Drained R := { d with chunks := chunks ++ d.chunks }

/-- The same outcome of a reader that is part of another. -/
def map (f : R → S) (d : Drained R) : Drained S := ⟨d.chunks, d.stop, f d.reader, d.buffer⟩

/-- Two drains agree if they absorb the same. -/
theorem agrees_of_absorbed {first second : Drained BodyReader}
    (h : first.absorbed = second.absorbed) : first.Agrees second := by
  simp only [absorbed, Absorbed.mk.injEq] at h
  obtain ⟨hpayload, hstop, hreader, hbuffer⟩ := h
  exact ⟨hpayload, hstop, hreader, hbuffer⟩

/-- Readers that are parts of others agree if the others do. -/
theorem Agrees.of_map {f : R → S} (hf : Function.Injective f) {first second : Drained R}
    (h : (first.map f).Agrees (second.map f)) : first.Agrees second :=
  ⟨h.payload, h.stop, hf h.reader, h.buffer⟩

end Drained

/-- Drains octets that arrive in pieces. Each piece goes behind what is left in the buffer. Reading
stops at the end of the body or at the first fault, and whatever arrives later is left as it is. -/
def drainPieces (drain : R → Bytes → Drained R) (r : R) (buffer : Bytes) : List Bytes → Drained R
  | [] => ⟨[], .starved, r, buffer⟩
  | piece :: pieces =>
      let d := drain r (buffer ++ piece)
      match d.stop with
      | .starved => (drainPieces drain d.reader d.buffer pieces).after d.chunks
      | _ => { d with buffer := d.buffer ++ pieces.flatten }

variable {drain : R → Bytes → Drained R} {r : R} {buffer piece : Bytes}

/-- A reader that wants more takes the next piece. -/
theorem drainPieces_of_starved (h : (drain r (buffer ++ piece)).stop = .starved)
    (pieces : List Bytes) :
    drainPieces drain r buffer (piece :: pieces) =
      (drainPieces drain (drain r (buffer ++ piece)).reader (drain r (buffer ++ piece)).buffer
        pieces).after (drain r (buffer ++ piece)).chunks := by
  simp only [drainPieces, h]

/-- A reader that has stopped takes no more pieces. -/
theorem drainPieces_of_stopped (h : (drain r (buffer ++ piece)).stop ≠ .starved)
    (pieces : List Bytes) :
    drainPieces drain r buffer (piece :: pieces) =
      { drain r (buffer ++ piece) with
        buffer := (drain r (buffer ++ piece)).buffer ++ pieces.flatten } := by
  cases hstop : (drain r (buffer ++ piece)).stop with
  | starved => exact absurd hstop h
  | ended => simp only [drainPieces, hstop]
  | failed error => simp only [drainPieces, hstop]

end Pieces

namespace BodyReader

/-- Receives a body in pieces on a connection that is closed behind the last of them. -/
def receive (r : BodyReader) (pieces : List Bytes) : Drained BodyReader :=
  let d := drainPieces drain r [] pieces
  match d.stop with
  | .starved => (d.reader.drainLast d.buffer).after d.chunks
  | _ => d

/-- A reader that wants more at the end is told that the connection is closed. -/
theorem receive_of_starved {r : BodyReader} {pieces : List Bytes}
    (h : (drainPieces drain r [] pieces).stop = .starved) :
    r.receive pieces =
      ((drainPieces drain r [] pieces).reader.drainLast (drainPieces drain r [] pieces).buffer).after
        (drainPieces drain r [] pieces).chunks := by
  simp only [receive, h]

/-- Otherwise the close makes no difference. -/
theorem receive_of_stopped {r : BodyReader} {pieces : List Bytes}
    (h : (drainPieces drain r [] pieces).stop ≠ .starved) :
    r.receive pieces = drainPieces drain r [] pieces := by
  cases hstop : (drainPieces drain r [] pieces).stop with
  | starved => exact absurd hstop h
  | ended => simp only [receive, hstop]
  | failed error => simp only [receive, hstop]

/-- A reader that is left wanting more has not reached the end. -/
theorem isOver_absorb_of_starved {r : BodyReader} {buffer : Bytes}
    (h : (r.absorb buffer).stop = .starved) : (r.absorb buffer).reader.isOver = false := by
  induction buffer generalizing r with
  | nil =>
    cases hover : r.isOver with
    | false => exact hover
    | true => simp [absorb, hover] at h
  | cons b bs ih =>
    cases hover : r.isOver with
    | true => rw [absorb_of_isOver hover] at h; cases h
    | false =>
      cases htake : r.takeOctet b with
      | error error => rw [absorb_cons_of_error hover htake] at h; cases h
      | ok taken =>
        rw [absorb_cons hover htake] at h ⊢
        exact ih h

/-- A reader that comes to the end is behind it. -/
theorem isOver_absorb_of_ended {r : BodyReader} {buffer : Bytes}
    (h : (r.absorb buffer).stop = .ended) : (r.absorb buffer).reader.isOver = true := by
  induction buffer generalizing r with
  | nil =>
    cases hover : r.isOver with
    | true => exact hover
    | false => simp [absorb, hover] at h
  | cons b bs ih =>
    cases hover : r.isOver with
    | true => rwa [absorb_of_isOver hover]
    | false =>
      cases htake : r.takeOctet b with
      | error error => rw [absorb_cons_of_error hover htake] at h; cases h
      | ok taken =>
        rw [absorb_cons hover htake] at h ⊢
        exact ih h

/-- Draining pieces comes to the same as taking the octets of all of them one by one. -/
theorem absorbed_drainPieces {r : BodyReader} (h : r.Sound) (hover : r.isOver = false)
    (pieces : List Bytes) :
    (drainPieces drain r [] pieces).absorbed = r.absorb pieces.flatten := by
  induction pieces generalizing r with
  | nil => simp [drainPieces, Drained.absorbed, absorb, hover]
  | cons piece pieces ih =>
    have habsorbed : (r.drain piece).absorbed = r.absorb piece := absorbed_drain h piece
    have hstop : (r.absorb piece).stop = (r.drain piece).stop := by rw [← habsorbed]; rfl
    by_cases hstarved : (r.drain piece).stop = .starved
    · have hreader : (r.absorb piece).reader = (r.drain piece).reader := by rw [← habsorbed]; rfl
      have hsound : (r.drain piece).reader.Sound := hreader ▸ sound_absorb h piece
      have hmore : (r.drain piece).reader.isOver = false :=
        hreader ▸ isOver_absorb_of_starved (hstop.trans hstarved)
      have hbuffer : (r.drain piece).buffer = [] := buffer_drain_of_starved h hstarved
      have hrest := ih hsound hmore
      rw [drainPieces_of_starved (by exact hstarved), List.nil_append, hbuffer, List.flatten_cons,
        absorb_append (hstop.trans hstarved), hreader, ← hrest, ← habsorbed]
      simp [Drained.absorbed, Drained.after, Absorbed.prepend]
    · rw [drainPieces_of_stopped (by exact hstarved), List.nil_append, List.flatten_cons,
        absorb_append_of_stopped (hstop ▸ hstarved), ← habsorbed]
      simp [Drained.absorbed]

/-! ## Bodies that are over -/

/-- A reader that is at the end reports it and takes nothing. -/
theorem read_of_isOver {r : BodyReader} (h : r.isOver = true) (buffer : Bytes) :
    r.read buffer = ⟨.ok (some .eof), r, buffer⟩ := by
  cases r with
  | empty => rfl
  | untilClose => cases h
  | length remaining =>
    have hzero : remaining = 0 := by simpa [isOver] using h
    rw [read, if_pos hzero]
  | chunked reader =>
    rw [read, ChunkReader.read_of_isFinished h]

/-- It leaves the whole buffer. -/
theorem drain_of_isOver {r : BodyReader} (h : r.isOver = true) (buffer : Bytes) :
    r.drain buffer = ⟨[], .ended, r, buffer⟩ := by
  have hread := read_of_isOver h buffer
  rw [drain, drainWith_of_eof (by rw [hread]), hread]

/-- It does so when the connection has been closed, too. -/
theorem drainLast_of_isOver {r : BodyReader} (h : r.isOver = true) (buffer : Bytes) :
    r.drainLast buffer = ⟨[], .ended, r, buffer⟩ := by
  have hread : r.readLast buffer = ⟨.ok (some .eof), r, buffer⟩ := by
    rw [readLast, read_of_isOver h]
  rw [drainLast, drainWith_of_eof (by rw [hread]), hread]

/-- A body that is over leaves every piece as it is. -/
theorem receive_of_isOver {r : BodyReader} (h : r.isOver = true) (pieces : List Bytes) :
    r.receive pieces = ⟨[], .ended, r, pieces.flatten⟩ := by
  cases pieces with
  | nil =>
    -- the end is found when the connection closes
    have hlast := drainLast_of_isOver h []
    rw [receive_of_starved rfl]
    simp [drainPieces, Drained.after, hlast]
  | cons piece pieces =>
    have hdrain := drain_of_isOver h ([] ++ piece)
    have hpieces : drainPieces drain r [] (piece :: pieces) =
        ⟨[], .ended, r, (piece :: pieces).flatten⟩ := by
      rw [drainPieces_of_stopped (by rw [hdrain]; exact nofun), hdrain]
      rfl
    rw [receive_of_stopped (by rw [hpieces]; exact nofun), hpieces]

/-! ## Bodies that are not over -/

/-- What is received depends on the octets alone. -/
theorem absorbed_receive {r : BodyReader} (h : r.Sound) (hover : r.isOver = false)
    (pieces : List Bytes) :
    (r.receive pieces).absorbed =
      match (r.absorb pieces.flatten).stop with
      | .starved =>
          (((r.absorb pieces.flatten).reader.drainLast
            (r.absorb pieces.flatten).rest).absorbed).prepend (r.absorb pieces.flatten).payload
      | _ => r.absorb pieces.flatten := by
  rw [← absorbed_drainPieces h hover pieces]
  by_cases hstarved : (drainPieces drain r [] pieces).stop = .starved
  · have hstop : (drainPieces drain r [] pieces).absorbed.stop = .starved := hstarved
    rw [receive_of_starved hstarved, hstop]
    simp [Drained.absorbed, Drained.after, Absorbed.prepend]
  · rw [receive_of_stopped hstarved]
    split
    · next hstop => exact absurd hstop hstarved
    · rfl

/-- A body that is received in pieces is received as if it came at once. -/
theorem receive_agrees {r : BodyReader} (h : r.Sound) (pieces : List Bytes) :
    (r.receive pieces).Agrees (r.receive [pieces.flatten]) := by
  have hflatten : [pieces.flatten].flatten = pieces.flatten := by simp
  cases hover : r.isOver with
  | true =>
    rw [receive_of_isOver hover, receive_of_isOver hover, hflatten]
    exact ⟨rfl, rfl, rfl, rfl⟩
  | false =>
    apply Drained.agrees_of_absorbed
    rw [absorbed_receive h hover, absorbed_receive h hover, hflatten]

/-! ## The reader of chunks on its own -/

/-- A reader of a chunked body drains like its reader of chunks. -/
theorem drain_chunked (r : ChunkReader) (buffer : Bytes) :
    (chunked r).drain buffer = (r.drain buffer).map chunked := by
  induction hweight : r.weight buffer using Nat.strongRecOn generalizing r buffer with
  | ind n ih =>
    have hread : (chunked r).read buffer =
        ⟨(r.read buffer).item, chunked (r.read buffer).reader, (r.read buffer).buffer⟩ := rfl
    rw [drain, ChunkReader.drain]
    obtain ⟨data, hitem⟩ | hitem | hitem | ⟨error, hitem⟩ := item_cases (r.read buffer).item
    · have hlighter := ChunkReader.weight_read_lt r buffer data hitem
      have hmore := ih _ (hweight ▸ hlighter) _ _ rfl
      rw [drain, ChunkReader.drain] at hmore
      rw [drainWith_of_chunk hitem, drainWith_of_chunk (by rw [hread]; exact hitem), hread, hmore]
      rfl
    · rw [drainWith_of_eof hitem, drainWith_of_eof (by rw [hread]; exact hitem), hread]
      rfl
    · rw [drainWith_of_none hitem, drainWith_of_none (by rw [hread]; exact hitem), hread]
      rfl
    · rw [drainWith_of_error hitem, drainWith_of_error (by rw [hread]; exact hitem), hread]
      rfl

/-- So it does when the octets arrive in pieces. -/
theorem drainPieces_chunked (r : ChunkReader) (buffer : Bytes) (pieces : List Bytes) :
    drainPieces drain (chunked r) buffer pieces =
      (drainPieces ChunkReader.drain r buffer pieces).map chunked := by
  induction pieces generalizing r buffer with
  | nil => rfl
  | cons piece pieces ih =>
    have hdrain := drain_chunked r (buffer ++ piece)
    have hstop : ((chunked r).drain (buffer ++ piece)).stop = (r.drain (buffer ++ piece)).stop := by
      rw [hdrain]
      rfl
    by_cases hstarved : (r.drain (buffer ++ piece)).stop = .starved
    · rw [drainPieces_of_starved hstarved, drainPieces_of_starved (hstop.trans hstarved), hdrain]
      have hmore := ih (r.drain (buffer ++ piece)).reader (r.drain (buffer ++ piece)).buffer
      simp only [Drained.map, Drained.after] at hmore ⊢
      rw [hmore]
    · rw [drainPieces_of_stopped hstarved, drainPieces_of_stopped (hstop ▸ hstarved), hdrain]
      rfl

end BodyReader

namespace ChunkReader

/-- Receives a chunked body in pieces. Nothing is known about the end of the connection. -/
def receive (r : ChunkReader) (pieces : List Bytes) : Drained ChunkReader :=
  drainPieces drain r [] pieces

/-- Receiving pieces comes to the same as taking all octets one by one. -/
theorem absorbed_receive {r : ChunkReader} (h : (BodyReader.chunked r).Sound)
    (hfinished : r.isFinished = false) (pieces : List Bytes) :
    ((r.receive pieces).map BodyReader.chunked).absorbed =
      (BodyReader.chunked r).absorb pieces.flatten := by
  rw [receive, ← BodyReader.drainPieces_chunked, BodyReader.absorbed_drainPieces h hfinished]

/-- Chunks that are received in pieces are received as if they came at once. -/
theorem receive_agrees {r : ChunkReader} (h : (BodyReader.chunked r).Sound)
    (hfinished : r.isFinished = false) (pieces : List Bytes) :
    (r.receive pieces).Agrees (r.receive [pieces.flatten]) := by
  have hinjective : Function.Injective BodyReader.chunked := fun _ _ => BodyReader.chunked.inj
  apply Drained.Agrees.of_map hinjective
  apply Drained.agrees_of_absorbed
  rw [absorbed_receive h hfinished, absorbed_receive h hfinished]
  simp

end ChunkReader

/-- What is read of a body does not depend on how its octets are cut into pieces. For each framing, the
payload, the outcome, the reader and the octets left over are those of the whole body at once, the close
of the connection behind it included. The reader of chunks on its own, which is not told about the close,
agrees in the same way. -/
theorem receive_agrees_uncut (pieces : List Bytes) :
    (∀ framing : Framing, ((BodyReader.ofFraming framing).receive pieces).Agrees
      ((BodyReader.ofFraming framing).receive [pieces.flatten])) ∧
    (ChunkReader.start.receive pieces).Agrees (ChunkReader.start.receive [pieces.flatten]) := by
  constructor
  · intro framing
    exact BodyReader.receive_agrees (BodyReader.sound_ofFraming framing) pieces
  · have hsound : (BodyReader.chunked .start).Sound := BodyReader.sound_ofFraming .chunked
    exact ChunkReader.receive_agrees hsound rfl pieces

end RelayTunnel.Http
