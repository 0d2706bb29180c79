import RelayTunnel.Http.Drain
import RelayTunnel.Proofs.Http.ChunkSteps

/-!
# Bodies, octet by octet

How a reader cuts a body into chunks depends on how the body arrives; what it makes of the octets does
not. `absorb` reads a body one octet at a time, and `absorbed_drain` shows that draining a buffer comes
to the same: the same payload, the same stop, the same reader and the same octets left. So a body may
be cut anywhere (`absorb_append`).
-/

set_option autoImplicit false

namespace RelayTunnel.Http

/-- What came of reading octets: the payload in them, why reading stopped, the reader and the octets
that were not read. -/
structure Absorbed where
  payload : Bytes
  stop : Stop
  reader : BodyReader
  rest : Bytes

namespace Absorbed

/-- The same outcome with more payload in front. -/
def prepend (data : Bytes) (a : Absorbed) : Absorbed := { a with payload := data ++ a.payload }

/-- No payload may be put in front. -/
@[simp] theorem prepend_nil (a : Absorbed) : a.prepend [] = a := rfl

/-- Payload may be put in front in two parts. -/
@[simp] theorem prepend_prepend (first second : Bytes) (a : Absorbed) :
    (a.prepend second).prepend first = a.prepend (first ++ second) := by
  simp [prepend]

end Absorbed

/-- The outcome of draining a buffer, its chunks put together. -/
def Drained.absorbed (d : Drained BodyReader) : Absorbed :=
  ⟨d.chunks.flatten, d.stop, d.reader, d.buffer⟩

namespace BodyReader

/-- Whether the end of the body has been read. -/
def isOver : BodyReader → Bool
  | .length remaining => remaining == 0
  | .chunked reader => reader.isFinished
  | .untilClose => false
  | .empty => true

/-- Takes one octet of a body that is not over: the payload in it, if it is not framing, and the
reader behind it. -/
def takeOctet (r : BodyReader) (b : UInt8) : Except MessageError (Bytes × BodyReader) :=
  match r with
  | .length remaining => .ok ([b], .length (remaining - 1))
  | .untilClose => .ok ([b], .untilClose)
  | .empty => .ok ([], .empty)
  | .chunked reader =>
      if reader.place = .data then
        let remaining := reader.remaining - 1
        .ok ([b], .chunked ⟨if remaining = 0 then .dataCr else .data, remaining⟩)
      else
        match reader.octet b with
        | .ok reader => .ok ([], .chunked reader)
        | .error fault => .error (.malformedBody fault.reason)

/-- Takes octets until the body is over, a fault occurs or there are no more. -/
def absorb (r : BodyReader) : Bytes → Absorbed
  | [] => ⟨[], if r.isOver then .ended else .starved, r, []⟩
  | b :: bs =>
      if r.isOver then ⟨[], .ended, r, b :: bs⟩
      else
        match r.takeOctet b with
        | .ok (data, r') => (absorb r' bs).prepend data
        | .error error => ⟨[], .failed error, r, bs⟩

/-- Inside a chunk there is payload left. -/
def Sound : BodyReader → Prop
  | .chunked reader => reader.place = .data → 0 < reader.remaining
  | _ => True

/-- At the end of a body, no octet is taken. -/
theorem absorb_of_isOver {r : BodyReader} (h : r.isOver = true) (buffer : Bytes) :
    r.absorb buffer = ⟨[], .ended, r, buffer⟩ := by
  cases buffer with
  | nil => rw [absorb, if_pos h]
  | cons b bs => rw [absorb, if_pos h]

/-- An octet that is accepted is taken, and then the rest. -/
theorem absorb_cons {r r' : BodyReader} {b : UInt8} {data : Bytes} (hover : r.isOver = false)
    (htake : r.takeOctet b = .ok (data, r')) (bs : Bytes) :
    r.absorb (b :: bs) = (r'.absorb bs).prepend data := by
  rw [absorb, if_neg (by simp [hover]), htake]

/-- An octet that is refused is taken, and no more. -/
theorem absorb_cons_of_error {r : BodyReader} {b : UInt8} {error : MessageError}
    (hover : r.isOver = false) (htake : r.takeOctet b = .error error) (bs : Bytes) :
    r.absorb (b :: bs) = ⟨[], .failed error, r, bs⟩ := by
  rw [absorb, if_neg (by simp [hover]), htake]

/-! ## Cutting a body -/

/-- A reader that is left wanting more has read everything. -/
theorem rest_absorb_of_starved {r : BodyReader} {buffer : Bytes}
    (h : (r.absorb buffer).stop = .starved) : (r.absorb buffer).rest = [] := by
  induction buffer generalizing r with
  | nil => rfl
  | cons b bs ih =>
    cases hover : r.isOver with
    | true => rw [absorb_of_isOver hover] at h; cases h
    | false =>
      cases htake : r.takeOctet b with
      | error error => rw [absorb_cons_of_error hover htake] at h; cases h
      | ok taken =>
        rw [absorb_cons hover htake] at h ⊢
        exact ih h

/-- A body that stops inside its first piece leaves everything behind that piece unread. -/
theorem absorb_append_of_stopped {r : BodyReader} {front : Bytes}
    (h : (r.absorb front).stop ≠ .starved) (behind : Bytes) :
    r.absorb (front ++ behind) =
      { r.absorb front with rest := (r.absorb front).rest ++ behind } := by
  induction front generalizing r with
  | nil =>
    cases hover : r.isOver with
    | true => rw [List.nil_append, absorb_of_isOver hover, absorb_of_isOver hover]; rfl
    | false => exact absurd (by simp [absorb, hover]) h
  | cons b bs ih =>
    rw [List.cons_append]
    cases hover : r.isOver with
    | true => rw [absorb_of_isOver hover, absorb_of_isOver hover]; rfl
    | false =>
      cases htake : r.takeOctet b with
      | error error => rw [absorb_cons_of_error hover htake, absorb_cons_of_error hover htake]
      | ok taken =>
        rw [absorb_cons hover htake] at h
        rw [absorb_cons hover htake, absorb_cons hover htake, ih h]
        rfl

/-- A body may be cut wherever its reader is left wanting more. -/
theorem absorb_append {r : BodyReader} {front : Bytes} (h : (r.absorb front).stop = .starved)
    (behind : Bytes) :
    r.absorb (front ++ behind) =
      ((r.absorb front).reader.absorb behind).prepend (r.absorb front).payload := by
  induction front generalizing r with
  | nil => rfl
  | cons b bs ih =>
    cases hover : r.isOver with
    | true => rw [absorb_of_isOver hover] at h; cases h
    | false =>
      cases htake : r.takeOctet b with
      | error error => rw [absorb_cons_of_error hover htake] at h; cases h
      | ok taken =>
        rw [absorb_cons hover htake] at h
        rw [List.cons_append, absorb_cons hover htake, absorb_cons hover htake, ih h,
          Absorbed.prepend_prepend]
        rfl

/-! ## Soundness of readers -/

/-- A reader that has just been made is sound. -/
theorem sound_ofFraming (framing : Framing) : (ofFraming framing).Sound := by
  cases framing with
  | chunked => intro hplace; cases hplace
  | length octets => trivial
  | untilClose => trivial
  | empty => trivial

/-- So is one made for a response. -/
theorem sound_ofResponse {head : ResponseHead} {r : BodyReader} (h : ofResponse head = .ok r) :
    r.Sound := by
  rw [ofResponse] at h
  cases hframing : head.framing with
  | error error => rw [hframing] at h; cases h
  | ok framing =>
    rw [hframing] at h
    cases h
    exact sound_ofFraming framing

/-- So is one that has taken part of a chunk. -/
theorem sound_of_left (left : Nat) :
    (chunked ⟨if left = 0 then .dataCr else .data, left⟩).Sound := by
  intro hplace
  refine Nat.pos_of_ne_zero fun hzero => ?_
  dsimp only at hplace
  rw [if_pos hzero] at hplace
  cases hplace

/-- Every octet that is accepted leaves a sound reader. -/
theorem sound_takeOctet {r r' : BodyReader} {b : UInt8} {data : Bytes}
    (h : r.takeOctet b = .ok (data, r')) : r'.Sound := by
  cases r with
  | length remaining =>
    obtain ⟨_, rfl⟩ := Prod.mk.inj (Except.ok.inj h)
    trivial
  | untilClose =>
    obtain ⟨_, rfl⟩ := Prod.mk.inj (Except.ok.inj h)
    trivial
  | empty =>
    obtain ⟨_, rfl⟩ := Prod.mk.inj (Except.ok.inj h)
    trivial
  | chunked reader =>
    rw [takeOctet] at h
    split at h
    · obtain ⟨_, rfl⟩ := Prod.mk.inj (Except.ok.inj h)
      exact sound_of_left _
    · next hframing =>
      split at h
      · next reader' hoctet =>
        obtain ⟨_, rfl⟩ := Prod.mk.inj (Except.ok.inj h)
        exact ChunkReader.remaining_pos_of_octet hoctet
      · cases h

/-- So do all octets that are taken. -/
theorem sound_absorb {r : BodyReader} (h : r.Sound) (buffer : Bytes) :
    (r.absorb buffer).reader.Sound := by
  induction buffer generalizing r with
  | nil => exact h
  | cons b bs ih =>
    cases hover : r.isOver with
    | true => rwa [absorb_of_isOver hover]
    | false =>
      cases htake : r.takeOctet b with
      | error error => rwa [absorb_cons_of_error hover htake]
      | ok taken =>
        rw [absorb_cons hover htake]
        exact ih (sound_takeOctet htake)

/-! ## Absorbing what one item takes -/

/-- A body that lasts until the connection is closed is taken whole. -/
theorem absorb_untilClose (buffer : Bytes) :
    untilClose.absorb buffer = ⟨buffer, .starved, untilClose, []⟩ := by
  induction buffer with
  | nil => rfl
  | cons b bs ih =>
    rw [absorb_cons rfl rfl, ih]
    rfl

/-- Of a body of a stated length, that many octets are taken. -/
theorem absorb_length (remaining : Nat) (buffer : Bytes) :
    (length remaining).absorb buffer =
      ((length (remaining - (buffer.take remaining).length)).absorb
        (buffer.drop remaining)).prepend (buffer.take remaining) := by
  induction buffer generalizing remaining with
  | nil => simp
  | cons b bs ih =>
    cases remaining with
    | zero => rfl
    | succ remaining =>
      rw [absorb_cons rfl rfl, Nat.add_sub_cancel, ih]
      simp

/-- Inside a chunk, payload is absorbed up to the end of the chunk. -/
theorem absorb_data {remaining : Nat} (hpos : 0 < remaining) (buffer : Bytes) :
    (chunked ⟨.data, remaining⟩).absorb buffer =
      ((chunked ⟨if remaining - (buffer.take remaining).length = 0 then .dataCr else .data,
        remaining - (buffer.take remaining).length⟩).absorb (buffer.drop remaining)).prepend
          (buffer.take remaining) := by
  induction buffer generalizing remaining with
  | nil => simp [Nat.ne_of_gt hpos]
  | cons b bs ih =>
    obtain ⟨remaining, rfl⟩ := Nat.exists_eq_succ_of_ne_zero (Nat.ne_of_gt hpos)
    rw [absorb_cons rfl rfl]
    cases remaining with
    | zero => rfl
    | succ remaining =>
      have hdata : (if remaining + 1 = 0 then ChunkPlace.dataCr else .data) = .data := rfl
      simp only [Nat.succ_eq_add_one, Nat.add_sub_cancel, hdata]
      rw [ih (Nat.succ_pos _)]
      simp

section Framing

variable {reader reader' : ChunkReader} {b : UInt8}

/-- There is no framing to skip in front of payload and at the end. -/
theorem skipFraming_of_stop (h : reader.place = .data ∨ reader.place = .done) (buffer : Bytes) :
    reader.skipFraming buffer = ⟨reader, buffer, none⟩ := by
  cases buffer with
  | nil => rfl
  | cons b bs => rw [ChunkReader.skipFraming, if_pos h]

/-- Framing that is accepted is skipped. -/
theorem skipFraming_of_ok (h : ¬ (reader.place = .data ∨ reader.place = .done))
    (hoctet : reader.octet b = .ok reader') (bs : Bytes) :
    reader.skipFraming (b :: bs) = reader'.skipFraming bs := by
  rw [ChunkReader.skipFraming, if_neg h, hoctet]

/-- An octet that is refused ends the framing with a fault. -/
theorem skipFraming_of_error {fault : ChunkFault}
    (h : ¬ (reader.place = .data ∨ reader.place = .done)) (hoctet : reader.octet b = .error fault)
    (bs : Bytes) : reader.skipFraming (b :: bs) = ⟨reader, bs, some fault⟩ := by
  rw [ChunkReader.skipFraming, if_neg h, hoctet]

end Framing

/-- Framing is absorbed octet by octet. -/
theorem absorb_skipFraming (reader : ChunkReader) (buffer : Bytes) :
    (chunked reader).absorb buffer =
      match (reader.skipFraming buffer).fault with
      | none =>
          (chunked (reader.skipFraming buffer).reader).absorb (reader.skipFraming buffer).rest
      | some fault =>
          ⟨[], .failed (.malformedBody fault.reason), chunked (reader.skipFraming buffer).reader,
            (reader.skipFraming buffer).rest⟩ := by
  induction buffer generalizing reader with
  | nil => rfl
  | cons b bs ih =>
    by_cases hstop : reader.place = .data ∨ reader.place = .done
    · rw [skipFraming_of_stop hstop]
    · have hplace := not_or.mp hstop
      have hover : (chunked reader).isOver = false := by
        simp [isOver, ChunkReader.isFinished, hplace.2]
      cases hoctet : reader.octet b with
      | ok reader' =>
        have htake : (chunked reader).takeOctet b = .ok ([], chunked reader') := by
          simp [takeOctet, hplace.1, hoctet]
        rw [skipFraming_of_ok hstop hoctet, absorb_cons hover htake]
        exact ih reader'
      | error fault =>
        have htake : (chunked reader).takeOctet b = .error (.malformedBody fault.reason) := by
          simp [takeOctet, hplace.1, hoctet]
        rw [skipFraming_of_error hstop hoctet, absorb_cons_of_error hover htake]

/-- What is left behind framing is empty, unless payload or the end has been reached. -/
theorem rest_skipFraming (reader : ChunkReader) (buffer : Bytes)
    (hdata : (reader.skipFraming buffer).reader.place ≠ .data)
    (hdone : (reader.skipFraming buffer).reader.place ≠ .done)
    (hfault : (reader.skipFraming buffer).fault = none) :
    (reader.skipFraming buffer).rest = [] := by
  induction buffer generalizing reader with
  | nil => rfl
  | cons b bs ih =>
    by_cases hstop : reader.place = .data ∨ reader.place = .done
    · rw [skipFraming_of_stop hstop] at hdata hdone
      exact absurd hstop (not_or.mpr ⟨hdata, hdone⟩)
    · cases hoctet : reader.octet b with
      | ok reader' =>
        rw [skipFraming_of_ok hstop hoctet] at hdata hdone hfault ⊢
        exact ih reader' hdata hdone hfault
      | error fault =>
        rw [skipFraming_of_error hstop hoctet] at hfault
        cases hfault

/-- Behind framing that leads into a chunk, the reader is sound. -/
theorem sound_skipFraming {reader : ChunkReader} (h : (chunked reader).Sound) (buffer : Bytes) :
    (chunked (reader.skipFraming buffer).reader).Sound := by
  induction buffer generalizing reader with
  | nil => exact h
  | cons b bs ih =>
    by_cases hstop : reader.place = .data ∨ reader.place = .done
    · rwa [skipFraming_of_stop hstop]
    · cases hoctet : reader.octet b with
      | ok reader' =>
        rw [skipFraming_of_ok hstop hoctet]
        exact ih (ChunkReader.remaining_pos_of_octet hoctet)
      | error fault => rwa [skipFraming_of_error hstop hoctet]

/-! ## Draining -/

/-- What asking for one item means for the octets. -/
theorem absorb_read {r : BodyReader} (h : r.Sound) (buffer : Bytes) :
    match (r.read buffer).item with
    | .ok (some (.chunk data)) =>
        (r.read buffer).reader.Sound ∧
          r.absorb buffer = ((r.read buffer).reader.absorb (r.read buffer).buffer).prepend data
    | .ok (some .eof) => r.absorb buffer = ⟨[], .ended, (r.read buffer).reader, (r.read buffer).buffer⟩
    | .ok none => r.absorb buffer = ⟨[], .starved, (r.read buffer).reader, (r.read buffer).buffer⟩
    | .error error =>
        r.absorb buffer = ⟨[], .failed error, (r.read buffer).reader, (r.read buffer).buffer⟩ := by
  cases r with
  | empty => exact absorb_of_isOver rfl buffer
  | untilClose =>
    cases buffer with
    | nil => rfl
    | cons b bs =>
      refine ⟨trivial, ?_⟩
      rw [absorb_untilClose]
      simp [read, absorb, isOver, Absorbed.prepend]
  | length remaining =>
    rw [read]
    by_cases hzero : remaining = 0
    · rw [if_pos hzero]
      exact absorb_of_isOver (by simp [isOver, hzero]) buffer
    · rw [if_neg hzero]
      cases buffer with
      | nil => simp [absorb, isOver, hzero]
      | cons b bs => exact ⟨trivial, absorb_length remaining (b :: bs)⟩
  | chunked reader =>
    have habsorb := absorb_skipFraming reader buffer
    have hsound := sound_skipFraming h buffer
    have hrest := rest_skipFraming reader buffer
    rw [habsorb, read, ChunkReader.read]
    generalize reader.skipFraming buffer = s at hsound hrest ⊢
    obtain ⟨reader', rest, fault⟩ := s
    cases fault with
    | some fault => rfl
    | none =>
      dsimp only at hsound hrest ⊢
      by_cases hdone : reader'.place = .done
      · rw [if_pos hdone]
        exact absorb_of_isOver (by simp [isOver, ChunkReader.isFinished, hdone]) rest
      · rw [if_neg hdone]
        by_cases hdata : reader'.place = .data ∧ rest ≠ []
        · rw [if_pos hdata]
          obtain ⟨place, remaining⟩ := reader'
          obtain ⟨rfl, _⟩ := hdata
          have hreader := absorb_data (hsound rfl) rest
          exact ⟨sound_of_left _, hreader⟩
        · rw [if_neg hdata]
          have hempty : rest = [] := by
            by_cases hplace : reader'.place = .data
            · exact Classical.byContradiction fun hne => hdata ⟨hplace, hne⟩
            · exact hrest hplace hdone rfl
          subst hempty
          simp [absorb, isOver, ChunkReader.isFinished, hdone]

/-- Draining a buffer comes to the same as taking its octets one by one. -/
theorem absorbed_drain {r : BodyReader} (h : r.Sound) (buffer : Bytes) :
    (r.drain buffer).absorbed = r.absorb buffer := by
  induction hweight : r.weight buffer using Nat.strongRecOn generalizing r buffer with
  | ind n ih =>
    have hread := absorb_read h buffer
    rw [drain, drainWith]
    split
    · next data hitem =>
      rw [hitem] at hread
      obtain ⟨hsound, habsorb⟩ := hread
      have hlighter := weight_read_lt r buffer data hitem
      rw [habsorb, ← ih _ (hweight ▸ hlighter) hsound _ rfl]
      rfl
    · next hitem =>
      rw [hitem] at hread
      exact hread.symm
    · next hitem =>
      rw [hitem] at hread
      exact hread.symm
    · next error hitem =>
      rw [hitem] at hread
      exact hread.symm

/-- A reader that is left wanting more has taken the whole buffer. -/
theorem buffer_drain_of_starved {r : BodyReader} (h : r.Sound) {buffer : Bytes}
    (hstop : (r.drain buffer).stop = .starved) : (r.drain buffer).buffer = [] := by
  have habsorbed := absorbed_drain h buffer
  have hstarved : (r.absorb buffer).stop = .starved := by
    rw [← habsorbed]
    exact hstop
  have hrest := rest_absorb_of_starved hstarved
  rwa [← habsorbed] at hrest

/-- Where there are no octets, there is no chunk. -/
theorem item_read_nil (r : BodyReader) (data : Bytes) : (r.read []).item ≠ .ok (some (.chunk data)) := by
  intro h
  have hlighter := weight_read_lt r [] data h
  cases r with
  | empty => cases h
  | untilClose => cases h
  | length remaining => exact absurd hlighter (Nat.not_lt_zero _)
  | chunked reader =>
    rw [read, ChunkReader.read] at h
    simp only [ChunkReader.skipFraming, ne_eq, not_true_eq_false, and_false, if_false] at h
    split at h
    · cases h
    · cases h

/-- Nor is there one when the connection has been closed. -/
theorem chunks_drainLast_nil (r : BodyReader) : (r.drainLast []).chunks = [] := by
  rw [drainLast, drainWith]
  split
  · next data hitem =>
    have hread := readLast_of_chunk r [] data hitem
    rw [hread] at hitem
    exact absurd hitem (item_read_nil r data)
  · rfl
  · rfl
  · rfl

end BodyReader

end RelayTunnel.Http
