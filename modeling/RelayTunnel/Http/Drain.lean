import RelayTunnel.Http.BodyReader

/-!
# Draining a buffer

Asking a reader for items until there is none, the body ends or a fault occurs. The loops end
because `BodyReader.weight` goes down with every chunk: a chunk takes octets out of the buffer.
-/

set_option autoImplicit false

namespace RelayTunnel.Http

/-- Why a reader stopped yielding chunks. -/
inductive Stop where
  /-- The buffer holds nothing more that can be yielded. -/
  | starved
  /-- The body has ended. -/
  | ended
  | failed (error : MessageError)
  deriving DecidableEq

/-- The chunks a reader yielded, why it stopped, and reader and buffer afterwards. -/
structure Drained (reader : Type) where
  chunks : List Bytes
  stop : Stop
  reader : reader
  buffer : Bytes

/-- The same outcome with one more chunk in front. -/
def Drained.cons {reader : Type} (data : Bytes) (d : Drained reader) : Drained reader :=
  { d with chunks := data :: d.chunks }

/-- Asks for items until one is not a chunk. Every chunk has to make the reader lighter. -/
def drainWith {R : Type} (read : R → Bytes → Reply R) (weight : R → Bytes → Nat)
    (lighter : ∀ r buffer data, (read r buffer).item = .ok (some (.chunk data)) →
      weight (read r buffer).reader (read r buffer).buffer < weight r buffer)
    (r : R) (buffer : Bytes) : Drained R :=
  match _h : (read r buffer).item with
  | .ok (some (.chunk data)) =>
      (drainWith read weight lighter (read r buffer).reader (read r buffer).buffer).cons data
  | .ok (some .eof) => ⟨[], .ended, (read r buffer).reader, (read r buffer).buffer⟩
  | .ok none => ⟨[], .starved, (read r buffer).reader, (read r buffer).buffer⟩
  | .error e => ⟨[], .failed e, (read r buffer).reader, (read r buffer).buffer⟩
  termination_by weight r buffer
  decreasing_by exact lighter r buffer data _h

namespace ChunkReader

/-- Bounds the number of chunks a reader can still yield from a buffer. -/
def weight (r : ChunkReader) (buffer : Bytes) : Nat :=
  2 * buffer.length + if r.place = .data then 1 else 0

/-- To skip framing takes octets off the front of a buffer and adds none. -/
theorem skipFraming_length_le (r : ChunkReader) (buffer : Bytes) :
    (r.skipFraming buffer).rest.length ≤ buffer.length := by
  induction buffer generalizing r with
  | nil => simp [skipFraming]
  | cons b rest ih =>
    rw [skipFraming]
    split
    · simp
    · split
      · exact Nat.le_succ_of_le (ih _)
      · simp

/-- In front of payload there is no framing to skip. -/
theorem skipFraming_of_data (r : ChunkReader) (buffer : Bytes) (h : r.place = .data) :
    r.skipFraming buffer = ⟨r, buffer, none⟩ := by
  cases buffer <;> simp [skipFraming, h]

/-- Where framing leads to payload, an octet has been taken. -/
theorem skipFraming_length_lt_of_data (r : ChunkReader) (buffer : Bytes) (h : r.place ≠ .data)
    (h' : (r.skipFraming buffer).reader.place = .data) :
    (r.skipFraming buffer).rest.length < buffer.length := by
  cases buffer with
  | nil => simp [skipFraming, h] at h'
  | cons b rest =>
    rw [skipFraming] at h' ⊢
    split at h' <;> rename_i hp
    · exact absurd h' h
    · split at h' <;> rename_i hr
      · rw [if_neg hp]
        exact Nat.lt_succ_of_le (skipFraming_length_le _ _)
      · exact absurd h' h

/-- A chunk makes the reader lighter. -/
theorem weight_read_lt (r : ChunkReader) (buffer data : Bytes)
    (h : (r.read buffer).item = .ok (some (.chunk data))) :
    (r.read buffer).reader.weight (r.read buffer).buffer < r.weight buffer := by
  have hle := skipFraming_length_le r buffer
  have hlt := skipFraming_length_lt_of_data r buffer
  have hdata := skipFraming_of_data r buffer
  revert h hle hlt hdata
  unfold read
  generalize r.skipFraming buffer = s
  intro h hle hlt hdata
  simp only at h ⊢
  split at h
  · simp at h
  · split at h
    · simp at h
    · split at h
      · rename_i hf hd hp
        simp only [hd, if_false, if_pos hp]
        have hpos : 0 < s.rest.length := List.length_pos_iff.mpr hp.2
        by_cases hr : s.reader.remaining = 0
        · simp only [hr, List.take_zero, List.length_nil, Nat.sub_zero, if_true, List.drop_zero,
            weight]
          by_cases hpl : r.place = .data
          · rw [hdata hpl] at *
            simp [hpl]
          · have := hlt hpl hp.1
            simp
            omega
        · simp only [weight, List.length_drop, List.length_take]
          split <;> split <;> omega
      · simp at h

/-- Reading the last item yields a chunk exactly when reading does, and then the same one. -/
theorem readLast_of_chunk (r : ChunkReader) (buffer data : Bytes)
    (h : (r.readLast buffer).item = .ok (some (.chunk data))) :
    r.readLast buffer = r.read buffer := by
  unfold readLast at h ⊢
  revert h
  generalize r.read buffer = reply
  intro h
  dsimp only at h ⊢
  split
  · rename_i hi
    simp only [hi] at h
    split at h <;> simp_all
  · rfl

/-- Yields chunks for as long as the buffer allows. -/
def drain : ChunkReader → Bytes → Drained ChunkReader :=
  drainWith read weight weight_read_lt

/-- Yields chunks for as long as the buffer allows, knowing that no more octets will come. -/
def drainLast : ChunkReader → Bytes → Drained ChunkReader :=
  drainWith readLast weight fun r buffer data h => by
    have hr := readLast_of_chunk r buffer data h
    rw [hr] at h ⊢
    exact weight_read_lt r buffer data h

end ChunkReader

namespace BodyReader

/-- Bounds the number of chunks a reader can still yield from a buffer. -/
def weight (r : BodyReader) (buffer : Bytes) : Nat :=
  match r with
  | .chunked reader => reader.weight buffer
  | _ => buffer.length

/-- A chunk makes the reader lighter. -/
theorem weight_read_lt (r : BodyReader) (buffer data : Bytes)
    (h : (r.read buffer).item = .ok (some (.chunk data))) :
    (r.read buffer).reader.weight (r.read buffer).buffer < r.weight buffer := by
  cases r with
  | empty => simp [read] at h
  | untilClose =>
    cases buffer with
    | nil => simp [read] at h
    | cons b rest => simp [read, weight]
  | chunked reader => exact ChunkReader.weight_read_lt reader buffer data h
  | length remaining =>
    unfold read at h ⊢
    by_cases hr : remaining = 0
    · simp [hr] at h
    · cases buffer with
      | nil => simp [hr] at h
      | cons b rest => simp [hr, weight]; omega

/-- Reading the last item yields a chunk exactly when reading does, and then the same one. -/
theorem readLast_of_chunk (r : BodyReader) (buffer data : Bytes)
    (h : (r.readLast buffer).item = .ok (some (.chunk data))) :
    r.readLast buffer = r.read buffer := by
  unfold readLast at h ⊢
  revert h
  generalize r.read buffer = reply
  intro h
  dsimp only at h ⊢
  split
  · rename_i hi
    simp only [hi] at h
    split at h <;> simp_all
  · rfl

/-- Yields chunks for as long as the buffer allows. -/
def drain : BodyReader → Bytes → Drained BodyReader :=
  drainWith read weight weight_read_lt

/-- Yields chunks for as long as the buffer allows, knowing that the connection is closed. -/
def drainLast : BodyReader → Bytes → Drained BodyReader :=
  drainWith readLast weight fun r buffer data h => by
    have hr := readLast_of_chunk r buffer data h
    rw [hr] at h ⊢
    exact weight_read_lt r buffer data h

end BodyReader

end RelayTunnel.Http
