import RelayTunnel.Proofs.Http.BodySessions
import RelayTunnel.Proofs.Http.ChunkCompleteness

/-!
# Bodies that are cut off

The end of a body is the only sign that a response is complete, so a connection that is closed inside a body
must not look like one. As long as some of a body is missing, whatever a session has yielded and what its
reader would make of its buffer come to what taking the octets one by one comes to
(`Unfinished.call`). Hence the end is never reported, and draining the buffer yields the rest of the payload
and then the error (`truncated_of_absorb`). In a chunked body that is cut off, `payloadWithin` counts the
octets of data in front of the cut.

With the properties of whole bodies this says how a reader tells bodies apart, for each framing and every
session (`bodies_are_delimited`).
-/

set_option autoImplicit false

namespace RelayTunnel.Http

open Ascii (crlf)

/-! ## Readers in front of what is missing -/

namespace BodyReader

variable {r : BodyReader} {buffer : Bytes}

/-- More octets take no payload back. -/
theorem payload_absorb_prefix (r : BodyReader) (front behind : Bytes) :
    (r.absorb front).payload <+: (r.absorb (front ++ behind)).payload := by
  by_cases hstarved : (r.absorb front).stop = .starved
  · rw [absorb_append hstarved]
    exact List.prefix_append _ _
  · exact ⟨[], by rw [List.append_nil, absorb_append_of_stopped hstarved]⟩

/-- A body that is missing something leaves its reader wanting more. -/
theorem starved_of_missing {front missing : Bytes} (hmissing : missing ≠ [])
    (hrest : (r.absorb (front ++ missing)).rest = []) : (r.absorb front).stop = .starved := by
  refine Classical.byContradiction fun hstopped => ?_
  rw [absorb_append_of_stopped hstopped] at hrest
  exact hmissing (List.append_eq_nil_iff.mp hrest).2

/-- Draining a buffer behind which nothing comes yields all payload in it. Where the reader is left wanting
more, the body is truncated, unless it lasts until the connection is closed. -/
theorem drainLast_of_starved (h : r.Sound) (hopen : r ≠ .untilClose)
    (hstarved : (r.absorb buffer).stop = .starved) :
    (r.drainLast buffer).chunks.flatten = (r.absorb buffer).payload ∧
      (r.drainLast buffer).stop = .failed truncated := by
  induction hweight : r.weight buffer using Nat.strongRecOn generalizing r buffer with
  | ind n ih =>
    have hread := absorb_read h buffer
    have hreply : r.reply true buffer = r.readLast buffer := rfl
    rw [drainLast]
    rcases reply_cases r true buffer with ⟨heq, hanswered⟩ | ⟨-, rfl, -, -⟩ | ⟨-, -, hitem, heq⟩
    · rw [hreply] at heq
      obtain ⟨data, hitem⟩ | hitem | hitem | ⟨error, hitem⟩ := item_cases (r.read buffer).item
      · rw [hitem] at hread
        obtain ⟨hsound, habsorb⟩ := hread
        have hlighter := weight_read_lt r buffer data hitem
        have hopen' := mt (reader_read_eq_untilClose r buffer).mp hopen
        rw [habsorb] at hstarved ⊢
        obtain ⟨hpayload, hstop⟩ := ih _ (hweight ▸ hlighter) hsound hopen' hstarved rfl
        rw [drainWith_of_chunk (by rw [heq]; exact hitem), heq]
        exact ⟨congrArg (data ++ ·) hpayload, hstop⟩
      · rw [hitem] at hread
        rw [hread] at hstarved
        cases hstarved
      · exact absurd hitem (hanswered rfl)
      · rw [hitem] at hread
        rw [hread] at hstarved
        cases hstarved
    · exact absurd rfl hopen
    · rw [hreply] at heq
      rw [hitem] at hread
      rw [drainWith_of_error (by rw [heq]), hread]
      exact ⟨rfl, rfl⟩

/-- A question about a body that is missing something is not answered with its end, and it takes out of the
buffer what it yields. -/
theorem absorb_reply (h : r.Sound) (hopen : r ≠ .untilClose) {missing : Bytes} (hmissing : missing ≠ [])
    (hended : (r.absorb (buffer ++ missing)).stop = .ended)
    (hrest : (r.absorb (buffer ++ missing)).rest = []) (closed : Bool) :
    (r.reply closed buffer).item ≠ .ok (some .eof) ∧ (r.reply closed buffer).reader ≠ .untilClose ∧
      ∀ more, r.absorb (buffer ++ more) =
        ((r.reply closed buffer).reader.absorb ((r.reply closed buffer).buffer ++ more)).prepend
          (payloadOf (r.reply closed buffer).item) := by
  have hopen' := mt (reader_read_eq_untilClose r buffer).mp hopen
  rcases reply_cases r closed buffer with ⟨heq, -⟩ | ⟨-, rfl, -, -⟩ | ⟨-, -, hitem, heq⟩
  · rw [heq]
    obtain ⟨data, hitem⟩ | hitem | hitem | ⟨error, hitem⟩ := item_cases (r.read buffer).item
    · rw [hitem]
      exact ⟨nofun, hopen', absorb_append_of_chunk h hitem⟩
    · rw [absorb_append_of_eof h hitem] at hrest
      exact absurd (List.append_eq_nil_iff.mp hrest).2 hmissing
    · rw [hitem]
      exact ⟨nofun, hopen', absorb_append_of_none h hitem⟩
    · rw [absorb_append_of_error h hitem] at hended
      cases hended
  · exact absurd rfl hopen
  · rw [heq]
    exact ⟨nofun, hopen', absorb_append_of_none h hitem⟩

end BodyReader

/-! ## Sessions with what is missing -/

namespace BodySession

variable {framing : Framing} {whole : Bytes} {s : BodySession}

/-- A session in which no more than a part of a body has been fed has not come to the end, and what it has
yielded and left in the buffer is what the octets come to. -/
structure Unfinished (framing : Framing) (s : BodySession) : Prop where
  sound : s.reader.Sound
  not_untilClose : s.reader ≠ .untilClose
  quiet : .ok (some .eof) ∉ s.answers
  absorb : ∀ more, (BodyReader.ofFraming framing).absorb (s.fed ++ more) =
    (s.reader.absorb (s.buffer ++ more)).prepend s.yielded

/-- A call leaves a body unfinished as long as something is missing. -/
theorem Unfinished.call (h : s.Unfinished framing) {c : BodyCall} {missing : Bytes}
    (hmissing : missing ≠ [])
    (hended : ((BodyReader.ofFraming framing).absorb ((s.call c).fed ++ missing)).stop = .ended)
    (hrest : ((BodyReader.ofFraming framing).absorb ((s.call c).fed ++ missing)).rest = []) :
    (s.call c).Unfinished framing := by
  cases c with
  | feed octets =>
    refine ⟨h.sound, h.not_untilClose, h.quiet, fun more => ?_⟩
    show (BodyReader.ofFraming framing).absorb (s.fed ++ octets ++ more) =
      (s.reader.absorb (s.buffer ++ octets ++ more)).prepend s.yielded
    rw [List.append_assoc, List.append_assoc]
    exact h.absorb (octets ++ more)
  | ask closed =>
    have hwhole := h.absorb missing
    have hended' : (s.reader.absorb (s.buffer ++ missing)).stop = .ended :=
      (congrArg Absorbed.stop hwhole).symm.trans hended
    have hrest' : (s.reader.absorb (s.buffer ++ missing)).rest = [] :=
      (congrArg Absorbed.rest hwhole).symm.trans hrest
    obtain ⟨hitem, hopen, habsorb⟩ :=
      BodyReader.absorb_reply h.sound h.not_untilClose hmissing hended' hrest' closed
    refine ⟨BodyReader.sound_reply h.sound closed s.buffer, hopen, ?_, fun more => ?_⟩
    · exact mt (eof_mem_ask s closed).mp (not_or.mpr ⟨h.quiet, hitem⟩)
    · rw [yielded_ask, ← Absorbed.prepend_prepend]
      exact (h.absorb more).trans (congrArg _ (habsorb more))

/-- Throughout a session that has been fed a part of a body, it is unfinished. -/
theorem unfinished_run (hopen : framing ≠ .untilClose)
    (hended : ((BodyReader.ofFraming framing).absorb whole).stop = .ended)
    (hrest : ((BodyReader.ofFraming framing).absorb whole).rest = []) {calls : List BodyCall}
    {missing : Bytes} (hmissing : missing ≠ [])
    (hfed : ((start framing).run calls).fed ++ missing = whole) :
    ((start framing).run calls).Unfinished framing := by
  have hkeeps : ∀ (s : BodySession) c,
      (∀ missing ≠ [], s.fed ++ missing = whole → s.Unfinished framing) →
      ∀ missing ≠ [], (s.call c).fed ++ missing = whole → (s.call c).Unfinished framing := by
    intro s c h missing hmissing hfed
    have hbefore : s.Unfinished framing := by
      cases c with
      | feed octets =>
        refine h (octets ++ missing) (fun hnil => hmissing (List.append_eq_nil_iff.mp hnil).2) ?_
        rw [← List.append_assoc]
        exact hfed
      | ask closed => exact h missing hmissing hfed
    rw [← hfed] at hended hrest
    exact hbefore.call hmissing hended hrest
  have hstart : (start framing).Unfinished framing := by
    refine ⟨BodyReader.sound_ofFraming framing, ?_, nofun, fun more => rfl⟩
    cases framing with
    | untilClose => exact absurd rfl hopen
    | length octets => exact nofun
    | chunked => exact nofun
    | empty => exact nofun
  exact run_keeps hkeeps (fun _ _ _ => hstart) calls missing hmissing hfed

/-- A session that would be found truncated if the connection were closed now: the end has not been
reported, and draining the buffer yields what is missing from the payload so far and then the error. -/
structure Truncated (s : BodySession) (payload : Bytes) : Prop where
  quiet : .ok (some .eof) ∉ s.answers
  drained : s.yielded ++ (s.reader.drainLast s.buffer).chunks.flatten = payload
  stop : (s.reader.drainLast s.buffer).stop = .failed BodyReader.truncated

/-- A session that has been fed all but a part of a body is cut short. -/
theorem truncated_of_absorb (hopen : framing ≠ .untilClose)
    (hended : ((BodyReader.ofFraming framing).absorb whole).stop = .ended)
    (hrest : ((BodyReader.ofFraming framing).absorb whole).rest = []) {calls : List BodyCall}
    {missing : Bytes} (hmissing : missing ≠ [])
    (hfed : ((start framing).run calls).fed ++ missing = whole) :
    ((start framing).run calls).Truncated
      ((BodyReader.ofFraming framing).absorb ((start framing).run calls).fed).payload := by
  obtain ⟨hsound, hopen', hquiet, habsorb⟩ := unfinished_run hopen hended hrest hmissing hfed
  have hnow := habsorb []
  rw [List.append_nil, List.append_nil] at hnow
  rw [← hfed] at hrest
  have hstarved := BodyReader.starved_of_missing hmissing hrest
  rw [hnow] at hstarved
  obtain ⟨hpayload, hstop⟩ := BodyReader.drainLast_of_starved hsound hopen' hstarved
  refine ⟨hquiet, ?_, hstop⟩
  rw [hnow, hpayload]
  rfl

end BodySession

/-! ## The payload in front of a cut -/

/-- The octets of chunk data among the first `n` octets of a chunked body. -/
def payloadWithin : List DataChunk → Nat → Bytes
  | [], _ => []
  | chunk :: chunks, n =>
      chunk.data.take (n - chunk.line.octets.length) ++ payloadWithin chunks (n - chunk.octets.length)

/-- No octets are in front of the payload. -/
theorem payloadWithin_zero (chunks : List DataChunk) : payloadWithin chunks 0 = [] := by
  induction chunks with
  | nil => rfl
  | cons chunk chunks ih => rw [payloadWithin, Nat.zero_sub, Nat.zero_sub, List.take_zero, ih]; rfl

/-- A chunk is its size line, its payload and a line end. -/
theorem DataChunk.length_octets (chunk : DataChunk) :
    chunk.octets.length = chunk.line.octets.length + chunk.data.length + 2 := by
  rw [octets, List.length_append, List.length_append]
  rfl

/-- A front piece of two parts ends in the first part or in the second. -/
theorem prefix_append_cases {front behind piece : Bytes} (h : piece <+: front ++ behind) :
    piece <+: front ∨ ∃ rest, piece = front ++ rest ∧ rest <+: behind := by
  rcases List.prefix_or_prefix_of_prefix h (List.prefix_append front behind) with hfront | ⟨rest, rfl⟩
  · exact Or.inl hfront
  · exact Or.inr ⟨rest, rfl, (List.prefix_append_right_inj front).mp h⟩

namespace BodyReader

/-- The reader yields nothing of octets behind which it has yielded nothing. -/
theorem payload_absorb_nil {r : BodyReader} {octets front : Bytes} (h : (r.absorb octets).payload = [])
    (hfront : front <+: octets) : (r.absorb front).payload = [] := by
  obtain ⟨behind, rfl⟩ := hfront
  have hprefix := payload_absorb_prefix r front behind
  rw [h] at hprefix
  exact List.prefix_nil.mp hprefix

/-- What is yielded of the front of the data of a chunk and its line end. -/
theorem payload_absorb_chunkData (chunk : DataChunk) {front : Bytes} (hfront : front <+: chunk.data ++ crlf) :
    ((chunked ⟨.data, chunk.line.size⟩).absorb front).payload = chunk.data.take front.length := by
  rw [absorb_data chunk.size_pos]
  rcases prefix_append_cases hfront with hpart | ⟨ending, rfl, hending⟩
  · have hle : front.length ≤ chunk.line.size := chunk.length_data ▸ hpart.length_le
    rw [List.take_of_length_le hle, List.drop_of_length_le hle, ← List.prefix_iff_eq_take.mp hpart]
    exact List.append_nil front
  · -- the data is there as a whole, and nothing is yielded of the line end behind it
    have hcrlf : ((chunked ⟨.dataCr, 0⟩).absorb crlf).payload = [] := by
      rw [← List.append_nil crlf, absorb_of_skipFraming (ChunkReader.skipFraming_dataEnd [])]
      rfl
    have htake : (chunk.data ++ ending).take chunk.line.size = chunk.data := by
      rw [← chunk.length_data, List.take_left]
    have hdrop : (chunk.data ++ ending).drop chunk.line.size = ending := by
      rw [← chunk.length_data, List.drop_left]
    rw [htake, hdrop, chunk.length_data, Nat.sub_self, if_pos rfl, Absorbed.prepend,
      payload_absorb_nil hcrlf hending, List.append_nil, List.length_append,
      List.take_of_length_le (Nat.le_add_right _ _)]

/-- What is yielded of the front of a chunk. -/
theorem payload_absorb_dataChunk (chunk : DataChunk) {front : Bytes} (hfront : front <+: chunk.octets) :
    ((chunked .start).absorb front).payload =
      chunk.data.take (front.length - chunk.line.octets.length) := by
  have hsize : chunk.line.size ≠ 0 := Nat.ne_of_gt chunk.size_pos
  -- behind its size line the reader is in the data
  have hline : ∀ behind, (chunked .start).absorb (chunk.line.octets ++ behind) =
      (chunked ⟨.data, chunk.line.size⟩).absorb behind := by
    intro behind
    rw [absorb_of_skipFraming (ChunkReader.skipFraming_sizeLine chunk.line behind), if_neg hsize]
  rw [DataChunk.octets, List.append_assoc] at hfront
  rcases prefix_append_cases hfront with hshort | ⟨behind, rfl, hbehind⟩
  · have hle := hshort.length_le
    have hnil := hline []
    rw [List.append_nil] at hnil
    rw [payload_absorb_nil (by rw [hnil]; rfl) hshort, Nat.sub_eq_zero_of_le hle, List.take_zero]
  · rw [hline, payload_absorb_chunkData chunk hbehind, List.length_append, Nat.add_sub_cancel_left]

/-- What is yielded of the front of a chunked body is the data in it. -/
theorem payload_absorb_chunks {chunks : List DataChunk} {last front : Bytes}
    (hlast : ((chunked .start).absorb last).payload = [])
    (hfront : front <+: chunks.flatMap DataChunk.octets ++ last) :
    ((chunked .start).absorb front).payload = payloadWithin chunks front.length := by
  induction chunks generalizing front with
  | nil => exact payload_absorb_nil hlast hfront
  | cons chunk chunks ih =>
    rw [List.flatMap_cons, List.append_assoc] at hfront
    have hlength := chunk.length_octets
    rw [payloadWithin]
    rcases prefix_append_cases hfront with hshort | ⟨behind, rfl, hbehind⟩
    · have hle := hshort.length_le
      rw [payload_absorb_dataChunk chunk hshort, Nat.sub_eq_zero_of_le hle, payloadWithin_zero,
        List.append_nil]
    · rw [absorb_dataChunk, Absorbed.prepend, ih hbehind, List.length_append, Nat.add_sub_cancel_left,
        List.take_of_length_le (by omega)]

/-- What is taken of a body is the payload among the octets in front. -/
theorem payload_absorb_body (body : ChunkedBody) {front : Bytes} (hfront : front <+: body.octets) :
    ((chunked .start).absorb front).payload = payloadWithin body.chunks front.length := by
  refine payload_absorb_chunks ?_ hfront
  rw [absorb_bodyEnd]

/-- A body of just the stated length is taken to its end. -/
theorem absorb_length_self (octets : Bytes) :
    (length octets.length).absorb octets = ⟨octets, .ended, length 0, []⟩ := by
  rw [absorb_length, List.take_length, List.drop_length, Nat.sub_self, absorb_of_isOver rfl,
    Absorbed.prepend, List.append_nil]

/-- Of a body that is not complete, all octets are payload. -/
theorem payload_absorb_length {n : Nat} {octets : Bytes} (h : octets.length ≤ n) :
    ((length n).absorb octets).payload = octets := by
  rw [absorb_length, List.take_of_length_le h, List.drop_of_length_le h]
  exact List.append_nil octets

end BodyReader

/-! ## How bodies are told apart -/

namespace BodySession

/-- A session with a body of `n` octets. It has taken out of the stream what it has yielded, which is the
front of the stream and no longer than the body. The end is reported exactly when all of the body has been
yielded, and from then on. While less than the body has been fed, the session is truncated. -/
structure DelimitedByLength (n : Nat) (s : BodySession) : Prop where
  fed : s.fed = s.yielded ++ s.buffer
  yielded : s.yielded = s.fed.take (min n (s.fed.length - s.buffer.length))
  eof_iff : ∀ closed, (s.asked closed).item = .ok (some .eof) ↔ s.yielded.length = n
  atEnd : s.yielded.length = n → s.AtEnd
  truncated : s.fed.length < n → s.Truncated s.fed

/-- A session with a chunked body. While something of a body is missing, the session is truncated, and the
payload is the data in front of the cut. -/
structure DelimitedByChunks (s : BodySession) : Prop where
  truncated : ∀ (body : ChunkedBody) (missing : Bytes), missing ≠ [] →
    s.fed ++ missing = body.octets → s.Truncated (payloadWithin body.chunks s.fed.length)

/-- A session with a body that lasts until the connection is closed. It yields the stream. The end is
reported for the first time when the connection has been closed and the buffer is empty. -/
structure DelimitedByClose (s : BodySession) : Prop where
  fed : s.yielded ++ s.buffer = s.fed
  eof_iff : .ok (some .eof) ∉ s.answers → ∀ closed,
    (s.asked closed).item = .ok (some .eof) ↔ closed = true ∧ s.buffer = []

/-- A session with an empty body. It takes nothing, and it is at the end from the start. -/
structure DelimitedAtOnce (s : BodySession) : Prop where
  buffer : s.buffer = s.fed
  atEnd : s.AtEnd

/-- A session that comes on with every chunk, and stays at the end once it is there. -/
structure Proceeds (s : BodySession) : Prop where
  chunk : ∀ closed data, (s.asked closed).item = .ok (some (.chunk data)) →
    data ≠ [] ∧ (s.asked closed).buffer.length < s.buffer.length
  atEnd : .ok (some .eof) ∈ s.answers → s.AtEnd

/-- A session that has been fed less than the stated length is cut short. -/
theorem truncated_of_length {n : Nat} {calls : List BodyCall}
    (h : ((start (.length n)).run calls).fed.length < n) :
    ((start (.length n)).run calls).Truncated ((start (.length n)).run calls).fed := by
  have hpayload := BodyReader.payload_absorb_length (Nat.le_of_lt h)
  -- any octets make up the body
  obtain ⟨missing, hmissing⟩ : ∃ missing : Bytes,
      missing.length = n - ((start (.length n)).run calls).fed.length :=
    ⟨List.replicate _ 0, List.length_replicate⟩
  have hne : missing ≠ [] := by
    rintro rfl
    rw [List.length_nil] at hmissing
    omega
  have hlength : (((start (.length n)).run calls).fed ++ missing).length = n := by
    rw [List.length_append]
    omega
  have hwhole := BodyReader.absorb_length_self (((start (.length n)).run calls).fed ++ missing)
  rw [hlength] at hwhole
  have hopen : Framing.length n ≠ .untilClose := nofun
  have htruncated := truncated_of_absorb hopen (congrArg Absorbed.stop hwhole)
    (congrArg Absorbed.rest hwhole) hne rfl
  rwa [BodyReader.ofFraming, hpayload] at htruncated

/-- So is one that has been fed a part of a chunked body. -/
theorem truncated_of_chunks {calls : List BodyCall} {body : ChunkedBody} {missing : Bytes}
    (hmissing : missing ≠ []) (hfed : ((start .chunked).run calls).fed ++ missing = body.octets) :
    ((start .chunked).run calls).Truncated
      (payloadWithin body.chunks ((start .chunked).run calls).fed.length) := by
  have hended : ((BodyReader.ofFraming .chunked).absorb body.octets).stop = .ended :=
    congrArg Absorbed.stop (BodyReader.absorb_body body)
  have hrest : ((BodyReader.ofFraming .chunked).absorb body.octets).rest = [] :=
    congrArg Absorbed.rest (BodyReader.absorb_body body)
  have hopen : Framing.chunked ≠ .untilClose := nofun
  have htruncated := truncated_of_absorb hopen hended hrest hmissing hfed
  rwa [BodyReader.ofFraming, BodyReader.payload_absorb_body body ⟨missing, hfed⟩] at htruncated

/-- How bodies are told apart, in every session: whatever octets are fed, and whenever the next item is
asked for, on a connection that may have been closed. -/
theorem bodies_are_delimited (calls : List BodyCall) :
    (∀ n, ((start (.length n)).run calls).DelimitedByLength n) ∧
    ((start .chunked).run calls).DelimitedByChunks ∧
    ((start .untilClose).run calls).DelimitedByClose ∧
    ((start .empty).run calls).DelimitedAtOnce ∧
    ∀ framing, ((start framing).run calls).Proceeds := by
  refine ⟨fun n => ?_, ?_, ?_, ?_, fun framing => ?_⟩
  · have h := atLength_run n calls
    exact ⟨h.fed, h.yielded_eq, h.asked_eof_iff, h.atEnd, truncated_of_length⟩
  · exact ⟨fun body missing hmissing hfed => truncated_of_chunks hmissing hfed⟩
  · have h := atClose_run calls
    exact ⟨h.fed, h.asked_eof_iff⟩
  · have h := atNothing_run calls
    exact ⟨h.buffer, h.atEnd⟩
  · have hsound := sound_run framing calls
    exact ⟨fun closed data hitem => BodyReader.chunk_of_reply hsound hitem, atEnd_of_eof_mem⟩

/-- A chunked body of which the front arrives in two pieces, with an item asked for in between, once as if
the connection had been closed. -/
def cutCalls : List BodyCall :=
  [.feed (Ascii.bytes "00B;x=1\r\nhel"), .ask false, .ask true, .feed (Ascii.bytes "lo")]

/-- Bodies of both kinds that are cut in the middle are told apart. -/
theorem cutCalls_is_truncated :
    ((start .chunked).run cutCalls).yielded = Ascii.bytes "hel" ∧
    ((start .chunked).run cutCalls).Truncated (Ascii.bytes "hello") ∧
    ((start (.length 12)).run cutCalls).yielded.length = 12 ∧
    ((start (.length 12)).run cutCalls).AtEnd ∧
    ((start (.length 12)).run cutCalls).buffer = Ascii.bytes "lo" := by
  obtain ⟨hlength, hchunks, -⟩ := bodies_are_delimited cutCalls
  have hmissing : Ascii.bytes " world\r\n000\r\nA: b\r\n\r\n" ≠ [] := by decide
  have hfed : ((start .chunked).run cutCalls).fed ++ Ascii.bytes " world\r\n000\r\nA: b\r\n\r\n" =
      paddedBody.octets := by decide
  have htruncated := hchunks.truncated paddedBody _ hmissing hfed
  have hpayload : payloadWithin paddedBody.chunks ((start .chunked).run cutCalls).fed.length =
      Ascii.bytes "hello" := by decide
  have hall : ((start (.length 12)).run cutCalls).yielded.length = 12 := by decide
  rw [hpayload] at htruncated
  exact ⟨by decide, htruncated, hall, (hlength 12).atEnd hall, by decide⟩

end BodySession

end RelayTunnel.Http
