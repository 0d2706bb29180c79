import RelayTunnel.Proofs.Transcode.Rounds

/-!
# Transcripts of a transcoder

A transcript tells part by part what a run gives to the relay. `Duplex.opening` says what a call sends before
it goes round the loop and what it goes round the loop with, and `Duplex.transcript` puts the loops of a run
together. Every transcript is of one of four forms (`Transcribed`), and in all of them the last chunk stands
behind the chunks of a response and nowhere else.

No call leaves anything behind: every loop ends, and between two calls nothing is pending and the compressed
body can go on (`run_leaves_nothing`).
-/

set_option autoImplicit false

namespace RelayTunnel.Transcode

open Compression (BodyCompressor)
open Http (BodyReader)

variable {C : Type} {parts lead : List Part} {t : ResponseTranscoder C} {result : Bytes × ResponseTranscoder C}

/-- A body that is compressed between two calls has not come to its end. -/
def ResponseTranscoder.Unfinished : ResponseTranscoder C → Prop
  | .encoding e => e.reader.isOver = false
  | _ => True

/-- What is sent before a loop: the head of a response, if it starts with this call. -/
inductive Leads : List Part → ResponseTranscoder C → Prop
  | starting {held : Bytes} (head : Http.ResponseHead) : Leads [.head head] (.inspecting held)
  | going {e : Encoding C} : Leads [] (.encoding e)

/-- What a call does that goes round no loop: it changes nothing, it holds octets back, or it lets octets
through as they are. -/
inductive Skips : List Part → ResponseTranscoder C → Bytes × ResponseTranscoder C → Prop
  | idle {t : ResponseTranscoder C} : Skips [] t ([], t)
  | held {before after : Bytes} : Skips [] (.inspecting before) ([], .inspecting after)
  | passed {t : ResponseTranscoder C} {octets : Bytes} :
      t.isEncoding = false → Skips [.verbatim octets] t (octets, .passthrough)

/-- Such a call gives the octets of its parts. -/
theorem Skips.gives (h : Skips lead t result) : octets lead = result.1 := by
  cases h with
  | idle => rfl
  | held => rfl
  | passed => simp [Part.octets]

/-- Such a call leaves no body at its end. -/
theorem Skips.unfinished (h : Skips lead t result) (ht : t.Unfinished) : result.2.Unfinished := by
  cases h with
  | idle => exact ht
  | held => trivial
  | passed => trivial

/-- The forms that a transcript takes, and how it leaves the transcoder: nothing has gone out, nothing but
octets as they came, the head and the chunks of a response that is compressed, or such a response as a whole
and octets as they came behind it. -/
inductive Transcribed : List Part → ResponseTranscoder C → Prop
  | silent {held : Bytes} : Transcribed [] (.inspecting held)
  | plain (passed : List Bytes) : Transcribed (passed.map .verbatim) .passthrough
  | begun (head : Http.ResponseHead) (pieces : List Bytes) (e : Encoding C) :
      Transcribed (.head head :: chunkParts pieces) (.encoding e)
  | ended (head : Http.ResponseHead) (pieces passed : List Bytes) :
      Transcribed (.head head :: chunkParts pieces ++ .lastChunk :: passed.map .verbatim) .passthrough

/-- Octets that are let through may be added where no body is compressed. -/
theorem Transcribed.passed (h : Transcribed parts t) (hplain : t.isEncoding = false) (octets : Bytes) :
    Transcribed (parts ++ [.verbatim octets]) (.passthrough : ResponseTranscoder C) := by
  cases h with
  | silent => exact .plain [octets]
  | plain passed =>
    have hlonger := Transcribed.plain (C := C) (passed ++ [octets])
    rwa [List.map_append] at hlonger
  | begun => cases hplain
  | ended head pieces passed =>
    have hlonger := Transcribed.ended (C := C) head pieces (passed ++ [octets])
    simpa using hlonger

/-- A call that goes round no loop keeps the transcript in form. -/
theorem Transcribed.skip (h : Transcribed parts t) (hskips : Skips lead t result) :
    Transcribed (parts ++ lead) result.2 := by
  cases hskips with
  | idle => rwa [List.append_nil]
  | held =>
    cases h
    exact .silent
  | passed hplain => exact h.passed hplain _

/-- In front of a loop, the head of a response has gone out, and chunks behind it. -/
theorem Transcribed.in_front (h : Transcribed parts t) (hleads : Leads lead t) :
    ∃ head pieces, parts ++ lead = .head head :: chunkParts pieces := by
  cases hleads with
  | starting head =>
    cases h
    exact ⟨head, [], rfl⟩
  | going =>
    cases h with
    | begun head pieces => exact ⟨head, pieces, List.append_nil _⟩

/-- One response at most is compressed in a transcript, and it has one last chunk, once it is over. -/
theorem Transcribed.counts (h : Transcribed parts t) :
    parts.countP Part.isHead ≤ 1 ∧ (t.isEncoding = true → parts.countP Part.isHead = 1) ∧
      parts.countP Part.isLastChunk = if t.isEncoding then 0 else parts.countP Part.isHead := by
  cases h with
  | silent => simp [ResponseTranscoder.isEncoding]
  | plain passed => simp [ResponseTranscoder.isEncoding]
  | begun head pieces e =>
    simp [List.countP_cons, Part.isHead, Part.isLastChunk, ResponseTranscoder.isEncoding]
  | ended head pieces passed =>
    simp [List.countP_append, List.countP_cons, Part.isHead, Part.isLastChunk,
      ResponseTranscoder.isEncoding]

variable [BodyCompressor C]

namespace Duplex

/-- What a call sends before it goes round the loop, and the work it goes round the loop with, if it
has any. -/
def opening (d : Duplex C) : DuplexCall → List Part × Option (Work C)
  | .inspect _ => ([], none)
  | .finish =>
      match d.responses with
      | .inspecting held => ([.verbatim held], none)
      | .passthrough => ([], none)
      | .encoding e => ([], some (.ofEncoding true e))
  | .transform chunk =>
      match d.responses with
      | .passthrough => ([.verbatim chunk], none)
      | .encoding e => ([], some (.ofEncoding false { e with pending := e.pending ++ chunk }))
      | .inspecting held =>
          match d.requests.coding? with
          | none => ([.verbatim (held ++ chunk)], none)
          | some coding =>
              match Http.takeResponse (held ++ chunk) with
              | .ok none => ([], none)
              | .error _ => ([.verbatim (held ++ chunk)], none)
              | .ok (some taken) =>
                  match ResponseTranscoder.plan? taken.head with
                  | none => ([.verbatim (held ++ chunk)], none)
                  | some reader =>
                      ([.head (recodedHead coding taken.head)],
                        some (.ofEncoding false
                          ⟨reader, BodyCompressor.start coding, .start, taken.rest⟩))

/-- What a call gives to the relay, part by part. -/
def send (d : Duplex C) (call : DuplexCall) : List Part :=
  match d.opening call with
  | (lead, none) => lead
  | (lead, some w) => lead ++ w.loop.1

/-- What calls give to the relay, part by part. -/
def transcript (d : Duplex C) : List DuplexCall → List Part
  | [] => []
  | call :: calls => d.send call ++ (d.call call).2.transcript calls

end Duplex

/-! ## Single calls -/

/-- What a call does that goes round a loop: the work is live, and the loop gives what the call gives. -/
structure Goes (lead : List Part) (w : Work C) (t : ResponseTranscoder C)
    (result : Bytes × ResponseTranscoder C) : Prop where
  leads : Leads lead t
  live : w.Live
  closed : w.closed = true → w.pending = []
  gives : octets (lead ++ w.loop.1) = result.1
  leaves : Work.Leaves w.loop.2 result.2

/-- The loop of a call comes to its end. -/
theorem Goes.ends {w : Work C} (h : Goes lead w t result) : w.Ends lead result := by
  have hends : w.Ends lead (octets (lead ++ w.loop.1), result.2) :=
    Work.ends_of_live h.live h.closed h.leaves
  rwa [h.gives] at hends

/-- A body that is left waiting has not come to its end. -/
theorem Goes.unfinished {w : Work C} (h : Goes lead w t result) : result.2.Unfinished := by
  obtain ⟨hrounds, hround⟩ | _ := h.ends
  · obtain ⟨hlive, -, -, -⟩ := hrounds.live h.live
    exact (hlive.waiting hround).2.2.2
  · trivial

/-- To pump an encoding is to go round the loop. -/
theorem Goes.of_pump {e : Encoding C} {head : Bytes} (hleads : Leads lead t) (hsound : e.reader.Sound)
    (hwriter : e.writer = .start) (hlead : octets lead = head) :
    Goes lead (.ofEncoding false e) t
      (head ++ (ResponseTranscoder.pump e).1, (ResponseTranscoder.pump e).2) := by
  obtain ⟨hgives, hleaves⟩ := Work.loop_of_encoding hsound hwriter
  refine ⟨hleads, .of_encoding false hsound hwriter, by simp [Work.ofEncoding], ?_, hleaves⟩
  rw [octets_append, hgives, hlead]

namespace Duplex

variable {d : Duplex C} {w : Work C}

/-- Octets that open a loop go round it. -/
theorem goes_of_transform (h : d.responses.Settled) {chunk : Bytes}
    (hopening : d.opening (.transform chunk) = (lead, some w)) :
    Goes lead w d.responses (d.responses.transform d.requests.coding? chunk) := by
  obtain ⟨requests, responses⟩ := d
  cases responses with
  | passthrough => cases hopening
  | encoding e =>
    have hready : e.Ready := h
    cases hopening
    exact Goes.of_pump (e := { e with pending := e.pending ++ chunk }) .going hready.sound
      hready.writer rfl
  | inspecting held =>
    simp only [opening] at hopening
    split at hopening
    · cases hopening
    · next coding hcoding =>
      split at hopening
      · cases hopening
      · cases hopening
      · next taken htake =>
        split at hopening
        · cases hopening
        · next reader hplan =>
          cases hopening
          obtain ⟨hcompressible, hreader⟩ := ResponseTranscoder.plan?_eq_some.mp hplan
          obtain ⟨head, hrender⟩ := ResponseTranscoder.render?_recodedHead htake coding
          dsimp only
          rw [hcoding, ResponseTranscoder.transform_of_eligible htake hcompressible hreader hrender]
          exact .of_pump (.starting _) (BodyReader.sound_ofResponse hreader) rfl
            (by simp [Part.octets, hrender])

/-- Whatever loop a call goes round, it goes round it with a live work, and gives what the loop gives. -/
theorem goes_of_opening (h : d.responses.Settled) {call : DuplexCall}
    (hopening : d.opening call = (lead, some w)) :
    Goes lead w d.responses ((d.call call).1, (d.call call).2.responses) := by
  cases call with
  | inspect chunk => cases hopening
  | transform chunk => exact goes_of_transform h hopening
  | finish =>
    obtain ⟨requests, responses⟩ := d
    cases responses with
    | inspecting held => cases hopening
    | passthrough => cases hopening
    | encoding e =>
      have hready : e.Ready := h
      cases hopening
      obtain ⟨hgives, hleaves⟩ := Work.loop_of_close hready.writer
      exact ⟨.going, .of_encoding true hready.sound hready.writer, fun _ => hready.pending, hgives,
        hleaves⟩

/-- Octets that open no loop go round none. -/
theorem skips_of_transform {chunk : Bytes}
    (hopening : d.opening (.transform chunk) = (lead, none)) :
    Skips lead d.responses (d.responses.transform d.requests.coding? chunk) := by
  obtain ⟨requests, responses⟩ := d
  cases responses with
  | encoding e => cases hopening
  | passthrough =>
    cases hopening
    exact .passed rfl
  | inspecting held =>
    simp only [opening] at hopening
    split at hopening
    · next hcoding =>
      cases hopening
      dsimp only
      rw [hcoding]
      exact .passed rfl
    · next coding hcoding =>
      dsimp only
      rw [hcoding]
      split at hopening
      · next htake =>
        cases hopening
        rw [ResponseTranscoder.transform_of_incomplete htake]
        exact .held
      · next error htake =>
        cases hopening
        rw [ResponseTranscoder.transform_of_refused htake]
        exact .passed rfl
      · next taken htake =>
        split at hopening
        · next hplan =>
          cases hopening
          rw [ResponseTranscoder.transform_of_ineligible htake hplan]
          exact .passed rfl
        · cases hopening

/-- A call that opens no loop goes round none. -/
theorem skips_of_opening {call : DuplexCall} (hopening : d.opening call = (lead, none)) :
    Skips lead d.responses ((d.call call).1, (d.call call).2.responses) := by
  cases call with
  | transform chunk => exact skips_of_transform hopening
  | inspect chunk =>
    cases hopening
    exact .idle
  | finish =>
    obtain ⟨requests, responses⟩ := d
    cases responses with
    | encoding e => cases hopening
    | inspecting held =>
      cases hopening
      exact .passed rfl
    | passthrough =>
      cases hopening
      exact .idle

/-- What a call sends is what it gives. -/
theorem octets_send (h : d.responses.Settled) (call : DuplexCall) :
    octets (d.send call) = (d.call call).1 := by
  unfold send
  split
  · next lead hopening => exact (skips_of_opening hopening).gives
  · next lead w hopening => exact (goes_of_opening h hopening).gives

/-- The transcript of a run holds what the run gives, in order. -/
theorem octets_transcript (h : d.responses.Settled) (calls : List DuplexCall) :
    octets (d.transcript calls) = (d.run calls).1 := by
  induction calls generalizing d with
  | nil => rfl
  | cons call calls ih =>
    rw [transcript, octets_append, octets_send h, ih (settled_call h call), run_cons]

end Duplex

/-! ## The form of a transcript -/

/-- A call that goes round a loop keeps the transcript in form. -/
theorem Transcribed.go {w : Work C} (h : Transcribed parts t) (hgoes : Goes lead w t result) :
    Transcribed (parts ++ (lead ++ w.loop.1)) result.2 := by
  obtain ⟨out, t'⟩ := result
  obtain ⟨hleads, hlive, -, -, hleaves⟩ := hgoes
  obtain ⟨head, front, hfront⟩ := h.in_front hleads
  rw [← List.append_assoc, hfront]
  rcases Work.loop_of_live hlive with ⟨pieces, w', hloop⟩ | ⟨pieces, passed, hloop⟩
  · rw [hloop] at hleaves ⊢
    obtain ⟨e⟩ := hleaves
    rw [List.cons_append, ← chunkParts_append]
    exact .begun head (front ++ pieces) e
  · rw [hloop] at hleaves ⊢
    obtain ⟨⟩ := hleaves
    rw [← List.append_assoc, List.cons_append, ← chunkParts_append]
    exact .ended head (front ++ pieces) passed

namespace Duplex

variable {d : Duplex C}

/-- Every call keeps the transcript in form. -/
theorem transcribed_call (h : d.responses.Settled) (hparts : Transcribed parts d.responses)
    (call : DuplexCall) : Transcribed (parts ++ d.send call) (d.call call).2.responses := by
  unfold send
  split
  · next lead hopening => exact hparts.skip (skips_of_opening hopening)
  · next lead w hopening => exact hparts.go (goes_of_opening h hopening)

/-- In every run, the transcript is in form. -/
theorem transcribed_run (h : d.responses.Settled) (hparts : Transcribed parts d.responses)
    (calls : List DuplexCall) :
    Transcribed (parts ++ d.transcript calls) (d.run calls).2.responses := by
  induction calls generalizing d parts with
  | nil => rwa [transcript, List.append_nil]
  | cons call calls ih =>
    rw [transcript, ← List.append_assoc]
    exact ih (settled_call h call) (transcribed_call h hparts call)

/-- A call leaves no body at its end. -/
theorem unfinished_call (h : d.responses.Settled) (hunfinished : d.responses.Unfinished)
    (call : DuplexCall) : (d.call call).2.responses.Unfinished := by
  cases hopening : d.opening call with
  | mk lead work =>
    cases work with
    | none => exact (skips_of_opening hopening).unfinished hunfinished
    | some w => exact (goes_of_opening h hopening).unfinished

/-- Nor do all calls. -/
theorem unfinished_run (h : d.responses.Settled) (hunfinished : d.responses.Unfinished)
    (calls : List DuplexCall) : (d.run calls).2.responses.Unfinished := by
  induction calls generalizing d with
  | nil => exact hunfinished
  | cons call calls ih => exact ih (settled_call h call) (unfinished_call h hunfinished call)

end Duplex

/-- Whatever calls there are and whatever comes from the destination: between two calls nothing is pending of
a response that is compressed, its chunked body is open and it has not come to its end. In every call that
goes round the loop, each round that another follows takes octets out of the pending ones, the compressor is
there in every round, and the loop comes to its end: it waits for more with its compressor, or the response is
over, and octets that are left behind it go out as they are. So one last chunk goes out for a response that is
compressed, and none before its end. -/
theorem Duplex.run_leaves_nothing (C : Type) [BodyCompressor C] (calls : List DuplexCall) :
    let d := ((start C).run calls).2
    let parts := (start C).transcript calls
    (∀ e, d.responses = .encoding e →
      e.pending = [] ∧ e.writer.finished = false ∧ e.reader.isOver = false) ∧
    (∀ call lead w, d.opening call = (lead, some w) →
      w.Careful ∧ w.Ends lead ((d.call call).1, (d.call call).2.responses)) ∧
    octets parts = ((start C).run calls).1 ∧
    parts.countP Part.isHead ≤ 1 ∧
    (d.responses.isEncoding = true → parts.countP Part.isHead = 1) ∧
    parts.countP Part.isLastChunk = if d.responses.isEncoding then 0 else parts.countP Part.isHead := by
  intro d parts
  have hstart : (start C).responses.Settled := ResponseTranscoder.settled_start
  have hsettled : d.responses.Settled := settled_run hstart calls
  have hunfinished : d.responses.Unfinished := unfinished_run hstart trivial calls
  have hform : Transcribed parts d.responses := transcribed_run hstart .silent calls
  refine ⟨?_, ?_, octets_transcript hstart calls, hform.counts⟩
  · intro e hencoding
    rw [hencoding] at hsettled hunfinished
    have hready : e.Ready := hsettled
    refine ⟨hready.pending, ?_, hunfinished⟩
    rw [hready.writer]
    rfl
  · intro call lead w hopening
    have hgoes := goes_of_opening hsettled hopening
    exact ⟨hgoes.live.careful, hgoes.ends⟩

/-- A response to be compressed of which one octet is missing. -/
def cutResponse : List DuplexCall :=
  [.inspect (Ascii.bytes "GET / HTTP/1.1\r\nAccept-Encoding: gzip\r\n\r\n"),
    .transform (Ascii.bytes "HTTP/1.1 200 OK\r\nContent-Type: text/html\r\nContent-Length: 3\r\n\r\nab")]

/-- The last chunk of a response that is cut short goes out when the destination closes, and not before. -/
theorem Duplex.cutResponse_leaves_nothing :
    ((start Compression.Compressor).run cutResponse).2.responses.held = [] ∧
    ((start Compression.Compressor).transcript cutResponse).countP Part.isLastChunk = 0 ∧
    ((start Compression.Compressor).transcript (cutResponse ++ [.finish])).countP Part.isLastChunk = 1 := by
  obtain ⟨hstate, -, -, -, -, hopen⟩ := run_leaves_nothing Compression.Compressor cutResponse
  obtain ⟨-, -, -, -, -, hover⟩ := run_leaves_nothing Compression.Compressor (cutResponse ++ [.finish])
  have hencoding : ((start Compression.Compressor).run cutResponse).2.responses.isEncoding = true := by
    decide +kernel
  have hfinished : ((start Compression.Compressor).run (cutResponse ++ [.finish])).2.responses.isEncoding =
      false := by
    decide +kernel
  have hhead : ((start Compression.Compressor).transcript (cutResponse ++ [.finish])).countP Part.isHead =
      1 := by
    decide +kernel
  rw [hencoding] at hopen
  rw [hfinished, hhead] at hover
  refine ⟨?_, hopen, hover⟩
  cases hresponses : ((start Compression.Compressor).run cutResponse).2.responses with
  | encoding e => exact (hstate e hresponses).1
  | inspecting held => simp [hresponses, ResponseTranscoder.isEncoding] at hencoding
  | passthrough => rfl

end RelayTunnel.Transcode
