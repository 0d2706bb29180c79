import RelayTunnel.Proofs.Transcode.Verbatim

/-!
# Requests behind the first octets of a response

The two sides of a duplex share one decision, which the request side writes once and the response side
looks at when it is first called. From then on nothing a request holds has a bearing on the response: there
was no decision yet, and the response passes through, or there was one, and it stands (`alike_call_self`).

`Alike` relates two duplexes whose response sides cannot tell them apart any more. A call to the response
side answers the same at both and keeps them alike, and a call to the request side of one of them does too.
So a run may be purged of every request behind its first response call (`late_requests_change_nothing`).
-/

set_option autoImplicit false

namespace RelayTunnel.Transcode

open Compression (BodyCompressor Compressor ContentCoding)

/-! ## The decision -/

namespace RequestInspector

/-- An inspector that has decided takes no notice of more octets. -/
theorem inspect_of_isDecided {inspector : RequestInspector} (h : inspector.isDecided = true)
    (chunk : Bytes) : inspector.inspect chunk = inspector := by
  cases inspector with
  | watching seen => cases h
  | decided coding => rfl

/-- An inspector with a coding has decided. -/
theorem isDecided_of_coding? {inspector : RequestInspector} {coding : ContentCoding}
    (h : inspector.coding? = some coding) : inspector.isDecided = true := by
  cases inspector with
  | watching seen => cases h
  | decided coding => rfl

end RequestInspector

namespace DuplexCall

/-- Whether a call is one to the request side. -/
def isRequest : DuplexCall → Bool
  | .inspect _ => true
  | _ => false

/-- The same calls, first the requests in front of the first response call, then the response calls, and
no others. -/
def purge (calls : List DuplexCall) : List DuplexCall :=
  calls.takeWhile isRequest ++ calls.filter (!·.isRequest)

/-- A request in front of the first response call stays. -/
theorem purge_of_request {call : DuplexCall} (h : call.isRequest = true) (calls : List DuplexCall) :
    purge (call :: calls) = call :: purge calls := by
  rw [purge, List.takeWhile_cons_of_pos h, List.filter_cons_of_neg (by simp [h]), List.cons_append,
    purge]

/-- Behind the first response call, no request stays. -/
theorem purge_of_response {call : DuplexCall} (h : call.isRequest = false) (calls : List DuplexCall) :
    purge (call :: calls) = call :: calls.filter (!·.isRequest) := by
  rw [purge, List.takeWhile_cons_of_neg (by simp [h]), List.filter_cons_of_pos (by simp [h]),
    List.nil_append]

end DuplexCall

namespace Duplex

variable {C : Type} [BodyCompressor C]

/-- What goes to the relay for each response call, in order. -/
def answers (d : Duplex C) : List DuplexCall → List Bytes
  | [] => []
  | call :: calls =>
      let more := (d.call call).2.answers calls
      if call.isRequest then more else (d.call call).1 :: more

/-- A request is not answered. -/
theorem answers_of_request {call : DuplexCall} (h : call.isRequest = true) (d : Duplex C)
    (calls : List DuplexCall) : d.answers (call :: calls) = (d.call call).2.answers calls := by
  rw [answers, if_pos h]

/-- A response call is answered, and then the others. -/
theorem answers_of_response {call : DuplexCall} (h : call.isRequest = false) (d : Duplex C)
    (calls : List DuplexCall) :
    d.answers (call :: calls) = (d.call call).1 :: (d.call call).2.answers calls := by
  rw [answers, if_neg (by simp [h])]

/-- Calls are answered one after the other. -/
theorem answers_append (d : Duplex C) (front behind : List DuplexCall) :
    d.answers (front ++ behind) = d.answers front ++ (d.run front).2.answers behind := by
  induction front generalizing d with
  | nil => rfl
  | cons call front ih =>
    rw [List.cons_append, run_cons]
    cases hcall : call.isRequest with
    | true => rw [answers_of_request hcall, answers_of_request hcall, ih]
    | false => rw [answers_of_response hcall, answers_of_response hcall, ih, List.cons_append]

/-- What has been decided is settled for good. -/
theorem requests_run_of_isDecided {d : Duplex C} (h : d.requests.isDecided = true)
    (calls : List DuplexCall) : (d.run calls).2.requests = d.requests := by
  induction calls generalizing d with
  | nil => rfl
  | cons call calls ih =>
    have hcall : (d.call call).2.requests = d.requests := by
      cases call with
      | inspect chunk => exact RequestInspector.inspect_of_isDecided h chunk
      | transform chunk => rfl
      | finish => rfl
    have hmore := ih (hcall ▸ h)
    exact hmore.trans hcall

/-! ## Duplexes that answer alike -/

/-- The response sides are in the same state, and it lets everything through or the decision has been
made, by both in the same way. -/
structure Alike (first second : Duplex C) : Prop where
  responses : first.responses = second.responses
  decision : first.responses = .passthrough ∨
    first.requests.isDecided = true ∧ first.requests = second.requests

variable {first second : Duplex C}

/-- A response call is answered alike. -/
theorem Alike.call_eq (h : Alike first second) {call : DuplexCall} (hcall : call.isRequest = false) :
    (first.call call).1 = (second.call call).1 ∧
      (first.call call).2.responses = (second.call call).2.responses := by
  obtain ⟨requests, responses⟩ := first
  obtain ⟨requests', responses'⟩ := second
  obtain ⟨rfl, hdecision⟩ := h
  cases call with
  | inspect chunk => cases hcall
  | finish => exact ⟨rfl, rfl⟩
  | transform chunk =>
    rcases hdecision with hpassed | ⟨_, hrequests⟩
    · -- what passes through does so whatever the coding
      obtain rfl : responses = .passthrough := hpassed
      exact ⟨rfl, rfl⟩
    · obtain rfl : requests = requests' := hrequests
      exact ⟨rfl, rfl⟩

/-- A response call keeps two duplexes alike. -/
theorem Alike.call (h : Alike first second) {call : DuplexCall} (hcall : call.isRequest = false) :
    Alike (first.call call).2 (second.call call).2 := by
  refine ⟨(h.call_eq hcall).2, ?_⟩
  rcases h.decision with hpassed | ⟨hdecided, hrequests⟩
  · exact .inl (by simpa using run_of_passthrough hpassed [call])
  · have hfirst := requests_run_of_isDecided hdecided [call]
    have hsecond := requests_run_of_isDecided (hrequests ▸ hdecided) [call]
    rw [run_singleton] at hfirst hsecond
    exact .inr ⟨by rw [hfirst]; exact hdecided, by rw [hfirst, hsecond]; exact hrequests⟩

/-- A request that only one of two duplexes sees keeps them alike. -/
theorem Alike.request (h : Alike first second) {call : DuplexCall} (hcall : call.isRequest = true) :
    Alike (first.call call).2 second := by
  cases call with
  | transform chunk => cases hcall
  | finish => cases hcall
  | inspect chunk =>
    refine ⟨h.responses, ?_⟩
    rcases h.decision with hpassed | ⟨hdecided, hrequests⟩
    · exact .inl hpassed
    · have hsame : first.requests.inspect chunk = first.requests :=
        RequestInspector.inspect_of_isDecided hdecided chunk
      have hstill : (first.requests.inspect chunk).isDecided = true := by rwa [hsame]
      exact .inr ⟨hstill, hsame.trans hrequests⟩

/-- Where two duplexes are alike, one of them may miss every request. -/
theorem Alike.run (h : Alike first second) (calls : List DuplexCall) :
    first.answers calls = second.answers (calls.filter (!·.isRequest)) ∧
      Alike (first.run calls).2 (second.run (calls.filter (!·.isRequest))).2 := by
  induction calls generalizing first second with
  | nil => exact ⟨rfl, h⟩
  | cons call calls ih =>
    cases hcall : call.isRequest with
    | true =>
      rw [List.filter_cons_of_neg (by simp [hcall]), answers_of_request hcall]
      exact ih (h.request hcall)
    | false =>
      obtain ⟨hanswers, halike⟩ := ih (h.call hcall)
      rw [List.filter_cons_of_pos (by simp [hcall]), answers_of_response hcall,
        answers_of_response hcall, hanswers, (h.call_eq hcall).1]
      exact ⟨rfl, halike⟩

/-! ## The first response call -/

/-- The first response call looks at the decision, and that is the last time it matters. -/
theorem alike_call_self {d : Duplex C} {held : Bytes} (h : d.responses = .inspecting held)
    {call : DuplexCall} (hcall : call.isRequest = false) : Alike (d.call call).2 (d.call call).2 := by
  refine ⟨rfl, ?_⟩
  cases call with
  | inspect chunk => cases hcall
  | finish => exact .inl (ResponseTranscoder.finish_snd d.responses)
  | transform chunk =>
    cases hcoding : d.requests.coding? with
    | some coding => exact .inr ⟨RequestInspector.isDecided_of_coding? hcoding, rfl⟩
    | none =>
      refine .inl ?_
      show (d.responses.transform d.requests.coding? chunk).2 = .passthrough
      rw [h, hcoding]
      rfl

/-- A run answers as the purged run does, and its response side ends up in the same state. -/
theorem answers_purge {d : Duplex C} {held : Bytes} (h : d.responses = .inspecting held)
    (calls : List DuplexCall) :
    d.answers calls = d.answers (DuplexCall.purge calls) ∧
      (d.run calls).2.responses = (d.run (DuplexCall.purge calls)).2.responses := by
  induction calls generalizing d with
  | nil => exact ⟨rfl, rfl⟩
  | cons call calls ih =>
    cases hcall : call.isRequest with
    | true =>
      have hresponses : (d.call call).2.responses = .inspecting held := by
        cases call with
        | inspect chunk => exact h
        | transform chunk => cases hcall
        | finish => cases hcall
      rw [DuplexCall.purge_of_request hcall, answers_of_request hcall, answers_of_request hcall]
      exact ih hresponses
    | false =>
      obtain ⟨hanswers, halike⟩ := (alike_call_self h hcall).run calls
      rw [DuplexCall.purge_of_response hcall, answers_of_response hcall, answers_of_response hcall,
        hanswers]
      exact ⟨rfl, halike.responses⟩

/-- Only the requests in front of the first response call matter. However the calls to the two sides are
interleaved, each response call gives the relay what it gives in the run that makes those requests first,
then all response calls, and no others, and the response side ends up in the same state. Once the decision
has been made, no call changes it. -/
theorem late_requests_change_nothing (C : Type) [BodyCompressor C] :
    (∀ calls : List DuplexCall,
      (start C).answers calls = (start C).answers (DuplexCall.purge calls) ∧
      ((start C).run calls).2.responses =
        ((start C).run (DuplexCall.purge calls)).2.responses) ∧
    ∀ before after : List DuplexCall, ((start C).run before).2.requests.isDecided = true →
      ((start C).run (before ++ after)).2.requests.isDecided = true ∧
      ((start C).run (before ++ after)).2.requests.coding? =
        ((start C).run before).2.requests.coding? := by
  refine ⟨answers_purge rfl, ?_⟩
  intro before after hdecided
  have hrequests : ((start C).run (before ++ after)).2.requests =
      ((start C).run before).2.requests := by
    rw [run_append]
    exact requests_run_of_isDecided hdecided after
  rw [hrequests]
  exact ⟨hdecided, rfl⟩

/-- A request that accepts a coding. -/
def requestFor (token : String) : DuplexCall :=
  .inspect (Ascii.bytes ("GET / HTTP/1.1\r\nAccept-Encoding: " ++ token ++ "\r\n\r\n"))

/-- A request that comes too late for the response, and a second request behind one that has decided. -/
theorem second_request_changes_nothing :
    (start Compressor).answers
        [.transform (Ascii.bytes "HTTP/1.1 200"), requestFor "gzip", .transform (Ascii.bytes " OK")] =
      [Ascii.bytes "HTTP/1.1 200", Ascii.bytes " OK"] ∧
    ((start Compressor).run [requestFor "gzip"]).2.requests.isDecided = true ∧
    ((start Compressor).run ([requestFor "gzip"] ++ [requestFor "deflate"])).2.requests.coding? =
      some .gzip := by
  obtain ⟨hpurge, hdecision⟩ := late_requests_change_nothing Compressor
  have hdecided : ((start Compressor).run [requestFor "gzip"]).2.requests.isDecided = true := by
    decide +kernel
  obtain ⟨_, hcoding⟩ := hdecision [requestFor "gzip"] [requestFor "deflate"] hdecided
  refine ⟨?_, hdecided, ?_⟩
  · rw [(hpurge _).1]
    rfl
  · rw [hcoding]
    decide +kernel

end Duplex

end RelayTunnel.Transcode
