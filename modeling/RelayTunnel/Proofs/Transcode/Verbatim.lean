import RelayTunnel.Proofs.Transcode.Calls

/-!
# Responses that pass through

Up to the call that puts out a recoded head, if there ever is one, a duplex has put out and holds back
exactly the octets it was given, in order (`Verbatim`). One call keeps this or puts out a recoded head
(`verbatim_call`), and so does a run (`run_relays_or_recodes`).
-/

set_option autoImplicit false

namespace RelayTunnel.Transcode

open Compression (BodyCompressor ContentCoding)
open Http (BodyReader)

namespace Duplex

variable {C : Type}

/-- No body is being compressed, and the octets put out and those held back are those received. -/
structure Verbatim (d : Duplex C) (out octets : Bytes) : Prop where
  plain : d.responses.isEncoding = false
  silent : d.responses ≠ .passthrough → out = []
  balance : out ++ d.responses.held = octets

/-- A duplex that has just been made has received nothing and put nothing out. -/
theorem verbatim_start : Verbatim (start C) [] [] := ⟨rfl, fun _ => rfl, rfl⟩

/-- Nothing is held back: no octets have arrived yet, or they are let through. -/
def Unheld (d : Duplex C) : Prop :=
  d.responses = .inspecting [] ∨ d.responses = .passthrough

/-- Nothing that is held back is no octets. -/
theorem Unheld.held_eq_nil {d : Duplex C} (h : d.Unheld) : d.responses.held = [] := by
  rcases h with h | h
  · rw [h]; rfl
  · rw [h]; rfl

variable [BodyCompressor C]

/-- These octets from the destination complete the head of a response that is compressed, and what goes
out for them starts with the recoded head. -/
def Recodes (d : Duplex C) (chunk : Bytes) : Prop :=
  ∃ coding taken head, d.requests.coding? = some coding ∧
    Http.takeResponse (d.responses.held ++ chunk) = .ok (some taken) ∧
    isCompressible taken.head = true ∧
    (recodedHead coding taken.head).render? = some head ∧ head <+: (d.transform chunk).1

/-- Whether some call of a run puts out a recoded head, with nothing put out before it. -/
def RunRecodes (C : Type) [BodyCompressor C] (calls : List DuplexCall) : Prop :=
  ∃ before chunk after, calls = before ++ .transform chunk :: after ∧
    ((start C).run before).1 = [] ∧ ((start C).run before).2.Recodes chunk

/-- What octets that arrive while a head is held back can lead to. -/
theorem transform_inspecting (coding : ContentCoding) (held chunk : Bytes) :
    (∃ taken head, Http.takeResponse (held ++ chunk) = .ok (some taken) ∧
        isCompressible taken.head = true ∧ (recodedHead coding taken.head).render? = some head ∧
        head <+: ((ResponseTranscoder.inspecting held : ResponseTranscoder C).transform
          (some coding) chunk).1) ∨
      (ResponseTranscoder.inspecting held : ResponseTranscoder C).transform (some coding) chunk =
        ([], .inspecting (held ++ chunk)) ∨
      (ResponseTranscoder.inspecting held : ResponseTranscoder C).transform (some coding) chunk =
        (held ++ chunk, .passthrough) := by
  refine ResponseTranscoder.transform_inspecting_cases
    (P := fun result =>
      (∃ taken head, Http.takeResponse (held ++ chunk) = .ok (some taken) ∧
        isCompressible taken.head = true ∧ (recodedHead coding taken.head).render? = some head ∧
        head <+: result.1) ∨
      result = ([], .inspecting (held ++ chunk)) ∨ result = (held ++ chunk, .passthrough)) ?_ ?_ ?_
  · intro _
    exact Or.inr (Or.inl rfl)
  · exact Or.inr (Or.inr rfl)
  · intro taken reader head htake hcompressible _ hrender
    exact Or.inl ⟨taken, head, htake, hcompressible, hrender, List.prefix_append _ _⟩

/-- Octets from the destination complete the head of a response that is compressed, or they are held
back, or they go out together with what was held back. -/
theorem verbatim_transform {d : Duplex C} {out octets : Bytes} (h : d.Verbatim out octets)
    (chunk : Bytes) :
    (out = [] ∧ d.Recodes chunk) ∨
      (d.transform chunk).2.Verbatim (out ++ (d.transform chunk).1) (octets ++ chunk) := by
  obtain ⟨requests, responses⟩ := d
  obtain ⟨hplain, hsilent, rfl⟩ := h
  cases responses with
  | encoding e => cases hplain
  | passthrough =>
    refine Or.inr ⟨rfl, fun hne => absurd rfl hne, ?_⟩
    show (out ++ chunk) ++ [] = (out ++ []) ++ chunk
    rw [List.append_nil, List.append_nil]
  | inspecting held =>
    obtain rfl : out = [] := hsilent (by simp)
    cases hcoding : requests.coding? with
    | none =>
      refine Or.inr ?_
      rw [transform]
      dsimp only
      rw [hcoding]
      exact ⟨rfl, fun hne => absurd rfl hne, List.append_nil _⟩
    | some coding =>
      rcases transform_inspecting (C := C) coding held chunk with hrecodes | hheld | hpassed
      · obtain ⟨taken, head, htake, hcompressible, hrender, hprefix⟩ := hrecodes
        refine Or.inl ⟨rfl, coding, taken, head, hcoding, htake, hcompressible, hrender, ?_⟩
        rw [transform]
        dsimp only
        rwa [hcoding]
      · refine Or.inr ?_
        rw [transform]
        dsimp only
        rw [hcoding, hheld]
        exact ⟨rfl, fun _ => rfl, rfl⟩
      · refine Or.inr ?_
        rw [transform]
        dsimp only
        rw [hcoding, hpassed]
        exact ⟨rfl, fun hne => absurd rfl hne, List.append_nil _⟩

/-- A call puts out a recoded head for the first time, or octets still pass through. -/
theorem verbatim_call {d : Duplex C} {out octets : Bytes} (h : d.Verbatim out octets)
    (only : DuplexCall) :
    (∃ chunk, only = .transform chunk ∧ out = [] ∧ d.Recodes chunk) ∨
      (d.call only).2.Verbatim (out ++ (d.call only).1) (octets ++ only.received) := by
  cases only with
  | inspect chunk =>
    refine Or.inr ⟨h.plain, fun hne => ?_, ?_⟩
    · rw [h.silent hne]
      rfl
    · show (out ++ []) ++ d.responses.held = octets ++ []
      rw [List.append_nil, List.append_nil, h.balance]
  | transform chunk =>
    rcases verbatim_transform h chunk with ⟨hout, hrecodes⟩ | hverbatim
    · exact Or.inl ⟨chunk, rfl, hout, hrecodes⟩
    · exact Or.inr hverbatim
  | finish =>
    obtain ⟨requests, responses⟩ := d
    obtain ⟨hplain, hsilent, rfl⟩ := h
    refine Or.inr ?_
    show Verbatim ⟨requests, responses.finish.2⟩ (out ++ responses.finish.1) _
    rw [ResponseTranscoder.finish_snd]
    refine ⟨rfl, fun hne => absurd rfl hne, ?_⟩
    cases responses with
    | encoding e => cases hplain
    | passthrough => rfl
    | inspecting held => exact (List.append_nil _).trans (List.append_nil _).symm

/-- Over any calls, either one of them puts out a recoded head for the first time, or octets pass
through all the time. -/
theorem verbatim_run {d : Duplex C} {out octets : Bytes} (h : d.Verbatim out octets)
    (calls : List DuplexCall) :
    (∃ before chunk after, calls = before ++ .transform chunk :: after ∧
      out ++ (d.run before).1 = [] ∧ (d.run before).2.Recodes chunk) ∨
    ∀ front, front <+: calls →
      (d.run front).2.Verbatim (out ++ (d.run front).1) (octets ++ received front) := by
  induction calls generalizing d out octets with
  | nil =>
    refine Or.inr fun front hfront => ?_
    obtain rfl := List.prefix_nil.mp hfront
    simpa using h
  | cons first calls ih =>
    rcases verbatim_call h first with ⟨chunk, rfl, hout, hrecodes⟩ | hfirst
    · exact Or.inl ⟨[], chunk, calls, rfl, by rw [hout]; rfl, hrecodes⟩
    · rcases ih hfirst with ⟨before, chunk, after, rfl, hout, hrecodes⟩ | hrest
      · refine Or.inl ⟨first :: before, chunk, after, rfl, ?_, hrecodes⟩
        rw [run_cons, ← List.append_assoc]
        exact hout
      · refine Or.inr fun front hfront => ?_
        cases front with
        | nil => simpa using h
        | cons only front =>
          obtain ⟨rfl, hbehind⟩ := List.cons_prefix_cons.mp hfront
          have hverbatim := hrest front hbehind
          rw [run_cons, received_cons, ← List.append_assoc, ← List.append_assoc]
          exact hverbatim

/-! ## Responses without a coding -/

/-- A call without octets from the destination holds nothing back. -/
theorem Unheld.call {d : Duplex C} (h : d.Unheld) {only : DuplexCall}
    (hother : ∀ chunk, only ≠ .transform chunk) : (d.call only).2.Unheld := by
  cases only with
  | inspect chunk => exact h
  | transform chunk => exact absurd rfl (hother chunk)
  | finish => exact Or.inr (ResponseTranscoder.finish_snd d.responses)

/-- Nor do any number of them. -/
theorem Unheld.run {d : Duplex C} (h : d.Unheld) {calls : List DuplexCall}
    (hother : ∀ chunk, .transform chunk ∉ calls) : (d.run calls).2.Unheld := by
  induction calls generalizing d with
  | nil => exact h
  | cons first calls ih =>
    have hfirst : (d.call first).2.Unheld := by
      refine h.call fun chunk hchunk => hother chunk ?_
      rw [hchunk]
      exact List.mem_cons_self
    exact ih hfirst fun chunk hmem => hother chunk (List.mem_cons_of_mem _ hmem)

/-- A transcoder that lets octets through does so for good. -/
theorem run_of_passthrough {d : Duplex C} (h : d.responses = .passthrough)
    (calls : List DuplexCall) : (d.run calls).2.responses = .passthrough := by
  induction calls generalizing d with
  | nil => exact h
  | cons first calls ih =>
    refine ih ?_
    cases first with
    | inspect chunk => exact h
    | transform chunk =>
      show (d.responses.transform d.requests.coding? chunk).2 = .passthrough
      rw [h]
      rfl
    | finish => exact ResponseTranscoder.finish_snd d.responses

/-- Without a coding, octets from the destination are let through from then on. -/
theorem transform_of_no_coding {d : Duplex C} (h : d.Unheld) (hcoding : d.requests.coding? = none)
    (chunk : Bytes) : (d.transform chunk).2.responses = .passthrough := by
  show (d.responses.transform d.requests.coding? chunk).2 = .passthrough
  rw [hcoding]
  rcases h with h | h
  · rw [h]; rfl
  · rw [h]; rfl

/-- If there is no coding when octets from the destination first arrive, nothing is ever held back. -/
theorem held_of_no_coding {d : Duplex C} (h : d.Unheld) {before after : List DuplexCall}
    {chunk : Bytes} (hother : ∀ other, .transform other ∉ before)
    (hcoding : (d.run before).2.requests.coding? = none) {front : List DuplexCall}
    (hfront : front <+: before ++ .transform chunk :: after) :
    (d.run front).2.responses.held = [] := by
  have hbefore : (d.run before).2.Unheld := h.run hother
  obtain ⟨behind, hsplit⟩ := hfront
  rcases List.append_eq_append_iff.mp hsplit with ⟨rest, rfl, _⟩ | ⟨rest, rfl, hrest⟩
  · -- the front ends before the octets arrive
    refine (h.run fun other hmem => hother other ?_).held_eq_nil
    exact List.mem_append_left _ hmem
  · cases rest with
    | nil => rw [List.append_nil]; exact hbefore.held_eq_nil
    | cons first rest =>
      obtain ⟨rfl, _⟩ := List.cons.inj hrest
      have hpassed := run_of_passthrough (transform_of_no_coding hbefore hcoding chunk) rest
      rw [run_append, run_cons]
      exact congrArg ResponseTranscoder.held hpassed

/-! ## Every run -/

/-- Responses pass through octet by octet unless a recoded head goes out. Over every run, some call
puts out a recoded head, or at every point what has been put out and what is held back make up what
was received. What is held back after octets have arrived is within the size of a head, nothing is
held back once the destination has closed, and nothing ever is if there was no coding when the first
octets arrived. No call fails. -/
theorem run_relays_or_recodes (C : Type) [BodyCompressor C] :
    (∀ calls, RunRecodes C calls ∨ ∀ front, front <+: calls →
      ((start C).run front).1 ++ ((start C).run front).2.responses.held = received front) ∧
    (∀ calls chunk,
      ((start C).run (calls ++ [.transform chunk])).2.responses.held.length ≤ 8192) ∧
    (∀ calls, ((start C).run (calls ++ [.finish])).2.responses.held = []) ∧
    (∀ before chunk after, (∀ other, .transform other ∉ before) →
      ((start C).run before).2.requests.coding? = none →
      ∀ front, front <+: before ++ .transform chunk :: after →
        ((start C).run front).2.responses.held = []) ∧
    (∀ calls chunk, ∃ result, ((start C).run calls).2.responses.transform?
      ((start C).run calls).2.requests.coding? chunk = .ok result) := by
  refine ⟨?_, ?_, ?_, ?_, ?_⟩
  · intro calls
    rcases verbatim_run (verbatim_start (C := C)) calls with hrecodes | hverbatim
    · exact Or.inl hrecodes
    · exact Or.inr fun front hfront => (hverbatim front hfront).balance
  · intro calls chunk
    exact ResponseTranscoder.length_held_le
      (settled_run (ResponseTranscoder.settled_start (C := C)) (calls ++ [.transform chunk]))
  · intro calls
    rw [run_append, run_singleton]
    show (ResponseTranscoder.finish _).2.held = []
    rw [ResponseTranscoder.finish_snd]
    rfl
  · intro before chunk after hother hcoding front hfront
    exact held_of_no_coding (Or.inl rfl) hother hcoding hfront
  · intro calls chunk
    exact ⟨_, ResponseTranscoder.transform?_eq_ok _ _ chunk⟩

end Duplex

end RelayTunnel.Transcode
