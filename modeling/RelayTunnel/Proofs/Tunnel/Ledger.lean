import RelayTunnel.Proofs.Transcode.LateRequests
import RelayTunnel.Proofs.Tunnel.Passage

/-!
# The books of forwarding

Forwarding counts in one number what it reads and what it writes. A `Ledger` holds these octets apart: what
has been read from each side, and the pieces that have been written to each side as a whole, those to the
relay only when they have been flushed. What a ledger has to say follows from what the far ends have sent and
been given and from whether the relay's connection is flushed (`Ledger.Describes`, `Describes.unique`).
`Balances` says in addition what each direction is at, and that the number is the sum of the ledger, as far as
64 bits can tell; each step keeps the books balanced and takes nothing out of them (`HasLedger.inboundStep`,
`HasLedger.outboundStep`), hence a run does (`Relaying.isBooked`).
-/

set_option autoImplicit false

namespace RelayTunnel

open Compression (BodyCompressor)
open Transcode (Duplex DuplexCall)

/-! ## Pieces that are written one behind another -/

/-- Of the pieces, which are written in order behind `front`, those in `finished` have been written as a
whole and flushed, and the next one, if there is one, has not been written to its end or not been flushed.
Where it does not matter whether a piece has been flushed, `isFlushed` is true. -/
def WritesInOrder (front : Bytes) (pieces finished : List Bytes) (written : Bytes) (isFlushed : Bool) :
    Prop :=
  (pieces = finished ∧ written = front ++ finished.flatten ∧ (finished ≠ [] → isFlushed = true)) ∨
    ∃ part left, (left ≠ [] ∨ isFlushed = false) ∧ pieces = finished ++ [part ++ left] ∧
      written = front ++ finished.flatten ++ part

/-- Which pieces are finished follows from the octets and from whether they have been flushed. -/
theorem WritesInOrder.unique {front written : Bytes} {pieces finished other : List Bytes} {isFlushed : Bool}
    (h : WritesInOrder front pieces finished written isFlushed)
    (hother : WritesInOrder front pieces other written isFlushed) : finished = other := by
  -- a piece that is not finished cannot be one of those that all are
  have hcut : ∀ {whole cut : List Bytes} {part left : Bytes}, left ≠ [] ∨ isFlushed = false →
      whole = cut ++ [part ++ left] → (whole ≠ [] → isFlushed = true) →
      front ++ whole.flatten ≠ front ++ cut.flatten ++ part := by
    rintro _ cut part left hleft rfl hflushed hsame
    have hrest : left ≠ [] := hleft.resolve_right (by simp [hflushed])
    rw [List.append_assoc, List.append_cancel_left_eq] at hsame
    simp [hrest] at hsame
  rcases h with ⟨hall, hwritten, hflushed⟩ | ⟨part, left, hleft, hpieces, hwritten⟩ <;>
    rcases hother with ⟨hall', hwritten', hflushed'⟩ | ⟨part', left', hleft', hpieces', hwritten'⟩
  · exact hall.symm.trans hall'
  · exact absurd (hwritten.symm.trans hwritten') (hcut hleft' (hall.symm.trans hpieces') hflushed)
  · exact absurd (hwritten'.symm.trans hwritten) (hcut hleft (hall'.symm.trans hpieces) hflushed')
  · exact (List.append_inj' (hpieces.symm.trans hpieces') rfl).1

/-- The same with what a direction is at: the piece that is being written, and what is left of it. -/
def Flow.Writes (front : Bytes) (pieces finished : List Bytes) (written : Bytes) (isFlushed : Bool) :
    Flow → Prop
  | .reading =>
      pieces = finished ∧ written = front ++ finished.flatten ∧ (finished ≠ [] → isFlushed = true)
  | .writing left size =>
      (left ≠ [] ∨ isFlushed = false) ∧
        ∃ part, size = (part ++ left).length ∧ pieces = finished ++ [part ++ left] ∧
          written = front ++ finished.flatten ++ part

namespace Flow.Writes

variable {front written given piece left rest : Bytes} {pieces finished : List Bytes} {flow : Flow}
variable {size : Nat} {link link' : Link} {isFlushed : Bool}

/-- What a direction is at says which pieces are finished. -/
theorem inOrder (h : flow.Writes front pieces finished written isFlushed) :
    WritesInOrder front pieces finished written isFlushed := by
  cases flow with
  | reading => exact .inl h
  | writing left size =>
    obtain ⟨hleft, part, -, hpieces, hwritten⟩ := h
    exact .inr ⟨part, left, hleft, hpieces, hwritten⟩

/-- A new piece of which nothing has been written. -/
theorem begin (h : Flow.reading.Writes front pieces finished written isFlushed) (hpiece : piece ≠ []) :
    (Flow.writing piece piece.length).Writes front (pieces ++ [piece]) finished written isFlushed := by
  obtain ⟨rfl, hwritten, -⟩ := h
  exact ⟨.inl hpiece, [], rfl, rfl, hwritten.trans (List.append_nil _).symm⟩

/-- A write of a part, or of all that is left when it has not been flushed. -/
theorem goOn (h : (Flow.writing left size).Writes front pieces finished (given ++ link.outgoing) isFlushed)
    (hwrite : link.write left = (.left rest, link')) {isFlushed' : Bool}
    (hrest : rest ≠ [] ∨ isFlushed' = false) :
    (Flow.writing rest size).Writes front pieces finished (given ++ link'.outgoing) isFlushed' := by
  obtain ⟨taken, rfl, houtgoing⟩ := Link.exists_taken_of_write hwrite
  obtain ⟨-, part, hsize, hpieces, hwritten⟩ := h
  refine ⟨hrest, part ++ taken, ?_, ?_, ?_⟩
  · rw [List.append_assoc]
    exact hsize
  · rw [List.append_assoc]
    exact hpieces
  · rw [houtgoing, ← List.append_assoc, hwritten, List.append_assoc]

/-- A write of all that is left, which has been flushed if that matters. -/
theorem complete
    (h : (Flow.writing left size).Writes front pieces finished (given ++ link.outgoing) isFlushed)
    (hwrite : link.write left = (.left [], link')) :
    ∃ piece, piece.length = size ∧
      Flow.reading.Writes front pieces (finished ++ [piece]) (given ++ link'.outgoing) true := by
  obtain ⟨taken, htaken, houtgoing⟩ := Link.exists_taken_of_write hwrite
  obtain ⟨-, part, hsize, hpieces, hwritten⟩ := h
  refine ⟨part ++ left, hsize.symm, hpieces, ?_, fun _ => rfl⟩
  rw [houtgoing, ← List.append_assoc, hwritten, htaken]
  simp

end Flow.Writes

/-! ## The ledger -/

/-- What has been read from each side, and what has been written to it. -/
structure Ledger where
  /-- What has been read from the relay. -/
  received : Bytes
  /-- The pieces that have been written to the destination as a whole. -/
  delivered : List Bytes
  /-- What has been read from the destination. -/
  answered : Bytes
  /-- The pieces that have been written to the relay as a whole and flushed. -/
  returned : List Bytes

namespace Ledger

/-- Nothing has been read or written. -/
def blank : Ledger := ⟨[], [], [], []⟩

/-- All octets of the ledger, each as often as it has been read and written. -/
def total (ledger : Ledger) : Nat :=
  ledger.received.length + ledger.delivered.flatten.length + ledger.answered.length +
    ledger.returned.flatten.length

variable (ledger : Ledger) (octets : Bytes)

/-- Octets that are read from the relay add to the total. -/
theorem total_received :
    { ledger with received := ledger.received ++ octets }.total = ledger.total + octets.length := by
  simp only [total, List.length_append]
  omega

/-- A piece that is finished to the destination adds to the total. -/
theorem total_delivered :
    { ledger with delivered := ledger.delivered ++ [octets] }.total = ledger.total + octets.length := by
  simp only [total, List.flatten_append, List.flatten_singleton, List.length_append]
  omega

/-- Octets that are read from the destination add to the total. -/
theorem total_answered :
    { ledger with answered := ledger.answered ++ octets }.total = ledger.total + octets.length := by
  simp only [total, List.length_append]
  omega

/-- A piece that is finished to the relay adds to the total. -/
theorem total_returned :
    { ledger with returned := ledger.returned ++ [octets] }.total = ledger.total + octets.length := by
  simp only [total, List.flatten_append, List.flatten_singleton, List.length_append]
  omega

end Ledger

/-- What the octets of a ledger are counted from. -/
structure Baseline where
  /-- Which part of what the relay has sent is payload. -/
  IsPayload : Bytes → Bytes → Prop
  /-- Payload that had been read before. -/
  first : Bytes
  /-- What had been written to each connection before. -/
  front : Side → Bytes
  /-- What had been counted before. -/
  traffic : Nat
  append {stream payload : Bytes} (more : Bytes) :
    IsPayload stream payload → IsPayload (stream ++ more) (payload ++ more)
  unique {stream payload other : Bytes} : IsPayload stream payload → IsPayload stream other → payload = other

/-- All that has been written to a connection. -/
def Passage.written (p : Passage) (w : Wires) (side : Side) : Bytes := p.given side ++ (w.link side).outgoing

/-- What is carried away has been written. -/
theorem Passage.written_exchange {p : Passage} {w : Wires} {sent taken : Side → Bytes} {links : Side → Link}
    {side : Side} (h : (w.link side).outgoing = taken side ++ (links side).outgoing) :
    (p.exchange sent taken).written (w.relink links) side = p.written w side := by
  have hlink : (w.relink links).link side = links side := by cases side <;> rfl
  rw [written, written, hlink, h, ← List.append_assoc]
  rfl

/-- The pieces that go to the destination, each as it came from the relay. -/
def offered (calls : List DuplexCall) : List Bytes :=
  calls.filterMap fun
    | .inspect chunk => some chunk
    | _ => none

section Compressed

variable (C : Type) [BodyCompressor C]

/-- The pieces that go to the relay, each as the transcoder gave it. -/
def produced (calls : List DuplexCall) : List Bytes :=
  ((Duplex.start C).answers calls).filter (!·.isEmpty)

/-- The ledger says what the far ends have sent, as far as it has been read, and what they have been given, as
far as it was written as a whole and, to the relay, flushed. -/
structure Ledger.Describes (ledger : Ledger) (base : Baseline) (p : Passage) (w : Wires) : Prop where
  received : base.IsPayload (p.sent .relay) (base.first ++ ledger.received ++ w.relay.incoming)
  delivered : WritesInOrder (base.front .destination) (offered p.calls) ledger.delivered
    (p.written w .destination) true
  answered : p.sent .destination = ledger.answered ++ w.destination.incoming
  returned : WritesInOrder (base.front .relay) (produced C p.calls) ledger.returned (p.written w .relay)
    w.relay.isFlushed

/-- Traffic is what had been counted before and the octets of the ledger, which there is, as far as 64 bits
can tell. -/
def Counted (base : Baseline) (p : Passage) (w : Wires) : Prop :=
  (∃ ledger : Ledger, ledger.Describes C base p w) ∧
    ∀ ledger : Ledger, ledger.Describes C base p w →
      w.traffic = (base.traffic + ledger.total) % UInt64.size

/-- From one moment to another the ledger only grows, and traffic with it as long as 64 bits can tell. -/
structure Grows (base : Baseline) (p : Passage) (w : Wires) (p' : Passage) (w' : Wires) : Prop where
  total {ledger later : Ledger} :
    ledger.Describes C base p w → later.Describes C base p' w' → ledger.total ≤ later.total
  traffic {later : Ledger} :
    later.Describes C base p' w' → base.traffic + later.total < UInt64.size → w.traffic ≤ w'.traffic

/-! ## Balanced books -/

/-- The ledger is right, each direction is at the piece that is not finished, and what has been counted is the
sum of the ledger. -/
structure Ledger.Balances (ledger : Ledger) (base : Baseline) (p : Passage) (w : Wires)
    (inbound outbound : Flow) : Prop where
  received : base.IsPayload (p.sent .relay) (base.first ++ ledger.received ++ w.relay.incoming)
  delivered : inbound.Writes (base.front .destination) (offered p.calls) ledger.delivered
    (p.written w .destination) true
  answered : p.sent .destination = ledger.answered ++ w.destination.incoming
  returned : outbound.Writes (base.front .relay) (produced C p.calls) ledger.returned (p.written w .relay)
    w.relay.isFlushed
  counted : w.counter = .ofNat (base.traffic + ledger.total)

end Compressed

variable {C : Type} [BodyCompressor C]

/-- What a ledger has to say follows from what has passed. -/
theorem Ledger.Describes.unique {ledger other : Ledger} {base : Baseline} {p : Passage} {w : Wires}
    (h : ledger.Describes C base p w) (hother : other.Describes C base p w) : ledger = other := by
  have hreceived := base.unique h.received hother.received
  have hanswered := h.answered.symm.trans hother.answered
  rw [List.append_cancel_right_eq, List.append_cancel_left_eq] at hreceived
  rw [List.append_cancel_right_eq] at hanswered
  have hdelivered := h.delivered.unique hother.delivered
  have hreturned := h.returned.unique hother.returned
  cases ledger
  cases other
  simp_all

section Calls

variable (calls : List DuplexCall) (chunk : Bytes)

omit [BodyCompressor C] in
/-- What is inspected goes to the destination. -/
theorem offered_inspect : offered (calls ++ [.inspect chunk]) = offered calls ++ [chunk] := by
  simp [offered]

/-- Nothing goes to the relay when the inspector is called. -/
theorem produced_inspect : produced C (calls ++ [.inspect chunk]) = produced C calls := by
  rw [produced, Duplex.answers_append, Duplex.answers_of_request rfl]
  exact congrArg _ (List.append_nil _)

omit [BodyCompressor C] in
/-- Nothing goes to the destination when the transcoder is called. -/
theorem offered_response {call : DuplexCall} (h : call.isRequest = false) :
    offered (calls ++ [call]) = offered calls := by
  cases call with
  | inspect chunk => cases h
  | transform chunk | finish => simp [offered]

/-- What the transcoder gives goes to the relay, if that is anything. -/
theorem produced_response {call : DuplexCall} (h : call.isRequest = false) {d : Duplex C}
    (hduplex : d = ((Duplex.start C).run calls).2) :
    produced C (calls ++ [call]) = produced C calls ++ [(d.call call).1].filter (!·.isEmpty) := by
  rw [produced, Duplex.answers_append, Duplex.answers_of_response h, ← hduplex, List.filter_append]
  rfl

end Calls

/-- What is added to a counter of 64 bits is added to the number that it shows. -/
theorem Wires.counter_count {w : Wires} {n : Nat} (h : w.counter = .ofNat n) (octets : Nat) :
    (w.count octets).counter = .ofNat (n + octets) := by
  rw [count, h, UInt64.ofNat_add]

/-- Nothing is counted where there is nothing to count. -/
theorem Wires.count_zero (w : Wires) : w.count 0 = w := by
  show { w with counter := w.counter + 0 } = w
  rw [UInt64.add_zero]

namespace Ledger.Balances

variable {ledger : Ledger} {base : Baseline} {p p' : Passage} {w w' : Wires} {inbound outbound : Flow}
variable {octets : Bytes} {link : Link} {limit : Nat}

/-- Books that are balanced say what has passed. -/
theorem describes (h : ledger.Balances C base p w inbound outbound) : ledger.Describes C base p w :=
  ⟨h.received, h.delivered.inOrder, h.answered, h.returned.inOrder⟩

/-- What has been counted is the sum of the books, as far as 64 bits can tell. -/
theorem traffic_eq (h : ledger.Balances C base p w inbound outbound) :
    w.traffic = (base.traffic + ledger.total) % UInt64.size := by
  rw [Wires.traffic, h.counted]
  exact UInt64.toNat_ofNat'

/-- Where there are balanced books, traffic is what they say. -/
theorem counts (h : ledger.Balances C base p w inbound outbound) : Counted C base p w := by
  refine ⟨⟨ledger, h.describes⟩, fun other hother => ?_⟩
  rw [hother.unique h.describes]
  exact h.traffic_eq

/-- Books in which nothing has been taken off have grown. -/
theorem grows (h : ledger.Balances C base p w inbound outbound) {later : Ledger} {inbound' outbound' : Flow}
    (hlater : later.Balances C base p' w' inbound' outbound') (hle : ledger.total ≤ later.total) :
    Grows C base p w p' w' := by
  constructor
  · intro ledger₁ later₁ h₁ hlater₁
    rwa [h₁.unique h.describes, hlater₁.unique hlater.describes]
  · intro later₁ hlater₁ hfits
    rw [hlater₁.unique hlater.describes] at hfits
    rw [h.traffic_eq, hlater.traffic_eq, Nat.mod_eq_of_lt hfits, Nat.mod_eq_of_lt (by omega)]
    omega

/-- What has no part in the books. -/
theorem of_same (h : ledger.Balances C base p w inbound outbound) (hsent : p'.sent = p.sent)
    (hgiven : p'.given = p.given) (hcalls : p'.calls = p.calls)
    (hincoming : ∀ side, (w'.link side).incoming = (w.link side).incoming)
    (houtgoing : ∀ side, (w'.link side).outgoing = (w.link side).outgoing)
    (hflushed : w'.relay.isFlushed = w.relay.isFlushed) (hcounter : w'.counter = w.counter) :
    ledger.Balances C base p' w' inbound outbound := by
  have hwritten : ∀ side, p'.written w' side = p.written w side := by
    intro side
    rw [Passage.written, Passage.written, hgiven, houtgoing]
  constructor
  · have hrelay : w'.relay.incoming = w.relay.incoming := hincoming .relay
    rw [hsent, hrelay]
    exact h.received
  · rw [hcalls, hwritten]
    exact h.delivered
  · have hdestination : w'.destination.incoming = w.destination.incoming := hincoming .destination
    rw [hsent, hdestination]
    exact h.answered
  · rw [hcalls, hwritten, hflushed]
    exact h.returned
  · rw [hcounter]
    exact h.counted

/-- What has arrived stands behind what had arrived, and what is carried away has been written. -/
theorem farEnds (h : ledger.Balances C base p w inbound outbound) {sent taken : Side → Bytes}
    {links : Side → Link} (hincoming : ∀ side, (links side).incoming = (w.link side).incoming ++ sent side)
    (houtgoing : ∀ side, (w.link side).outgoing = taken side ++ (links side).outgoing)
    (hflushed : ∀ side, (links side).isFlushed = (w.link side).isFlushed) :
    ledger.Balances C base (p.exchange sent taken) (w.relink links) inbound outbound := by
  constructor
  · have hmore := base.append (sent .relay) h.received
    rw [List.append_assoc] at hmore
    show base.IsPayload _ (_ ++ (links .relay).incoming)
    rw [hincoming]
    exact hmore
  · rw [Passage.written_exchange (houtgoing _)]
    exact h.delivered
  · show p.sent .destination ++ sent .destination = _ ++ (links .destination).incoming
    rw [hincoming, h.answered, List.append_assoc]
    rfl
  · rw [Passage.written_exchange (houtgoing _)]
    show outbound.Writes _ _ _ _ (links .relay).isFlushed
    rw [hflushed]
    exact h.returned
  · exact h.counted

/-- Octets are read from the relay. -/
theorem receive (h : ledger.Balances C base p w inbound outbound)
    (hread : w.relay.read limit = (.data octets, link)) :
    { ledger with received := ledger.received ++ octets }.Balances C base p
      ({ w with relay := link }.count octets.length) inbound outbound := by
  have hincoming := Link.incoming_of_read hread
  have houtgoing := Link.outgoing_of_read hread
  have hwritten : p.written ({ w with relay := link }.count octets.length) .relay = p.written w .relay :=
    congrArg (p.given .relay ++ ·) houtgoing
  refine ⟨?_, h.delivered, h.answered, ?_, ?_⟩
  · have hreceived := h.received
    rw [← hincoming, ← List.append_assoc, List.append_assoc base.first] at hreceived
    exact hreceived
  · rw [hwritten]
    show outbound.Writes _ _ _ _ link.isFlushed
    rw [Link.isFlushed_of_read hread]
    exact h.returned
  · rw [Ledger.total_received, ← Nat.add_assoc]
    exact Wires.counter_count (w := { w with relay := link }) h.counted octets.length

/-- Octets are read from the destination. -/
theorem answer (h : ledger.Balances C base p w inbound outbound)
    (hread : w.destination.read limit = (.data octets, link)) :
    { ledger with answered := ledger.answered ++ octets }.Balances C base p
      ({ w with destination := link }.count octets.length) inbound outbound := by
  have hincoming := Link.incoming_of_read hread
  have houtgoing := Link.outgoing_of_read hread
  have hwritten : p.written ({ w with destination := link }.count octets.length) .destination =
      p.written w .destination :=
    congrArg (p.given .destination ++ ·) houtgoing
  refine ⟨h.received, ?_, ?_, h.returned, ?_⟩
  · rw [hwritten]
    exact h.delivered
  · rw [h.answered, ← hincoming, ← List.append_assoc]
    rfl
  · rw [Ledger.total_answered, ← Nat.add_assoc]
    exact Wires.counter_count (w := { w with destination := link }) h.counted octets.length

/-- Octets from the relay are passed on to the destination. -/
theorem offer (h : ledger.Balances C base p w .reading outbound) (hne : octets ≠ []) :
    ledger.Balances C base (p.work [.inspect octets] []) w (.writing octets octets.length) outbound := by
  refine ⟨h.received, ?_, h.answered, ?_, h.counted⟩
  · show Flow.Writes _ (offered (p.calls ++ [.inspect octets])) _ _ _ _
    rw [offered_inspect]
    exact h.delivered.begin hne
  · show Flow.Writes _ (produced C (p.calls ++ [.inspect octets])) _ _ _ _
    rw [produced_inspect]
    exact h.returned

/-- What the transcoder gives for a call goes to the relay, if that is anything. -/
theorem produce (h : ledger.Balances C base p w inbound .reading) (call : DuplexCall)
    (hcall : call.isRequest = false) {d : Duplex C} (hduplex : d = ((Duplex.start C).run p.calls).2) :
    ledger.Balances C base (p.work [call] []) w inbound
      (if (d.call call).1.isEmpty then .reading else .writing (d.call call).1 (d.call call).1.length) := by
  have hproduced := produced_response p.calls hcall hduplex
  refine ⟨h.received, ?_, h.answered, ?_, h.counted⟩
  · show Flow.Writes _ (offered (p.calls ++ [call])) _ _ _ _
    rw [offered_response _ hcall]
    exact h.delivered
  · show Flow.Writes _ (produced C (p.calls ++ [call])) _ _ _ _
    split
    · next hempty =>
      rw [List.filter_cons_of_neg (by simp [hempty]), List.filter_nil, List.append_nil] at hproduced
      rw [hproduced]
      exact h.returned
    · next hsome =>
      rw [List.filter_cons_of_pos (by simpa using hsome), List.filter_nil] at hproduced
      rw [hproduced]
      exact h.returned.begin fun hnone => hsome (by rw [hnone]; rfl)

end Ledger.Balances

/-! ## Steps -/

namespace Forwarding

variable {base : Baseline} {least : Nat} {p p' : Passage} {f g : Forwarding C} {ledger : Ledger}

/-- An inbound step leaves the duplex where its calls bring it. -/
theorem duplex_inboundStep (now : Instant) (f : Forwarding C) :
    (f.inboundStep now).state.duplex = (f.duplex.run f.inboundCalls).2 := by
  refine inboundStep_cases (P := fun calls hop => hop.state.duplex = (f.duplex.run calls).2) now f
    ?_ ?_ ?_ ?_ ?_ ?_ ?_ ?_
  all_goals intros; rfl

omit [BodyCompressor C] in
/-- To send something leaves the duplex as the call has left it. -/
theorem duplex_emit (f : Forwarding C) (out : Bytes) (duplex : Duplex C) (last : Bool) :
    (f.emit out duplex last).state.duplex = duplex := by
  rw [emit]
  split
  · rfl
  · split <;> rfl

/-- An outbound step leaves the duplex where its calls bring it. -/
theorem duplex_outboundStep (now : Instant) (f : Forwarding C) :
    (f.outboundStep now).state.duplex = (f.duplex.run f.outboundCalls).2 := by
  refine outboundStep_cases (P := fun calls hop => hop.state.duplex = (f.duplex.run calls).2) now f
    ?_ ?_ ?_ ?_ ?_ ?_ ?_ ?_ ?_ ?_
  case refine_7 =>
    intro octets link _ _
    rw [duplex_emit, Duplex.run_singleton]
    rfl
  case refine_8 =>
    intro link _ _
    rw [duplex_emit, Duplex.run_singleton]
    rfl
  all_goals intros; rfl

/-- The books with each direction where it is, in which there are at least so many octets. -/
def HasLedger (base : Baseline) (least : Nat) (p : Passage) (f : Forwarding C) : Prop :=
  ∃ ledger : Ledger, ledger.Balances C base p f.toWires f.inbound f.outbound ∧ least ≤ ledger.total

namespace HasLedger

/-- An inbound step keeps the books, and takes nothing out of them. -/
theorem inboundStep (h : HasLedger base least p f) (now : Instant) :
    HasLedger base least (p.work f.inboundCalls []) (f.inboundStep now).state := by
  obtain ⟨ledger, hledger, hleast⟩ := h
  have hkept : HasLedger base least (p.work [] []) f := by
    rw [Passage.work_nil]
    exact ⟨ledger, hledger, hleast⟩
  have hdelivered := hledger.delivered
  refine inboundStep_cases (P := fun calls hop => HasLedger base least (p.work calls []) hop.state) now f
    ?_ ?_ ?_ ?_ ?_ ?_ ?_ ?_
  · intro left size link hflow hwrite
    rw [hflow] at hdelivered
    obtain ⟨piece, rfl, hpiece⟩ := hdelivered.complete hwrite
    have hanswered := hledger.answered
    rw [← Link.incoming_of_write hwrite] at hanswered
    rw [Passage.work_nil]
    refine ⟨{ ledger with delivered := ledger.delivered ++ [piece] },
      ⟨hledger.received, hpiece, hanswered, hledger.returned, ?_⟩, ?_⟩
    · rw [Ledger.total_delivered, ← Nat.add_assoc]
      exact Wires.counter_count hledger.counted piece.length
    · rw [Ledger.total_delivered]
      omega
  · intro left size rest link hflow hrest hwrite
    rw [hflow] at hdelivered
    have hanswered := hledger.answered
    rw [← Link.incoming_of_write hwrite] at hanswered
    rw [Passage.work_nil]
    exact ⟨ledger, ⟨hledger.received, hdelivered.goOn hwrite (.inl hrest), hanswered, hledger.returned,
      hledger.counted⟩, hleast⟩
  · intro left size reason link _ hwrite
    rw [Link.eq_of_write_failed hwrite]
    exact hkept
  · intro hflow hfirst
    rw [hflow] at hledger
    exact ⟨ledger, hledger.offer hfirst, hleast⟩
  · intro octets link hflow _ hread
    rw [hflow] at hledger
    have hoffered := (hledger.receive hread).offer (Link.ne_nil_of_read (by decide) hread)
    refine ⟨_, hoffered.of_same rfl rfl rfl (fun _ => rfl) (fun _ => rfl) rfl rfl, ?_⟩
    rw [Ledger.total_received]
    omega
  · exact fun _ _ _ _ => hkept
  · exact fun _ _ => hkept
  · exact fun _ _ _ => hkept

omit [BodyCompressor C] in
/-- Something that is sent is being written from then on, unless it is nothing. -/
theorem outbound_emit (f : Forwarding C) (out : Bytes) (duplex : Duplex C) (last : Bool)
    (hreading : f.outbound = .reading) :
    (f.emit out duplex last).state.outbound =
      if out.isEmpty then .reading else .writing out out.length := by
  cases out <;> cases last <;> first | rfl | exact hreading

omit [BodyCompressor C] in
/-- To send something does not concern the other direction. -/
theorem inbound_emit (f : Forwarding C) (out : Bytes) (duplex : Duplex C) (last : Bool) :
    (f.emit out duplex last).state.inbound = f.inbound := by
  cases out <;> cases last <;> rfl

/-- What the transcoder gave is being written now, if it is anything. -/
theorem emit {out : Bytes}
    (h : ∃ ledger : Ledger, ledger.Balances C base p f.toWires f.inbound
      (if out.isEmpty then .reading else .writing out out.length) ∧ least ≤ ledger.total)
    (hreading : f.outbound = .reading) (duplex : Duplex C) (last : Bool) :
    HasLedger base least p (f.emit out duplex last).state := by
  rwa [HasLedger, toWires_emit, inbound_emit, outbound_emit _ _ _ _ hreading]

/-- A piece that has been written to the relay to its end and flushed is in the books. -/
theorem sent (h : HasLedger base least p f) {left : Bytes} {size : Nat} {link flushed : Link}
    (hflow : f.outbound = .writing left size) (hwrite : f.relay.write left = (.left [], link))
    (hflush : link.flush = (.done, flushed)) :
    HasLedger base least p
      { f with relay := flushed, counter := f.counter + .ofNat size, outbound := .reading } := by
  obtain ⟨ledger, hledger, hleast⟩ := h
  have hreturned := hledger.returned
  rw [hflow] at hreturned
  obtain ⟨piece, rfl, hpiece⟩ := hreturned.complete hwrite
  have hreceived := hledger.received
  rw [← Link.incoming_of_write hwrite, ← (Link.readable_of_flush hflush).1] at hreceived
  rw [← Link.outgoing_of_flush hflush, ← Link.isFlushed_of_flush hflush] at hpiece
  refine ⟨{ ledger with returned := ledger.returned ++ [piece] },
    ⟨hreceived, hledger.delivered, hledger.answered, hpiece, ?_⟩, ?_⟩
  · rw [Ledger.total_returned, ← Nat.add_assoc]
    exact Wires.counter_count hledger.counted piece.length
  · rw [Ledger.total_returned]
    omega

/-- A piece that has not been written to the relay to its end, or not been flushed, is not in the books. -/
theorem unsent (h : HasLedger base least p f) {left rest : Bytes} {size : Nat} {link : Link}
    (hflow : f.outbound = .writing left size) (hwrite : f.relay.write left = (.left rest, link))
    (hrest : rest ≠ [] ∨ link.isFlushed = false) :
    HasLedger base least p { f with relay := link, outbound := .writing rest size } := by
  obtain ⟨ledger, hledger, hleast⟩ := h
  have hreturned := hledger.returned
  rw [hflow] at hreturned
  have hreceived := hledger.received
  rw [← Link.incoming_of_write hwrite] at hreceived
  exact ⟨ledger, ⟨hreceived, hledger.delivered, hledger.answered, hreturned.goOn hwrite hrest,
    hledger.counted⟩, hleast⟩

/-- An outbound step keeps the books, and takes nothing out of them. -/
theorem outboundStep (h : HasLedger base least p f) (hduplex : f.duplex = ((Duplex.start C).run p.calls).2)
    (now : Instant) : HasLedger base least (p.work f.outboundCalls []) (f.outboundStep now).state := by
  have hkept : HasLedger base least (p.work [] []) f := by rwa [Passage.work_nil]
  obtain ⟨ledger, hledger, hleast⟩ := id h
  refine outboundStep_cases (P := fun calls hop => HasLedger base least (p.work calls []) hop.state) now f
    ?_ ?_ ?_ ?_ ?_ ?_ ?_ ?_ ?_ ?_
  · exact fun left size link flushed hflow hwrite hflush _ => hkept.sent hflow hwrite hflush
  · exact fun left size link flushed hflow hwrite hflush _ => hkept.sent hflow hwrite hflush
  · intro left size link hflow hwrite hflush
    exact hkept.unsent hflow hwrite (.inr (Link.eq_of_flush_ne_done hflush nofun).2.1)
  · intro left size reason link hflow hwrite hflush
    exact hkept.unsent hflow hwrite (.inr (Link.eq_of_flush_ne_done hflush nofun).2.1)
  · exact fun left size rest link hflow hrest hwrite => hkept.unsent hflow hwrite (.inl hrest)
  · intro left size reason link _ hwrite
    rw [Link.eq_of_write_failed hwrite]
    exact hkept
  · intro octets link hflow hread
    rw [hflow] at hledger
    have hproduced := (hledger.answer hread).produce (.transform octets) rfl hduplex
    refine HasLedger.emit ?_ ?_ _ _
    · refine ⟨_, hproduced.of_same rfl rfl rfl (fun _ => rfl) (fun _ => rfl) rfl rfl, ?_⟩
      rw [Ledger.total_answered]
      omega
    · exact hflow
  · intro link hflow _
    rw [hflow] at hledger
    exact .emit ⟨ledger, hledger.produce .finish rfl hduplex, hleast⟩ hflow _ _
  · exact fun _ _ _ => hkept
  · exact fun _ _ => hkept

end HasLedger

/-! ## Forwarding by itself -/

/-- The books are kept, and the transcoder is where the calls have brought it. -/
structure IsBooked (base : Baseline) (least : Nat) (p : Passage) (f : Forwarding C) : Prop where
  duplex : f.duplex = ((Duplex.start C).run p.calls).2
  ledger : HasLedger base least p f

namespace IsBooked

/-- The books have been kept up to an inbound step, and are so behind it. -/
theorem inboundStep (h : IsBooked base least p f) (now : Instant) :
    IsBooked base least (p.work f.inboundCalls []) (f.inboundStep now).state := by
  refine ⟨?_, h.ledger.inboundStep now⟩
  rw [duplex_inboundStep, Passage.work, Duplex.run_append, ← h.duplex]

/-- The books have been kept up to an outbound step, and are so behind it. -/
theorem outboundStep (h : IsBooked base least p f) (now : Instant) :
    IsBooked base least (p.work f.outboundCalls []) (f.outboundStep now).state := by
  refine ⟨?_, h.ledger.outboundStep h.duplex now⟩
  rw [duplex_outboundStep, Passage.work, Duplex.run_append, ← h.duplex]

/-- The books are kept to the end. -/
theorem concluded {now : Instant} {calls : List DuplexCall} {result : Except TunnelError Closing}
    (h : IsBooked base least p f) (hends : f.Concludes now calls g result) :
    IsBooked base least (p.work calls []) g := by
  cases hends with
  | inbound hdone =>
    have hstep := h.inboundStep now
    rwa [hdone] at hstep
  | outbound hdone =>
    have hstep := h.outboundStep now
    rwa [hdone] at hstep
  | silent _ => rwa [Passage.work_nil]

end IsBooked

/-- Forwarding starts with nothing under way, and what had been read before stays where it is. -/
theorem isBooked_start {w : Wires} (h : ledger.Balances C base p w .reading .reading) (hcalls : p.calls = [])
    (hleast : least ≤ ledger.total) (first : Bytes) (idle : Duration) (now : Instant) :
    IsBooked base least p (.start w first idle now : Forwarding C) := by
  refine ⟨?_, ledger, h, hleast⟩
  rw [hcalls]
  rfl

/-- A step of forwarding that does not end it, or something that the far ends do. -/
inductive Advance (p : Passage) (f : Forwarding C) : Passage → Forwarding C → Prop where
  | inbound (now : Instant) : (f.inboundStep now).result? = none →
      Advance p f (p.work f.inboundCalls []) (f.inboundStep now).state
  | outbound (now : Instant) : (f.outboundStep now).result? = none →
      Advance p f (p.work f.outboundCalls []) (f.outboundStep now).state
  | watched {watch : IdleWatch} (now : Instant) : f.watch.look now = .watching watch →
      Advance p f p { f with watch := watch }
  | farEnds (sent taken : Side → Bytes) (links : Side → Link) :
      (∀ side, (links side).incoming = (f.link side).incoming ++ sent side) →
      (∀ side, (f.link side).outgoing = taken side ++ (links side).outgoing) →
      (∀ side, (links side).isFlushed = (f.link side).isFlushed) →
      Advance p f (p.exchange sent taken) { f with toWires := f.relink links }

/-- What has passed when forwarding is started by itself: what has arrived has been sent, and `first` in
front of it. -/
def handed (wires : Wires) (first : Bytes) : Passage where
  sent
    | .relay => first ++ wires.relay.incoming
    | .destination => wires.destination.incoming
  given _ := []
  calls := []
  told := []
  ends := []

/-- Forwarding by itself counts from where it starts, and `first` has been read before that. -/
def baseline (wires : Wires) (first : Bytes) : Baseline where
  IsPayload := Eq
  first := first
  front side := (wires.link side).outgoing
  traffic := wires.traffic
  append more h := congrArg (· ++ more) h
  unique h hother := h.symm.trans hother

/-- Forwarding that was started by itself and has not ended. -/
inductive Relaying (wires : Wires) (first : Bytes) (idle : Duration) (begin_ : Instant) :
    Passage → Forwarding C → Prop where
  | start : Relaying wires first idle begin_ (handed wires first) (.start wires first idle begin_)
  | advance {p p' : Passage} {f g : Forwarding C} : Relaying wires first idle begin_ p f →
      Advance p f p' g → Relaying wires first idle begin_ p' g

variable {wires : Wires} {first : Bytes} {idle : Duration} {begin_ : Instant}

/-- A step of forwarding, or something that the far ends do, keeps the books. -/
theorem Advance.isBooked (h : Advance p f p' g) (hbooked : IsBooked base least p f) :
    IsBooked base least p' g := by
  cases h with
  | inbound now _ => exact hbooked.inboundStep now
  | outbound now _ => exact hbooked.outboundStep now
  | watched now _ => exact ⟨hbooked.duplex, hbooked.ledger⟩
  | farEnds sent taken links hincoming houtgoing hflushed =>
    obtain ⟨ledger, hledger, hleast⟩ := hbooked.ledger
    exact ⟨hbooked.duplex, ledger, hledger.farEnds hincoming houtgoing hflushed, hleast⟩

/-- The books have been kept since forwarding was started. -/
theorem Relaying.isBooked {p : Passage} (h : Relaying wires first idle begin_ p f) :
    IsBooked (baseline wires first) 0 p f := by
  induction h with
  | start =>
    have hblank : Ledger.blank.Balances C (baseline wires first) (handed wires first) wires
        .reading .reading := by
      refine ⟨?_, ⟨rfl, ?_, nofun⟩, rfl, ⟨rfl, ?_, nofun⟩, ?_⟩
      · exact congrArg (· ++ wires.relay.incoming) (List.append_nil first).symm
      · exact (List.append_nil _).symm
      · exact (List.append_nil _).symm
      · exact UInt64.ofNat_toNat.symm
    exact isBooked_start hblank rfl (Nat.zero_le _) first idle begin_
  | advance _ hstep ih => exact hstep.isBooked ih

/-- What every step that does not end forwarding keeps, polling keeps. -/
theorem kept_of_advance {P : Passage → Forwarding C → Prop}
    (hP : ∀ {p p' f g}, P p f → Advance p f p' g → P p' g) (p : Passage) (now : Instant) :
    Kept now fun calls g => P (p.work calls []) g := by
  constructor
  · intro calls g hg hgoes
    have hnext := hP hg (.inbound now hgoes)
    rwa [Passage.work_work] at hnext
  · intro calls g hg hgoes
    have hnext := hP hg (.outbound now hgoes)
    rwa [Passage.work_work] at hnext
  · intro calls g watch hg hlook
    exact hP hg (.watched now hlook)

end Forwarding

end RelayTunnel
