import RelayTunnel.Proofs.Tunnel.Answer
import RelayTunnel.Proofs.Tunnel.Passage
import RelayTunnel.Proofs.Tunnel.TailFlush

/-!
# From the relay to the destination

What the relay sends behind the head of its answer lies in three places one after the other: behind
the head in the buffer of the opening, in the first payload, which forwarding takes over, and in the write
to the destination.
`Streaming` says for each stage where everything is that has come so far. Each piece of a tunnel's
work moves octets from one place to the next and leaves their order as it is, so `Streaming` holds
throughout a life (`Reachable.streaming`), and from it:

* what has been written to the destination is a front piece of what has been inspected, which is a
  front piece of what the relay has sent behind the head;
* when forwarding ends because the relay has closed, all of it has been written;
* what comes of the opening is read off the stream alone (`Answers` and `Verdict`).
-/

set_option autoImplicit false

namespace RelayTunnel

open Compression (BodyCompressor)
open Http (takeResponse takeResponse_append)
open Transcode (Duplex DuplexCall)

/-- What the inspector is given in a call. -/
def DuplexCall.inspected : DuplexCall → Bytes
  | .inspect chunk => chunk
  | _ => []

/-- All that the inspector is given, in the order in which it is given. -/
def inspected (calls : List DuplexCall) : Bytes := calls.flatMap DuplexCall.inspected

/-- What the inspector is given in two stretches of calls. -/
theorem inspected_append (calls more : List DuplexCall) :
    inspected (calls ++ more) = inspected calls ++ inspected more := List.flatMap_append

/-- What the inspector is given in one call. -/
theorem inspected_inspect (chunk : Bytes) : inspected [.inspect chunk] = chunk :=
  List.append_nil chunk

/-- What stands behind the head of the relay's answer, once that is complete. -/
def behindHead (stream : Bytes) : Bytes :=
  match takeResponse stream with
  | .ok (some taken) => taken.rest
  | _ => []

/-- A head has been taken off the stream, and `rest` stands behind it. -/
def Headed (stream rest : Bytes) : Prop := ∃ head, takeResponse stream = .ok (some ⟨head, rest⟩)

/-- What stands behind a head that has been taken off. -/
theorem Headed.behindHead_eq {stream rest : Bytes} (h : Headed stream rest) :
    behindHead stream = rest := by
  obtain ⟨head, htake⟩ := h
  rw [behindHead, htake]

/-- What comes later stands behind the head as well. -/
theorem Headed.append {stream rest : Bytes} (h : Headed stream rest) (more : Bytes) :
    Headed (stream ++ more) (rest ++ more) := by
  obtain ⟨head, htake⟩ := h
  exact ⟨head, takeResponse_append htake more⟩

/-- What stands behind the head only grows. -/
theorem prefix_behindHead (stream more : Bytes) :
    behindHead stream <+: behindHead (stream ++ more) := by
  by_cases hheaded : ∃ rest, Headed stream rest
  · obtain ⟨rest, hrest⟩ := hheaded
    rw [hrest.behindHead_eq, (hrest.append more).behindHead_eq]
    exact List.prefix_append rest more
  · have hnone : behindHead stream = [] := by
      rw [behindHead]
      split
      · next taken htake => exact absurd ⟨taken.rest, taken.head, htake⟩ hheaded
      · rfl
    rw [hnone]
    exact List.nil_prefix

/-! ## Forwarding -/

namespace Forwarding

variable {C : Type}

/-- What has come from the relay and has not been given to the inspector. -/
def uninspected (f : Forwarding C) : Bytes := f.first ++ f.relay.incoming

/-- What has been given to the inspector and not been written to the destination. -/
def undelivered (f : Forwarding C) : Bytes :=
  match f.inbound with
  | .reading => []
  | .writing left _ => left

variable [BodyCompressor C]
variable {calls : List DuplexCall} {given stream : Bytes} {f g : Forwarding C}

/-- Where everything is while data is forwarded. -/
structure Delivering (stream given : Bytes) (calls : List DuplexCall) (f : Forwarding C) :
    Prop where
  duplex : f.duplex = ((Duplex.start C).run calls).2
  headed : Headed stream (inspected calls ++ f.uninspected)
  inspected_eq : inspected calls = given ++ f.destination.outgoing ++ f.undelivered

namespace Delivering

/-- One more piece is given to the inspector, when the last one has been written. -/
theorem inspected_cons (h : Delivering stream given calls f) {chunk : Bytes}
    (hwritten : f.undelivered = []) (hrelay : f.uninspected = chunk ++ g.uninspected)
    (hduplex : g.duplex = f.duplex.inspect chunk)
    (hdestination : g.destination.outgoing = f.destination.outgoing)
    (hundelivered : g.undelivered = chunk) :
    Delivering stream given (calls ++ [.inspect chunk]) g := by
  have hmore : inspected (calls ++ [.inspect chunk]) = inspected calls ++ chunk := by
    rw [inspected_append, inspected_inspect]
  refine ⟨?_, ?_, ?_⟩
  · rw [hduplex, run_concat, ← h.duplex]
    rfl
  · have hheaded := h.headed
    rwa [hrelay, ← List.append_assoc, ← hmore] at hheaded
  · rw [hmore, h.inspected_eq, hwritten, hdestination, hundelivered, List.append_nil]

/-- A step that gives nothing to the inspector and does not touch what is under way. -/
theorem of_same (h : Delivering stream given calls f) {more : List DuplexCall}
    (hnone : inspected more = []) (hduplex : g.duplex = (f.duplex.run more).2)
    (hrelay : g.uninspected = f.uninspected)
    (hwritten : g.destination.outgoing ++ g.undelivered
      = f.destination.outgoing ++ f.undelivered) :
    Delivering stream given (calls ++ more) g := by
  have hsame : inspected (calls ++ more) = inspected calls := by
    rw [inspected_append, hnone, List.append_nil]
  refine ⟨?_, ?_, ?_⟩
  · rw [hduplex, Duplex.run_append, ← h.duplex]
  · rw [hsame, hrelay]
    exact h.headed
  · rw [hsame, List.append_assoc, hwritten, ← List.append_assoc]
    exact h.inspected_eq

/-- Something is written to the relay or flushed. -/
theorem of_relay (h : Delivering stream given calls f)
    (hincoming : g.relay.incoming = f.relay.incoming) (hfirst : g.first = f.first)
    (hduplex : g.duplex = f.duplex) (hdestination : g.destination = f.destination)
    (hinbound : g.inbound = f.inbound) : Delivering stream given (calls ++ []) g := by
  refine h.of_same rfl hduplex ?_ ?_
  · rw [uninspected, hfirst, hincoming, uninspected]
  · rw [undelivered, hdestination, hinbound, undelivered]

/-- An inbound step moves octets on towards the destination. -/
theorem inboundStep (h : Delivering stream given calls f) (now : Instant) :
    Delivering stream given (calls ++ f.inboundCalls) (f.inboundStep now).state := by
  refine inboundStep_cases
    (P := fun more hop => Delivering stream given (calls ++ more) hop.state) now f
    ?_ ?_ ?_ ?_ ?_ ?_ ?_ ?_
  · intro left size link hflow hwrite
    have hleft : f.undelivered = left := by rw [undelivered, hflow]
    refine h.of_same rfl rfl rfl ?_
    rw [hleft]
    exact Link.outgoing_of_write hwrite
  · intro left size rest link hflow _ hwrite
    have hleft : f.undelivered = left := by rw [undelivered, hflow]
    refine h.of_same rfl rfl rfl ?_
    rw [hleft]
    exact Link.outgoing_of_write hwrite
  · intro left size reason link _ hwrite
    rw [Link.eq_of_write_failed hwrite]
    exact h.of_same rfl rfl rfl rfl
  · intro hflow _
    have hnone : f.undelivered = [] := by rw [undelivered, hflow]
    exact h.inspected_cons hnone rfl rfl rfl rfl
  · intro octets link hflow hfirst hread
    have hnone : f.undelivered = [] := by rw [undelivered, hflow]
    refine h.inspected_cons hnone ?_ rfl rfl rfl
    show f.first ++ f.relay.incoming = octets ++ (f.first ++ link.incoming)
    rw [hfirst]
    exact (Link.incoming_of_read hread).symm
  · intro link _ _ _
    exact h.of_same rfl rfl rfl rfl
  · intro _ _
    exact h.of_same rfl rfl rfl rfl
  · intro reason _ _
    exact h.of_same rfl rfl rfl rfl

/-- What the transcoder gave is no concern of the way to the destination. -/
theorem emit (h : Delivering stream given calls f) {more : List DuplexCall}
    (hnone : inspected more = []) {out : Bytes} {duplex : Duplex C} {last : Bool}
    (hduplex : duplex = (f.duplex.run more).2) (hrelay : g.uninspected = f.uninspected)
    (hwritten : g.destination.outgoing ++ g.undelivered
      = f.destination.outgoing ++ f.undelivered) :
    Delivering stream given (calls ++ more) (g.emit out duplex last).state := by
  rw [Forwarding.emit]
  split
  · exact h.of_same hnone hduplex hrelay hwritten
  · split <;> exact h.of_same hnone hduplex hrelay hwritten

/-- An outbound step leaves what is on its way to the destination as it is. -/
theorem outboundStep (h : Delivering stream given calls f) (now : Instant) :
    Delivering stream given (calls ++ f.outboundCalls) (f.outboundStep now).state := by
  refine outboundStep_cases
    (P := fun more hop => Delivering stream given (calls ++ more) hop.state) now f
    ?_ ?_ ?_ ?_ ?_ ?_ ?_ ?_ ?_ ?_
  · intro left size link flushed _ hwrite hflush _
    exact h.of_relay (g := { f with
      relay := flushed, counter := f.counter + .ofNat size, outbound := .reading })
      ((Link.readable_of_flush hflush).1.trans (Link.incoming_of_write hwrite)) rfl rfl rfl rfl
  · intro left size link flushed _ hwrite hflush _
    exact h.of_relay (g := { f with
      relay := flushed, counter := f.counter + .ofNat size, outbound := .reading })
      ((Link.readable_of_flush hflush).1.trans (Link.incoming_of_write hwrite)) rfl rfl rfl rfl
  · intro left size link _ hwrite _
    exact h.of_relay (Link.incoming_of_write hwrite) rfl rfl rfl rfl
  · intro left size reason link _ hwrite _
    exact h.of_relay (Link.incoming_of_write hwrite) rfl rfl rfl rfl
  · intro left size rest link _ _ hwrite
    exact h.of_relay (Link.incoming_of_write hwrite) rfl rfl rfl rfl
  · intro left size reason link _ hwrite
    exact h.of_relay (Link.incoming_of_write hwrite) rfl rfl rfl rfl
  · intro octets link _ hread
    have houtgoing := Link.outgoing_of_read hread
    refine h.emit rfl (by rw [Duplex.run_singleton]; rfl) rfl ?_
    exact congrArg (· ++ f.undelivered) houtgoing
  · intro link _ _
    exact h.emit rfl (by rw [Duplex.run_singleton]; rfl) rfl rfl
  · intro link _ _
    exact h.of_same rfl rfl rfl rfl
  · intro reason _
    exact h.of_same rfl rfl rfl rfl

/-- Octets that are under way stay where they are when forwarding ends. -/
theorem concludes (h : Delivering stream given calls f) {now : Instant} {more : List DuplexCall}
    {result : Except TunnelError Closing} (hends : f.Concludes now more g result) :
    Delivering stream given (calls ++ more) g := by
  cases hends with
  | inbound hdone =>
    have hstep := h.inboundStep now
    rwa [hdone] at hstep
  | outbound hdone =>
    have hstep := h.outboundStep now
    rwa [hdone] at hstep
  | silent _ => exact h.of_same rfl rfl rfl rfl

end Delivering

/-- Forwarding begins with what was read before. -/
theorem delivering_start {wires : Wires} {first : Bytes} {idle : Duration} {now : Instant}
    (hheaded : Headed stream (first ++ wires.relay.incoming))
    (hunwritten : wires.destination.outgoing = []) :
    Delivering stream [] [] (start wires first idle now : Forwarding C) := by
  refine ⟨rfl, hheaded, ?_⟩
  show [] = [] ++ wires.destination.outgoing ++ []
  rw [hunwritten]
  rfl

omit [BodyCompressor C] in
/-- To send something to the relay does not end forwarding for its close. -/
theorem emit_ne_relay (f : Forwarding C) (out : Bytes) (duplex : Duplex C) (last : Bool) :
    (f.emit out duplex last).result? ≠ some (.ok .relay) := by
  rw [emit]
  split
  · simp [Hop.result?]
  · split <;> simp [Hop.result?]

/-- The outbound direction never ends because of the relay's close. -/
theorem outboundStep_ne_relay (now : Instant) (f : Forwarding C) :
    (f.outboundStep now).result? ≠ some (.ok .relay) := by
  refine outboundStep_cases (P := fun _ hop => hop.result? ≠ some (.ok .relay)) now f
    ?_ ?_ ?_ ?_ ?_ ?_ ?_ ?_ ?_ ?_
  case refine_7 => exact fun octets link _ _ => emit_ne_relay _ _ _ _
  case refine_8 => exact fun link _ _ => emit_ne_relay _ _ _ _
  all_goals simp [Hop.result?]

/-- Forwarding ends because the relay has closed only when all that the relay has sent has been read
and nothing is being written. -/
theorem Concludes.of_relay {now : Instant} {more : List DuplexCall}
    (h : f.Concludes now more g (.ok .relay)) :
    more = [] ∧ g = f ∧ f.undelivered = [] ∧ f.uninspected = [] := by
  cases h with
  | inbound hdone =>
    rw [Forwarding.inboundStep] at hdone
    split at hdone
    · split at hdone <;> cases hdone
    · next hflow =>
      rw [receive] at hdone
      cases hfirst : f.first with
      | cons b rest => rw [hfirst] at hdone; cases hdone
      | nil =>
        rw [hfirst] at hdone
        dsimp only at hdone
        rcases hread : f.relay.read readLimit with ⟨octets | _ | reason | _, link⟩ <;>
          rw [hread] at hdone <;> cases hdone
        obtain ⟨-, hnone⟩ := Link.eq_of_read hread nofun
        refine ⟨?_, rfl, ?_, ?_⟩
        · rw [inboundCalls, hflow, hfirst, hread]
        · rw [undelivered, hflow]
        · rw [uninspected, hfirst, hnone]
          rfl
  | outbound hdone =>
    have hresult := f.outboundStep_ne_relay now
    rw [hdone] at hresult
    exact absurd rfl hresult

end Forwarding

/-! ## The whole tunnel -/

namespace Tunnel

variable {C : Type} [BodyCompressor C]
variable {relay : Endpoint} {options : TunnelOptions} {p : Passage} {t t' : Tunnel C}
variable {stream given : Bytes} {calls more : List DuplexCall}

/-- Neither the inspector nor the destination has been given anything. -/
def Untouched (given : Bytes) (calls : List DuplexCall) (t : Tunnel C) : Prop :=
  calls = [] ∧ given ++ t.wires.destination.outgoing = []

/-- What stays true of the octets on their way when nothing moves any more. -/
def Settled (stream given : Bytes) (calls : List DuplexCall) (t : Tunnel C) : Prop :=
  given ++ t.wires.destination.outgoing <+: inspected calls ∧
    inspected calls <+: behindHead stream

/-- Where everything is that has come from the relay. -/
def Streaming (stream given : Bytes) (calls : List DuplexCall) (t : Tunnel C) : Prop :=
  match t.stage with
  | .unstarted | .dialingRelay => stream = [] ∧ Untouched given calls t
  | .opening opening =>
      stream = opening.received ++ t.wires.relay.incoming ∧
        takeResponse opening.received = .ok none ∧ Untouched given calls t
  | .awaitingPayload _ => Headed stream t.wires.relay.incoming ∧ Untouched given calls t
  | .dialingDestination _ payload =>
      Headed stream (payload ++ t.wires.relay.incoming) ∧ Untouched given calls t
  | .forwarding course => Forwarding.Delivering stream given calls ⟨t.wires, course⟩
  | .crashed | .over => Settled stream given calls t

omit [BodyCompressor C] in
/-- What has not been touched is settled. -/
theorem Untouched.settled (h : Untouched given calls t) : Settled stream given calls t := by
  obtain ⟨rfl, hnone⟩ := h
  rw [Settled, hnone]
  constructor <;> exact List.nil_prefix

/-- What is being delivered is settled as far as it has been written. -/
theorem settled_of_delivering {f : Forwarding C} (h : f.Delivering stream given calls)
    (houtgoing : t.wires.destination.outgoing = f.destination.outgoing) :
    Settled stream given calls t := by
  refine ⟨?_, ?_⟩
  · rw [houtgoing, h.inspected_eq]
    exact List.prefix_append _ _
  · rw [h.headed.behindHead_eq]
    exact List.prefix_append _ _

omit [BodyCompressor C] in
/-- What the far ends do leaves settled octets settled. -/
theorem Settled.append (h : Settled stream given calls t) {sent taken : Bytes}
    (houtgoing : t.wires.destination.outgoing = taken ++ t'.wires.destination.outgoing) :
    Settled (stream ++ sent) (given ++ taken) calls t' := by
  refine ⟨?_, h.2.trans (prefix_behindHead stream sent)⟩
  rw [List.append_assoc, ← houtgoing]
  exact h.1

namespace Streaming

/-- Wherever octets are on their way, they are settled as far as they have come. -/
theorem settled (h : Streaming stream given calls t) : Settled stream given calls t := by
  rw [Streaming] at h
  split at h
  · exact h.2.settled
  · exact h.2.settled
  · exact h.2.2.settled
  · exact h.2.settled
  · exact h.2.settled
  · exact settled_of_delivering h rfl
  · exact h
  · exact h

/-- The opening is answered by what the relay has sent. -/
theorem answers (h : Streaming stream given calls t) {opening : Opening}
    (hstage : t.stage = .opening opening) {outcome : Outcome Opening Opened} {link : Link}
    (hpoll : opening.poll t.wires.relay = (outcome, link)) :
    Opening.Answers stream link outcome := by
  rw [Streaming, hstage] at h
  rw [h.1]
  exact Opening.poll_answers h.2.1 hpoll

/-- A tunnel that has been accepted holds what stands behind the head of the answer. -/
theorem headed_of_opened (h : Streaming stream given calls t) {opening : Opening}
    (hstage : t.stage = .opening opening) {opened : Opened} {link : Link}
    (hpoll : opening.poll t.wires.relay = (.done (.ok opened), link)) :
    Headed stream (opened.leftover ++ link.incoming) ∧ Untouched given calls t := by
  have hanswers := h.answers hstage hpoll
  rw [Streaming, hstage] at h
  exact ⟨⟨opened.head, hanswers⟩, h.2.2⟩

/-- The first payload is the front of that. -/
theorem firstPayload (h : Streaming stream given calls t) {destination : Endpoint}
    {payload : Bytes} (hfirst : FirstPayload t destination payload t') :
    Headed stream (payload ++ t'.wires.relay.incoming) ∧ Untouched given calls t' := by
  cases hfirst with
  | behindAnswer hstage hpoll _ _ => exact h.headed_of_opened hstage hpoll
  | read hstage hread =>
    rw [Streaming, hstage] at h
    rw [← Link.incoming_of_read hread] at h
    exact h

/-- Every move keeps the octets on their way. -/
theorem move (h : Streaming stream given calls t) (hmove : Move t more t') :
    Streaming stream given (calls ++ more) t' := by
  cases hmove with
  | begun hstage =>
    rw [Streaming, hstage] at h
    rw [List.append_nil]
    exact h
  | reached _ hstage _ =>
    rw [Streaming, hstage] at h
    rw [List.append_nil]
    exact ⟨h.1, rfl, h.2⟩
  | waited hstage hpoll =>
    obtain ⟨hstream, hnone, -⟩ := h.answers hstage hpoll
    rw [Streaming, hstage] at h
    rw [List.append_nil]
    exact ⟨hstream, hnone, h.2.2⟩
  | accepted hstage hpoll _ hempty =>
    have hheaded := h.headed_of_opened hstage hpoll
    rw [hempty] at hheaded
    rw [List.append_nil]
    exact hheaded
  | paid hfirst _ =>
    have hpaid := h.firstPayload hfirst
    rw [List.append_nil]
    exact hpaid
  | joined _ now hstage _ =>
    rw [Streaming, hstage] at h
    obtain ⟨hheaded, rfl, hnone⟩ := h
    obtain ⟨rfl, -⟩ := List.append_eq_nil_iff.mp hnone
    exact Forwarding.delivering_start hheaded rfl
  | inbound now hstage _ =>
    rw [Streaming, hstage] at h
    exact h.inboundStep now
  | outbound now hstage _ =>
    rw [Streaming, hstage] at h
    exact h.outboundStep now
  | watched now hstage _ =>
    rw [Streaming, hstage] at h
    exact h.of_same rfl rfl rfl rfl

/-- A tunnel that ends by itself leaves them settled. -/
theorem stop (h : Streaming stream given calls t) {error : Option TunnelError}
    (hstop : Stop t more t' error) : Settled stream given (calls ++ more) t' := by
  cases hstop with
  | refused _ _ | relayUnusable _ _ _ | unopened _ _ | rejected _ _ _ | unpaid _ _
  | unreadable _ _ =>
    rw [List.append_nil]
    exact h.settled
  | dismissed hfirst _ =>
    rw [List.append_nil]
    exact (h.firstPayload hfirst).2.settled
  | destinationUnusable _ hstage _ =>
    rw [Streaming, hstage] at h
    obtain ⟨-, hcalls, hnone⟩ := h
    rw [List.append_nil]
    exact Untouched.settled ⟨hcalls, by rw [(List.append_eq_nil_iff.mp hnone).1]; rfl⟩
  | concluded now hstage hends =>
    rw [Streaming, hstage] at h
    exact settled_of_delivering (h.concludes hends) rfl

/-- So does one that is told to end. -/
theorem destroy (h : Settled stream given calls t) (hlive : t.state ≠ .destroyed)
    (error : Option TunnelError) : Streaming stream given calls (t.destroy error) := by
  rw [destroy_of_live hlive]
  exact h

/-- What the far ends do keeps the octets on their way. -/
theorem append (h : Streaming stream given calls t) {sent taken : Bytes}
    (hstage : t'.stage = t.stage) (hfarEnd : t.hasFarEnd .relay = false → sent = [])
    (hincoming : t'.wires.relay.incoming = t.wires.relay.incoming ++ sent)
    (houtgoing : t.wires.destination.outgoing = taken ++ t'.wires.destination.outgoing) :
    Streaming (stream ++ sent) (given ++ taken) calls t' := by
  have huntouched : Untouched given calls t → Untouched (given ++ taken) calls t' := by
    rintro ⟨hcalls, hnone⟩
    refine ⟨hcalls, ?_⟩
    rwa [List.append_assoc, ← houtgoing]
  rw [Streaming, hstage]
  cases hbefore : t.stage with
  | unstarted | dialingRelay =>
    rw [Streaming, hbefore] at h
    have hnone := hfarEnd (by rw [hasFarEnd, hbefore])
    exact ⟨by rw [h.1, hnone]; rfl, huntouched h.2⟩
  | opening opening =>
    rw [Streaming, hbefore] at h
    refine ⟨?_, h.2.1, huntouched h.2.2⟩
    rw [h.1, hincoming, List.append_assoc]
  | awaitingPayload destination =>
    rw [Streaming, hbefore] at h
    refine ⟨?_, huntouched h.2⟩
    rw [hincoming]
    exact h.1.append sent
  | dialingDestination destination payload =>
    rw [Streaming, hbefore] at h
    refine ⟨?_, huntouched h.2⟩
    rw [hincoming, ← List.append_assoc]
    exact h.1.append sent
  | forwarding course =>
    rw [Streaming, hbefore] at h
    refine ⟨h.duplex, ?_, ?_⟩
    · show Headed _ (inspected calls ++ (course.first ++ t'.wires.relay.incoming))
      rw [hincoming, ← List.append_assoc course.first, ← List.append_assoc]
      exact h.headed.append sent
    · show _ = given ++ taken ++ t'.wires.destination.outgoing ++ _
      rw [List.append_assoc given, ← houtgoing]
      exact h.inspected_eq
  | _ =>
    rw [Streaming, hbefore] at h
    exact h.append houtgoing

end Streaming

/-- In every life, octets are on their way from the relay. -/
theorem Reachable.streaming (h : Reachable relay options p t) :
    Streaming (p.sent .relay) (p.given .destination) p.calls t := by
  induction h with
  | spawned => exact ⟨rfl, rfl, rfl⟩
  | @step p p' t t' hreach hstep ih =>
    cases hstep with
    | moved hmove => exact ih.move hmove
    | stopped hstop => exact .destroy (ih.stop hstop) (hstop.live hreach.state_eq) _
    | destroyed error =>
      show Streaming _ _ (p.calls ++ []) _
      rw [List.append_nil]
      by_cases hgone : t.state = .destroyed
      · rw [destroy_of_destroyed hgone]
        exact ih
      · exact .destroy ih.settled hgone error
    | crashed now hstage _ => exact ih.settled
    | farEnds sent taken links hfarEnd hincoming houtgoing _ =>
      exact ih.append rfl (hfarEnd .relay) (hincoming .relay) (houtgoing .destination)
    | collected =>
      have hsame : Streaming (p.sent .relay ++ []) (p.given .destination ++ []) p.calls
          { t with wires := { t.wires with notices := [] } } :=
        ih.append rfl (fun _ => rfl) (List.append_nil _).symm rfl
      rwa [List.append_nil, List.append_nil] at hsame

/-- The octets of the relay come to the destination as they are: none is lost, doubled or moved. -/
structure Faithful (p : Passage) (t : Tunnel C) : Prop where
  /-- What has been written to the destination was inspected before. -/
  written_inspected : p.given .destination ++ t.wires.destination.outgoing <+: inspected p.calls
  /-- What has been inspected is what stands behind the head, from its first octet on. -/
  inspected_sent : inspected p.calls <+: behindHead (p.sent .relay)
  /-- The inspector is where these calls, each made once, have brought it. -/
  duplex : ∀ course, t.stage = .forwarding course →
    course.duplex = ((Duplex.start C).run p.calls).2
  /-- If forwarding ends because the relay has closed, everything has been written. -/
  complete : ∀ course now f, t.stage = .forwarding course →
    Forwarding.poll now ⟨t.wires, course⟩ = (f, .ended (.ok .relay)) →
    p.given .destination ++ f.destination.outgoing = behindHead (p.sent .relay)
  /-- What comes of the opening is read off the stream. -/
  answers : ∀ opening outcome link, t.stage = .opening opening →
    opening.poll t.wires.relay = (outcome, link) →
    Opening.Answers (p.sent .relay) link outcome

/-- The opening of a tunnel is about to be done. -/
def OpensWith (t : Tunnel C) (result : Except TunnelError Opened) : Prop :=
  ∃ opening link, t.stage = .opening opening ∧
    opening.poll t.wires.relay = (.done result, link)

/-- When forwarding ends because the relay has closed, everything has been written. -/
theorem Reachable.complete (h : Reachable relay options p t) {course : Course C} {now : Instant}
    {f : Forwarding C} (hstage : t.stage = .forwarding course)
    (hpoll : Forwarding.poll now ⟨t.wires, course⟩ = (f, .ended (.ok .relay))) :
    p.given .destination ++ f.destination.outgoing = behindHead (p.sent .relay) := by
  rw [← during_self hstage] at h
  have hforwards := (Reachable.lasting relay options).forwards h now
  rw [hpoll] at hforwards
  obtain ⟨calls, last, final, hlast, hends⟩ := hforwards
  obtain ⟨rfl, rfl, hwritten, hread⟩ := hends.of_relay
  have hdelivering : f.Delivering (p.sent .relay) (p.given .destination) (p.calls ++ calls) :=
    hlast.streaming
  have hheaded := hdelivering.headed
  rw [hread, hdelivering.inspected_eq, hwritten, List.append_nil, List.append_nil] at hheaded
  exact hheaded.behindHead_eq.symm

/-- Whatever a tunnel lives through, and however the stream from the relay is cut, the stream comes to
the destination as it is. What the opening comes to is the same for every tunnel to which the same
stream is sent, but for the kind and the size of a size error; `behind` and `behind'` are what the
relays send later. -/
theorem reachable_faithful (h : Reachable relay options p t) :
    Faithful p t ∧
      ∀ relay' options' p', ∀ t' : Tunnel C, Reachable relay' options' p' t' →
        ∀ result result' behind behind', t.OpensWith result → t'.OpensWith result' →
          p.sent .relay ++ behind = p'.sent .relay ++ behind' →
          (result = .error .openingClosed → behind = []) →
          (result' = .error .openingClosed → behind' = []) →
          Opening.Agree result result' := by
  refine ⟨?_, ?_⟩
  · have hsettled := h.streaming.settled
    refine ⟨hsettled.1, hsettled.2, ?_, ?_, ?_⟩
    · intro course hstage
      have hstreaming := h.streaming
      rw [Streaming, hstage] at hstreaming
      exact hstreaming.duplex
    · intro course now f hstage hpoll
      exact h.complete hstage hpoll
    · intro opening outcome link hstage hpoll
      exact h.streaming.answers hstage hpoll
  · rintro relay' options' p' t' h' result result' behind behind' ⟨opening, link, hstage, hpoll⟩
      ⟨opening', link', hstage', hpoll'⟩ hstream hclosed hclosed'
    have hverdict := (h.streaming.answers hstage hpoll).verdict hclosed
    have hverdict' := (h'.streaming.answers hstage' hpoll').verdict hclosed'
    rw [← hstream] at hverdict'
    exact hverdict.agree hverdict'

/-- The answer of a relay that accepts, with the beginning of a request in the same piece. -/
def welcome : Bytes :=
  Ascii.bytes "HTTP/1.1 200 OK\r\nX-RV-Host: http://[::1]:8080/\r\n\r\nGET"

/-- A tunnel that waits for the answer of its relay. -/
def asking : Tunnel :=
  ((spawn ⟨"[::1]", 80, false, false, "/abc"⟩ ⟨.ofSeconds 30, []⟩).poll .zero).connected .zero
    .completed

/-- The same tunnel with the answer, connected to the destination. -/
def answered : Tunnel :=
  ({ asking with wires := asking.wires.modifyLink .relay (·.deliver welcome) }.poll .zero).connected
    .zero .completed

/-- That tunnel can be reached, with its answer read and nothing given to its destination. -/
theorem reachable_answered :
    ∃ p, Reachable ⟨"[::1]", 80, false, false, "/abc"⟩ ⟨.ofSeconds 30, []⟩ p answered ∧
      p.sent .relay = welcome ∧ p.given .destination = [] ∧ p.told = [] := by
  have hspawned : Reachable _ _ _
      (spawn ⟨"[::1]", 80, false, false, "/abc"⟩ ⟨.ofSeconds 30, []⟩ : Tunnel) := .spawned
  obtain ⟨_, _, hdialing⟩ := hspawned.poll .zero
  obtain ⟨_, _, hasking⟩ := hdialing.connected .zero .completed
  have hfarEnd : asking.hasFarEnd .relay = true := by decide +kernel
  have harrived : Reachable _ _ _
      { asking with wires := asking.wires.modifyLink .relay (·.deliver welcome) } :=
    hasking.modifyLink .relay (fun hnone => absurd (hfarEnd.symm.trans hnone) nofun) rfl
      (List.nil_append _).symm rfl
  obtain ⟨_, _, hpaid⟩ := harrived.poll .zero
  obtain ⟨_, _, hjoined⟩ := hpaid.connected .zero .completed
  exact ⟨_, hjoined, rfl, rfl, rfl⟩

/-- What came behind the answer has been written to the destination. -/
theorem faithful_answered :
    ∃ p, Reachable ⟨"[::1]", 80, false, false, "/abc"⟩ ⟨.ofSeconds 30, []⟩ p answered ∧
      Faithful p answered ∧ behindHead (p.sent .relay) = Ascii.bytes "GET" ∧
      p.given .destination ++ answered.wires.destination.outgoing = Ascii.bytes "GET" := by
  obtain ⟨p, hreach, hsent, hgiven, -⟩ := reachable_answered
  refine ⟨p, hreach, (reachable_faithful hreach).1, ?_, ?_⟩
  · rw [hsent]
    decide +kernel
  · rw [hgiven]
    decide +kernel

end Tunnel

end RelayTunnel
