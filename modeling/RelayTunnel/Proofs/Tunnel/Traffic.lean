import RelayTunnel.Proofs.Tunnel.Ledger
import RelayTunnel.Proofs.Tunnel.Lifecycle

/-!
# What a tunnel counts

A tunnel counts from the first octet behind the head of its relay's answer: the first payload when it is
taken, whether it came with the head or later, and from then on what forwarding reads and writes. What it
writes and reads to open the session is not counted.

`Booked` says for each stage what has been counted so far. Each piece of a tunnel's work keeps it and takes
nothing off, so it holds throughout a life (`Reachable.booked`), also of one that has ended. `traffic_adds_up`
says this of a tunnel and of forwarding that is started by itself.
-/

set_option autoImplicit false

namespace RelayTunnel

open Compression (BodyCompressor Compressor)
open Transcode (DuplexCall)

/-! ## The opening request -/

/-- What an opening has still to write, if it goes on. -/
def Outcome.unsent {α : Type} : Outcome Opening α → Bytes
  | .waiting later => later.unsent
  | .done _ => []

namespace Opening

/-- To receive takes nothing that has been written. -/
theorem outgoing_receive (received : Bytes) (link : Link) :
    (receive received link).2.outgoing = link.outgoing ∧ (receive received link).1.unsent = [] := by
  fun_induction receive received link with
  | case1 | case2 => exact ⟨rfl, rfl⟩
  | case3 _ _ _ _ hread | case4 _ _ _ _ hread | case5 _ _ _ _ _ hread =>
    exact ⟨Link.outgoing_of_read hread, rfl⟩
  | case6 received link htake octets link' hread ih => exact ⟨ih.1.trans (Link.outgoing_of_read hread), ih.2⟩

/-- An opening that does not fail writes the front of what it has to write, and all of it if it is done. -/
theorem outgoing_poll {opening : Opening} {link link' : Link} {outcome : Outcome Opening Opened}
    (h : opening.poll link = (outcome, link')) (hgoes : ∀ error, outcome ≠ .done (.error error)) :
    link'.outgoing ++ outcome.unsent = link.outgoing ++ opening.unsent := by
  rw [poll] at h
  rcases hwrite : link.write opening.unsent with ⟨rest | reason, written⟩
  · have houtgoing := Link.outgoing_of_write hwrite
    rw [hwrite] at h
    cases rest with
    | nil =>
      dsimp only at h
      rcases hflush : written.flush with ⟨_ | _ | reason, flushed⟩ <;> rw [hflush] at h
      · obtain ⟨hsame, hnone⟩ := outgoing_receive opening.received flushed
        rw [show receive opening.received flushed = (outcome, link') from h] at hsame hnone
        rw [hsame, hnone, Link.outgoing_of_flush hflush]
        exact houtgoing
      · obtain ⟨rfl, rfl⟩ := Prod.mk.inj h
        rw [Link.outgoing_of_flush hflush]
        exact houtgoing
      · exact absurd (Prod.mk.inj h).1.symm (hgoes _)
    | cons b rest =>
      obtain ⟨rfl, rfl⟩ := Prod.mk.inj h
      exact houtgoing
  · rw [hwrite] at h
    exact absurd (Prod.mk.inj h).1.symm (hgoes _)

end Opening

namespace Tunnel

variable {C : Type} [BodyCompressor C]
variable {relay : Endpoint} {options : TunnelOptions} {p p' : Passage} {t t' : Tunnel C}
variable {calls : List DuplexCall} {error : Option TunnelError} {least : Option Nat}

/-! ## What a tunnel is made for -/

/-- No move changes the relay or the options. -/
theorem Move.settings (h : Move t calls t') : t'.relay = t.relay ∧ t'.options = t.options := by
  cases h with
  | paid hfirst _ => cases hfirst <;> exact ⟨rfl, rfl⟩
  | _ => exact ⟨rfl, rfl⟩

/-- Nor does a tunnel that ends by itself. -/
theorem Stop.settings (h : Stop t calls t' error) : t'.relay = t.relay ∧ t'.options = t.options := by
  cases h with
  | dismissed hfirst _ => cases hfirst <;> exact ⟨rfl, rfl⟩
  | _ => exact ⟨rfl, rfl⟩

omit [BodyCompressor C] in
/-- Nor does one that is told to end. -/
theorem destroy_settings (t : Tunnel C) (error : Option TunnelError) :
    (t.destroy error).relay = t.relay ∧ (t.destroy error).options = t.options := by
  rw [destroy]
  split <;> exact ⟨rfl, rfl⟩

/-- In every life, the relay and the options are those of the start. -/
theorem Reachable.settings (h : Reachable relay options p t) : t.relay = relay ∧ t.options = options := by
  induction h with
  | spawned => exact ⟨rfl, rfl⟩
  | @step _ _ t _ _ hstep ih =>
    cases hstep with
    | moved hmove => exact ⟨hmove.settings.1.trans ih.1, hmove.settings.2.trans ih.2⟩
    | @stopped _ t' error hstop =>
      obtain ⟨hrelay, hoptions⟩ := t'.destroy_settings error
      exact ⟨(hrelay.trans hstop.settings.1).trans ih.1, (hoptions.trans hstop.settings.2).trans ih.2⟩
    | destroyed error =>
      obtain ⟨hrelay, hoptions⟩ := t.destroy_settings error
      exact ⟨hrelay.trans ih.1, hoptions.trans ih.2⟩
    | crashed _ _ _ | farEnds _ _ _ _ _ _ _ | collected => exact ih

/-! ## The books by stage -/

/-- A tunnel counts from behind the head of the answer, and nothing of its own request. -/
def baseline (relay : Endpoint) (options : TunnelOptions) : Baseline where
  IsPayload := Headed
  first := []
  front
    | .relay => openingRequest relay options.headers
    | .destination => []
  traffic := 0
  append more h := h.append more
  unique h hother := h.behindHead_eq.symm.trans hother.behindHead_eq

/-- No destination has sent anything. -/
def Unanswered (p : Passage) (t : Tunnel C) : Prop :=
  p.sent .destination = [] ∧ t.wires.destination.incoming = []

section Books

variable (relay : Endpoint) (options : TunnelOptions) (least : Option Nat)

/-- There are books for what has been counted, with at least so many octets in them. -/
def HasBooks (C : Type) [BodyCompressor C] (p : Passage) (w : Wires) : Prop :=
  ∃ (ledger : Ledger) (inbound outbound : Flow),
    ledger.Balances C (baseline relay options) p w inbound outbound ∧ least.getD 0 ≤ ledger.total

/-- A tunnel that has not been connected has counted nothing, and nothing is asked of its books. -/
def Uncounted (t : Tunnel C) : Prop := t.wires.counter = 0 ∧ least = none

/-- A tunnel has counted from when it was connected on, if it ever was. -/
def Tallied (p : Passage) (t : Tunnel C) : Prop :=
  (.connected ∈ reported p t ∧ HasBooks relay options least C p t.wires) ∨
    (.connected ∉ reported p t ∧ Uncounted least t)

/-- What has been counted, by stage. Before the tunnel is connected that is nothing; from then on there are
books with at least `least` octets, if that is anything. -/
def Booked (p : Passage) (t : Tunnel C) : Prop :=
  match t.stage with
  | .unstarted | .dialingRelay =>
      Uncounted least t ∧ Unanswered p t ∧ p.written t.wires .relay = []
  | .opening opening =>
      Uncounted least t ∧ Unanswered p t ∧
        p.written t.wires .relay ++ opening.unsent = openingRequest relay options.headers
  | .awaitingPayload _ | .dialingDestination .. =>
      Unanswered p t ∧ ∃ ledger : Ledger,
        ledger.Balances C (baseline relay options) p t.wires .reading .reading ∧ least.getD 0 ≤ ledger.total
  | .forwarding course => Forwarding.IsBooked (baseline relay options) (least.getD 0) p ⟨t.wires, course⟩
  | .crashed => HasBooks relay options least C p t.wires
  | .over => Tallied relay options least p t

/-- What has been counted, by state. -/
def Accounted (p : Passage) (t : Tunnel C) : Prop :=
  match t.state with
  | .connecting => Uncounted least t
  | .connected => HasBooks relay options least C p t.wires
  | .destroyed => Tallied relay options least p t

end Books

omit [BodyCompressor C] in
/-- What has not been counted is no traffic. -/
theorem Uncounted.traffic_eq (h : Uncounted least t) : t.wires.traffic = 0 := by
  rw [Wires.traffic, h.1]
  rfl

/-- A tunnel that is connecting has counted nothing. -/
theorem Accounted.of_connecting (hstate : t.state = .connecting) (h : Uncounted least t) :
    Accounted relay options least p t := by
  rw [Accounted, hstate]
  exact h

/-- A tunnel that is connected has books. -/
theorem Accounted.of_connected (hstate : t.state = .connected)
    (h : HasBooks relay options least C p t.wires) : Accounted relay options least p t := by
  rw [Accounted, hstate]
  exact h

omit [BodyCompressor C] in
/-- A lively tunnel has reported the connection exactly if it is connected. -/
theorem Lively.connected_mem_iff {stream : Bytes} {state : TunnelState} {notices : List Notice}
    (h : Lively stream state notices) : .connected ∈ notices ↔ state = .connected := by
  cases h with
  | connecting => simp
  | connected activities _ => simp

/-- What is accounted for by state is what has been told. -/
theorem Accounted.tallied (h : Accounted relay options least p t) (htold : Told p t) :
    Tallied relay options least p t := by
  rw [Accounted] at h
  by_cases hgone : t.state = .destroyed
  · rw [hgone] at h
    exact h
  · rw [Tallied, (htold.lively hgone).1.connected_mem_iff]
    cases hstate : t.state with
    | connecting =>
      rw [hstate] at h
      exact .inr ⟨by rintro ⟨⟩, h⟩
    | connected =>
      rw [hstate] at h
      exact .inl ⟨rfl, h⟩
    | destroyed => exact absurd hstate hgone

/-- A tunnel that ends keeps its books. -/
theorem Tallied.destroy (h : Tallied relay options least p t) (hlive : t.state ≠ .destroyed)
    (error : Option TunnelError) : Booked relay options least (p.work [] [error]) (t.destroy error) := by
  have hreported :
      .connected ∈ reported (p.work [] [error]) (t.destroy error) ↔ .connected ∈ reported p t := by
    rw [destroy_of_live hlive]
    simp [reported, Passage.work, Wires.report, Wires.close]
  rw [destroy_of_live hlive] at hreported ⊢
  show Tallied _ _ _ _ _
  rw [Tallied, hreported]
  rcases h with ⟨hconnected, ledger, inbound, outbound, hledger, hleast⟩ | hnever
  · refine .inl ⟨hconnected, ledger, inbound, outbound, ?_⟩
    refine ⟨hledger.of_same rfl rfl (List.append_nil _) ?_ ?_ rfl rfl, hleast⟩
    · intro side
      cases side <;> rfl
    · intro side
      cases side <;> rfl
  · exact .inr hnever

namespace Booked

/-- What is booked by stage is accounted for by state. -/
theorem accounted (h : Booked relay options least p t) (hstate : t.state = t.stage.state) :
    Accounted relay options least p t := by
  rw [Booked] at h
  rw [Accounted, hstate]
  generalize t.stage = stage at h ⊢
  cases stage with
  | unstarted | dialingRelay | opening _ => exact h.1
  | awaitingPayload _ | dialingDestination _ _ =>
    obtain ⟨-, ledger, hledger⟩ := h
    exact ⟨ledger, _, _, hledger⟩
  | forwarding course =>
    obtain ⟨ledger, hledger⟩ := h.ledger
    exact ⟨ledger, _, _, hledger⟩
  | _ => exact h

/-- What has no part in the books. -/
theorem of_same (h : Booked relay options least p t) (hsent : p'.sent = p.sent) (hgiven : p'.given = p.given)
    (hcalls : p'.calls = p.calls) (hreported : reported p' t' = reported p t) (hstage : t'.stage = t.stage)
    (hrelay : t'.wires.relay = t.wires.relay) (hdestination : t'.wires.destination = t.wires.destination)
    (hcounter : t'.wires.counter = t.wires.counter) : Booked relay options least p' t' := by
  have hlink : ∀ side, t'.wires.link side = t.wires.link side := by
    intro side
    cases side
    · exact hrelay
    · exact hdestination
  have hwritten : ∀ side, p'.written t'.wires side = p.written t.wires side := by
    intro side
    rw [Passage.written, Passage.written, hgiven, hlink]
  have hunanswered : Unanswered p t → Unanswered p' t' := by
    intro hnone
    rwa [Unanswered, hsent, hdestination]
  have hbooks : ∀ {ledger : Ledger} {inbound outbound : Flow},
      ledger.Balances C (baseline relay options) p t.wires inbound outbound →
      ledger.Balances C (baseline relay options) p' t'.wires inbound outbound := by
    intro ledger inbound outbound hledger
    exact hledger.of_same hsent hgiven hcalls (fun side => congrArg Link.incoming (hlink side))
      (fun side => congrArg Link.outgoing (hlink side)) (congrArg Link.isFlushed hrelay) hcounter
  have hall : HasBooks relay options least C p t.wires → HasBooks relay options least C p' t'.wires := by
    rintro ⟨ledger, inbound, outbound, hledger, hleast⟩
    exact ⟨ledger, inbound, outbound, hbooks hledger, hleast⟩
  have hnothing : Uncounted least t → Uncounted least t' := by
    rintro ⟨hzero, hnone⟩
    exact ⟨hcounter.trans hzero, hnone⟩
  rw [Booked] at h ⊢
  rw [hstage]
  generalize t.stage = stage at h ⊢
  cases stage with
  | unstarted | dialingRelay | opening _ =>
    rw [hwritten]
    exact ⟨hnothing h.1, hunanswered h.2.1, h.2.2⟩
  | awaitingPayload _ | dialingDestination _ _ =>
    obtain ⟨hnone, ledger, hledger, hleast⟩ := h
    exact ⟨hunanswered hnone, ledger, hbooks hledger, hleast⟩
  | forwarding course =>
    obtain ⟨hduplex, ledger, hledger, hleast⟩ := h
    exact ⟨hcalls ▸ hduplex, ledger, hbooks hledger, hleast⟩
  | crashed => exact hall h
  | _ =>
    rw [Tallied, hreported]
    exact h.imp (And.imp_right hall) (And.imp_right hnothing)

/-- The answer is accepted, and what came behind it in the same reads is counted once it is taken. -/
theorem opened (h : Booked relay options least p t) (hreach : Reachable relay options p t)
    {opening : Opening} {opened : Opened} {link : Link} (hstage : t.stage = .opening opening)
    (hpoll : opening.poll t.wires.relay = (.done (.ok opened), link)) (destination : Endpoint) :
    Unanswered p (t.accept link destination) ∧ ∃ ledger : Ledger,
      ledger.Balances C (baseline relay options) p
        ((t.accept link destination).wires.count opened.leftover.length) .reading .reading ∧
        least.getD 0 ≤ ledger.total := by
  obtain ⟨hheaded, hcalls, hunwritten⟩ := hreach.streaming.headed_of_opened hstage hpoll
  have hrequest := Opening.outgoing_poll hpoll (by rintro _ ⟨⟩)
  rw [Booked, hstage] at h
  obtain ⟨⟨hzero, rfl⟩, hnone, hsent⟩ := h
  refine ⟨hnone, ⟨opened.leftover, [], [], []⟩,
    ⟨hheaded, ⟨?_, ?_, nofun⟩, ?_, ⟨?_, ?_, nofun⟩, ?_⟩, Nat.zero_le _⟩
  · rw [hcalls]
    rfl
  · exact hunwritten
  · exact hnone.1.trans hnone.2.symm
  · rw [hcalls]
    rfl
  · rw [Passage.written, List.append_assoc] at hsent
    show p.given .relay ++ link.outgoing = openingRequest relay options.headers ++ []
    rw [← hsent, List.append_nil]
    exact congrArg (p.given .relay ++ ·) ((List.append_nil _).symm.trans hrequest)
  · rw [Wires.counter_count (n := 0) (w := (t.accept link destination).wires) hzero]
    rfl

/-- The first payload is counted when it is taken, whichever way it came. -/
theorem firstPayload (h : Booked relay options least p t) (hreach : Reachable relay options p t)
    {destination : Endpoint} {payload : Bytes} (hfirst : FirstPayload t destination payload t') :
    Unanswered p t' ∧ ∃ ledger : Ledger,
      ledger.Balances C (baseline relay options) p (t'.wires.count payload.length) .reading .reading ∧
        least.getD 0 ≤ ledger.total := by
  cases hfirst with
  | behindAnswer hstage hpoll _ _ => exact h.opened hreach hstage hpoll destination
  | read hstage hread =>
    rw [Booked, hstage] at h
    obtain ⟨hnone, ledger, hledger, hleast⟩ := h
    refine ⟨hnone, _, hledger.receive hread, ?_⟩
    rw [Ledger.total_received]
    omega

/-- A connection to the destination that has just been made. -/
theorem renewed (h : Booked relay options least p t) (hreach : Reachable relay options p t)
    {destination : Endpoint} {payload : Bytes} (hstage : t.stage = .dialingDestination destination payload) :
    p.calls = [] ∧ ∃ ledger : Ledger, ledger.Balances C (baseline relay options) p
      { t.wires with destination := .fresh } .reading .reading ∧ least.getD 0 ≤ ledger.total := by
  have hstreaming := hreach.streaming
  rw [Streaming, hstage] at hstreaming
  rw [Booked, hstage] at h
  obtain ⟨-, hcalls, hunwritten⟩ := hstreaming
  obtain ⟨hnone, ledger, hledger, hleast⟩ := h
  refine ⟨hcalls, ledger, hledger.of_same rfl rfl rfl ?_ ?_ rfl rfl, hleast⟩
  · intro side
    cases side
    · rfl
    · exact hnone.2.symm
  · intro side
    cases side
    · rfl
    · exact (List.append_eq_nil_iff.mp hunwritten).2.symm

/-- What a tunnel does by itself keeps its books. -/
theorem move (h : Booked relay options least p t) (hreach : Reachable relay options p t)
    (hmove : Move t calls t') : Booked relay options least (p.work calls []) t' := by
  cases hmove with
  | begun hstage =>
    rw [Booked, hstage] at h
    rw [Passage.work_nil]
    exact h
  | reached _ hstage _ =>
    obtain ⟨hrelay, hoptions⟩ := hreach.settings
    rw [Booked, hstage] at h
    obtain ⟨huncounted, hnone, hunwritten⟩ := h
    rw [Passage.work_nil]
    refine ⟨huncounted, hnone, ?_⟩
    show p.given .relay ++ [] ++ openingRequest t.relay t.options.headers = _
    rw [(List.append_eq_nil_iff.mp hunwritten).1, hrelay, hoptions]
    rfl
  | @waited opening later link hstage hpoll =>
    have hrequest := Opening.outgoing_poll hpoll (by rintro _ ⟨⟩)
    rw [Booked, hstage] at h
    obtain ⟨huncounted, hnone, hsent⟩ := h
    rw [Passage.written, List.append_assoc] at hsent
    rw [Passage.work_nil]
    refine ⟨huncounted, hnone, ?_⟩
    show p.given .relay ++ link.outgoing ++ later.unsent = _
    rw [← hsent, List.append_assoc]
    exact congrArg (p.given .relay ++ ·) hrequest
  | @accepted _ _ link destination hstage hpoll _ hempty =>
    have hopened := h.opened hreach hstage hpoll destination
    rw [hempty, List.length_nil, Wires.count_zero] at hopened
    rw [Passage.work_nil]
    exact hopened
  | paid hfirst _ =>
    obtain ⟨hnone, ledger, hledger, hleast⟩ := h.firstPayload hreach hfirst
    rw [Passage.work_nil]
    exact ⟨hnone, ledger, hledger.of_same rfl rfl rfl (fun _ => rfl) (fun _ => rfl) rfl rfl, hleast⟩
  | joined _ now hstage _ =>
    obtain ⟨hcalls, ledger, hledger, hleast⟩ := h.renewed hreach hstage
    rw [Passage.work_nil]
    exact Forwarding.isBooked_start hledger hcalls hleast _ _ now
  | inbound now hstage _ =>
    rw [Booked, hstage] at h
    exact h.inboundStep now
  | outbound now hstage _ =>
    rw [Booked, hstage] at h
    exact h.outboundStep now
  | watched now hstage _ =>
    rw [Booked, hstage] at h
    rw [Passage.work_nil]
    exact ⟨h.duplex, h.ledger⟩

/-- A tunnel that ends by itself has kept its books. -/
theorem stop (h : Booked relay options least p t) (hreach : Reachable relay options p t)
    (hstop : Stop t calls t' error) : Accounted relay options least (p.work calls []) t' := by
  have hstate := hreach.state_eq
  cases hstop with
  | refused _ _ | unpaid _ _ | unreadable _ _ =>
    rw [Passage.work_nil]
    exact h.accounted hstate
  | relayUnusable _ hstage _ | unopened hstage _ | rejected hstage _ _ =>
    rw [Booked, hstage] at h
    rw [hstage] at hstate
    exact .of_connecting hstate h.1
  | dismissed hfirst _ =>
    obtain ⟨-, ledger, hledger⟩ := h.firstPayload hreach hfirst
    rw [Passage.work_nil]
    exact .of_connected (hfirst.state_eq hstate) ⟨ledger, _, _, hledger⟩
  | destinationUnusable _ hstage _ =>
    obtain ⟨-, ledger, hledger⟩ := h.renewed hreach hstage
    rw [hstage] at hstate
    rw [Passage.work_nil]
    exact .of_connected hstate ⟨ledger, _, _, hledger⟩
  | concluded now hstage hends =>
    rw [Booked, hstage] at h
    rw [hstage] at hstate
    obtain ⟨ledger, hledger⟩ := (h.concluded hends).ledger
    exact .of_connected hstate ⟨ledger, _, _, hledger⟩

/-- What the far ends do keeps the books. -/
theorem farEnds (h : Booked relay options least p t) {sent taken : Side → Bytes} {links : Side → Link}
    (hfarEnd : ∀ side, t.hasFarEnd side = false → sent side = [])
    (hincoming : ∀ side, (links side).incoming = (t.wires.link side).incoming ++ sent side)
    (houtgoing : ∀ side, (t.wires.link side).outgoing = taken side ++ (links side).outgoing)
    (hflushed : ∀ side, (links side).isFlushed = (t.wires.link side).isFlushed) :
    Booked relay options least (p.exchange sent taken) { t with wires := t.wires.relink links } := by
  have hwritten : ∀ side, (p.exchange sent taken).written (t.wires.relink links) side =
      p.written t.wires side := fun side => Passage.written_exchange (houtgoing side)
  have hunanswered : t.hasFarEnd .destination = false → Unanswered p t →
      Unanswered (p.exchange sent taken) { t with wires := t.wires.relink links } := by
    rintro hnone ⟨hsent, harrived⟩
    have hnothing := hfarEnd .destination hnone
    refine ⟨?_, ?_⟩
    · show p.sent .destination ++ sent .destination = []
      rw [hsent, hnothing]
      rfl
    · show (links .destination).incoming = []
      rw [hincoming, hnothing, List.append_nil]
      exact harrived
  have hall : HasBooks relay options least C p t.wires →
      HasBooks relay options least C (p.exchange sent taken) (t.wires.relink links) := by
    rintro ⟨ledger, inbound, outbound, hledger, hleast⟩
    exact ⟨ledger, inbound, outbound, hledger.farEnds hincoming houtgoing hflushed, hleast⟩
  have hstage : { t with wires := t.wires.relink links }.stage = t.stage := rfl
  rw [Booked] at h ⊢
  rw [hstage]
  generalize hbefore : t.stage = stage at h ⊢
  cases stage with
  | unstarted | dialingRelay | opening _ =>
    rw [hwritten]
    exact ⟨h.1, hunanswered (by rw [hasFarEnd, hbefore]) h.2.1, h.2.2⟩
  | awaitingPayload _ | dialingDestination _ _ =>
    obtain ⟨hnone, ledger, hledger, hleast⟩ := h
    exact ⟨hunanswered (by rw [hasFarEnd, hbefore]) hnone, ledger,
      hledger.farEnds hincoming houtgoing hflushed, hleast⟩
  | forwarding course =>
    obtain ⟨hduplex, ledger, hledger, hleast⟩ := h
    exact ⟨hduplex, ledger, hledger.farEnds hincoming houtgoing hflushed, hleast⟩
  | crashed => exact hall h
  | _ => exact h.imp (And.imp_right hall) id

/-- A tunnel that crashes keeps its books. -/
theorem crash (h : Booked relay options least p t) {course : Course C} (hstage : t.stage = .forwarding course) :
    Booked relay options least p t.crash := by
  rw [Booked, hstage] at h
  obtain ⟨ledger, hledger, hleast⟩ := h.ledger
  refine ⟨ledger, _, _, hledger.of_same rfl rfl rfl ?_ ?_ rfl rfl, hleast⟩
  · intro side
    cases side <;> rfl
  · intro side
    cases side <;> rfl

/-- Whatever happens to a tunnel, its books are kept, and nothing is taken out of them. -/
theorem step (h : Booked relay options least p t) (hreach : Reachable relay options p t)
    (hstep : Step p t p' t') : Booked relay options least p' t' := by
  have hstate := hreach.state_eq
  cases hstep with
  | moved hmove => exact h.move hreach hmove
  | @stopped calls t' error hstop =>
    have hlive := hstop.live hstate
    have htold := hreach.told.work hstate hreach.streaming (hstop.reports hstate) hlive calls
    have hgone := ((h.stop hreach hstop).tallied htold).destroy hlive error
    rwa [Passage.work_work, List.append_nil, List.nil_append] at hgone
  | destroyed error =>
    by_cases hgone : t.state = .destroyed
    · rw [destroy_of_destroyed hgone]
      exact h.of_same rfl rfl (List.append_nil _) rfl rfl rfl rfl rfl
    · exact ((h.accounted hstate).tallied hreach.told).destroy hgone error
  | crashed now hstage _ => exact h.crash hstage
  | farEnds sent taken links hfarEnd hincoming houtgoing hflushed =>
    exact h.farEnds hfarEnd hincoming houtgoing hflushed
  | collected => exact h.of_same rfl rfl rfl (List.append_nil _) rfl rfl rfl rfl

end Booked

/-- The books have been kept throughout a life. -/
theorem Reachable.booked (h : Reachable relay options p t) : Booked relay options none p t := by
  induction h with
  | spawned => exact ⟨⟨rfl, rfl⟩, ⟨rfl, rfl⟩, rfl⟩
  | step hreach hstep ih => exact ih.step hreach hstep

/-- There are books of a life, once the tunnel is connected, and else there is nothing in them. -/
theorem Reachable.tallied (h : Reachable relay options p t) (hbooked : Booked relay options least p t) :
    Tallied relay options least p t :=
  (hbooked.accounted h.state_eq).tallied h.told

/-- From when the tunnel is connected on, the books hold what they hold. -/
theorem Booked.raise {ledger : Ledger} (h : Booked relay options none p t)
    (hreach : Reachable relay options p t) (hconnected : .connected ∈ reported p t)
    (hledger : ledger.Describes C (baseline relay options) p t.wires) :
    Booked relay options (some ledger.total) p t := by
  have hsame : ∀ {other : Ledger} {inbound outbound : Flow},
      other.Balances C (baseline relay options) p t.wires inbound outbound → ledger.total ≤ other.total := by
    intro other inbound outbound hother
    exact Nat.le_of_eq (congrArg Ledger.total (hledger.unique hother.describes))
  have hnot : t.stage.state ≠ .connecting := by
    intro hstate
    have hlively := (hreach.told.lively (by rw [hreach.state_eq, hstate]; exact nofun)).1
    rw [hlively.connected_mem_iff, hreach.state_eq, hstate] at hconnected
    cases hconnected
  rw [Booked] at h ⊢
  generalize t.stage = stage at h hnot ⊢
  cases stage with
  | unstarted | dialingRelay | opening _ => exact absurd rfl hnot
  | awaitingPayload _ | dialingDestination _ _ =>
    obtain ⟨hnone, other, hother, -⟩ := h
    exact ⟨hnone, other, hother, hsame hother⟩
  | forwarding course =>
    obtain ⟨hduplex, other, hother, -⟩ := h
    exact ⟨hduplex, other, hother, hsame hother⟩
  | crashed =>
    obtain ⟨other, inbound, outbound, hother, -⟩ := h
    exact ⟨other, inbound, outbound, hother, hsame hother⟩
  | _ =>
    rcases h with ⟨-, other, inbound, outbound, hother, -⟩ | ⟨hnever, -⟩
    · exact .inl ⟨hconnected, other, inbound, outbound, hother, hsame hother⟩
    · exact absurd hconnected hnever

/-- Later in the same life. Once the tunnel is connected it stays so in the report, and its books only
grow. -/
structure Later (relay : Endpoint) (options : TunnelOptions) (p : Passage) (t : Tunnel C) (p' : Passage)
    (t' : Tunnel C) : Prop where
  reachable : Reachable relay options p' t'
  connected : .connected ∈ reported p t → .connected ∈ reported p' t'
  grows : .connected ∈ reported p t →
    Grows C (baseline relay options) p t.wires p' t'.wires

/-- At a later moment of a life, whatever was in the books still is. -/
structure KeepsBooks (relay : Endpoint) (options : TunnelOptions) (p : Passage) (t : Tunnel C) (p' : Passage)
    (t' : Tunnel C) : Prop where
  reachable : Reachable relay options p' t'
  booked {least : Option Nat} : Booked relay options least p t → Booked relay options least p' t'

/-- What is in the books stays there. -/
theorem lasting_keepsBooks (relay : Endpoint) (options : TunnelOptions) (p : Passage) (t : Tunnel C) :
    Lasting (KeepsBooks relay options p t) where
  state_eq h := h.reachable.state_eq
  step h hstep := ⟨h.reachable.step hstep, fun hbooked => (h.booked hbooked).step h.reachable hstep⟩

/-- Where whatever was in the books still is, they have only grown. -/
theorem KeepsBooks.later (hkept : KeepsBooks relay options p t p' t') (h : Reachable relay options p t) :
    Later relay options p t p' t' := by
  have hreach := hkept.reachable
  have hraised : .connected ∈ reported p t →
      .connected ∈ reported p' t' ∧ Grows C (baseline relay options) p t.wires p' t'.wires := by
    intro hconnected
    rcases h.tallied h.booked with ⟨-, ledger, inbound, outbound, hledger, -⟩ | ⟨hnever, -⟩
    · have hlater := hkept.booked (h.booked.raise h hconnected hledger.describes)
      rcases hreach.tallied hlater with ⟨hconnected', later, _, _, hbalances, hle⟩ | ⟨-, -, hnone⟩
      · exact ⟨hconnected', hledger.grows hbalances hle⟩
      · cases hnone
    · exact absurd hconnected hnever
  exact ⟨hreach, fun hconnected => (hraised hconnected).1, fun hconnected => (hraised hconnected).2⟩

/-! ## What is counted -/

/-- Whatever a tunnel lives through, before it is connected it has counted nothing, and from then on what it
has counted is the sum of what it has read from both sides, of the relay's stream what stands behind the head,
and of the pieces that it has written as a whole to the destination, and as a whole to the relay and flushed.
The counter shows this sum as far as 64 bits can tell. Nothing that happens takes anything off the sum, so the
counter never goes back as long as the sum fits. Forwarding that is started by itself counts in the same way
from where it starts; what had been read before is counted when it has been written. -/
theorem traffic_adds_up (C : Type) [BodyCompressor C] (relay : Endpoint) (options : TunnelOptions) :
    (∀ p (t : Tunnel C), Reachable relay options p t →
      ((.connected ∈ reported p t ∧ Counted C (baseline relay options) p t.wires) ∨
        (.connected ∉ reported p t ∧ t.wires.traffic = 0)) ∧
      (∀ p' t', Step p t p' t' → Later relay options p t p' t') ∧
      ∀ now, Leads (Later relay options p t) p (t.poll now) ∧
        ∀ handshake, Leads (Later relay options p t) p (t.connected now handshake)) ∧
    ∀ wires first idle begin_ p (f : Forwarding C), Forwarding.Relaying wires first idle begin_ p f →
      Counted C (Forwarding.baseline wires first) p f.toWires ∧
      (∀ now, Forwarding.Came (fun calls g =>
        Forwarding.Relaying wires first idle begin_ (p.work calls []) g ∧
          Grows C (Forwarding.baseline wires first) p f.toWires (p.work calls []) g.toWires)
        now [] (f.poll now)) ∧
      (∀ p' g, Forwarding.Advance p f p' g →
        Grows C (Forwarding.baseline wires first) p f.toWires p' g.toWires) ∧
      ∀ now calls g result, f.Concludes now calls g result →
        Counted C (Forwarding.baseline wires first) (p.work calls []) g.toWires ∧
          Grows C (Forwarding.baseline wires first) p f.toWires (p.work calls []) g.toWires := by
  constructor
  · intro p t hreach
    have hhere : KeepsBooks relay options p t p t := ⟨hreach, id⟩
    refine ⟨?_, ?_, fun now => ⟨?_, fun handshake => ?_⟩⟩
    · rcases hreach.tallied hreach.booked with ⟨hconnected, _, _, _, hledger, -⟩ | ⟨hnever, hnothing⟩
      · exact .inl ⟨hconnected, hledger.counts⟩
      · exact .inr ⟨hnever, hnothing.traffic_eq⟩
    · exact fun p' t' hstep => ((lasting_keepsBooks relay options p t).step hhere hstep).later hreach
    · obtain ⟨calls, ends, hkept⟩ := (lasting_keepsBooks relay options p t).poll hhere now
      exact ⟨calls, ends, hkept.later hreach⟩
    · obtain ⟨calls, ends, hkept⟩ := (lasting_keepsBooks relay options p t).connected hhere now handshake
      exact ⟨calls, ends, hkept.later hreach⟩
  · intro wires first idle begin_ p f hrelaying
    have hbooked := hrelaying.isBooked
    obtain ⟨ledger, hledger, -⟩ := hbooked.ledger
    have hgrows : ∀ {p' : Passage} {g : Forwarding C},
        Forwarding.IsBooked (Forwarding.baseline wires first) ledger.total p' g →
        Grows C (Forwarding.baseline wires first) p f.toWires p' g.toWires := by
      intro p' g hg
      obtain ⟨later, hlater, hle⟩ := hg.ledger
      exact hledger.grows hlater hle
    have hraised : Forwarding.IsBooked (Forwarding.baseline wires first) ledger.total p f :=
      ⟨hbooked.duplex, ledger, hledger, Nat.le_refl _⟩
    refine ⟨hledger.counts, fun now => ?_, fun p' g hadvance => hgrows (hadvance.isBooked hraised), ?_⟩
    · have hkept := Forwarding.kept_of_advance
        (P := fun p (g : Forwarding C) => Forwarding.Relaying wires first idle begin_ p g ∧
          Forwarding.IsBooked (Forwarding.baseline wires first) ledger.total p g)
        (fun h hadvance => ⟨h.1.advance hadvance, hadvance.isBooked h.2⟩) p now
      have hhere : Forwarding.Relaying wires first idle begin_ (p.work [] []) f ∧
          Forwarding.IsBooked (Forwarding.baseline wires first) ledger.total (p.work [] []) f := by
        rw [Passage.work_nil]
        exact ⟨hrelaying, hraised⟩
      exact (hkept.poll hhere).mono fun h => ⟨h.1, hgrows h.2⟩
    · intro now calls g result hends
      obtain ⟨final, hfinal, -⟩ := (hbooked.concluded hends).ledger
      exact ⟨hfinal.counts, hgrows (hraised.concluded hends)⟩

/-- A payload of three octets that came with the answer has been read and written when the tunnel is connected
to its destination. When forwarding is started with it by itself, it counts once. -/
theorem traffic_of_first_payload :
    (∃ p, Reachable ⟨"[::1]", 80, false, false, "/abc"⟩ ⟨.ofSeconds 30, []⟩ p answered ∧
      ∃ ledger : Ledger, ledger.Describes Compressor
          (baseline ⟨"[::1]", 80, false, false, "/abc"⟩ ⟨.ofSeconds 30, []⟩) p answered.wires ∧
        ledger.received = Ascii.bytes "GET" ∧ ledger.total % UInt64.size = 6 ∧ answered.wires.traffic = 6) ∧
    ∃ wires p, ∃ f : Forwarding,
      Forwarding.Relaying wires (Ascii.bytes "GET") (.ofSeconds 30) .zero p f ∧
      Counted Compressor (Forwarding.baseline wires (Ascii.bytes "GET")) p f.toWires ∧ f.traffic = 3 := by
  obtain ⟨hlives, hforwards⟩ :=
    traffic_adds_up Compressor ⟨"[::1]", 80, false, false, "/abc"⟩ ⟨.ofSeconds 30, []⟩
  constructor
  · obtain ⟨p, hreach, hsent, -, -⟩ := reachable_answered
    have htraffic : answered.wires.traffic = 6 := by decide +kernel
    rcases (hlives p answered hreach).1 with ⟨-, ⟨ledger, hledger⟩, hcounted⟩ | ⟨-, hnothing⟩
    · have hreceived : Headed (p.sent .relay) (ledger.received ++ answered.wires.relay.incoming) :=
        hledger.received
      have hbehind : behindHead welcome = Ascii.bytes "GET" := by decide +kernel
      have hread : answered.wires.relay.incoming = [] := by decide +kernel
      refine ⟨p, hreach, ledger, hledger, ?_, ?_, htraffic⟩
      · rw [hsent, hread, List.append_nil] at hreceived
        exact hreceived.behindHead_eq.symm.trans hbehind
      · have htotal : answered.wires.traffic = (0 + ledger.total) % UInt64.size := hcounted ledger hledger
        rw [Nat.zero_add] at htotal
        exact htotal.symm.trans htraffic
    · rw [htraffic] at hnothing
      cases hnothing
  · have hstart : Forwarding.Relaying { Wires.idle with relay := .fresh, destination := .fresh }
        (Ascii.bytes "GET") (.ofSeconds 30) .zero _ (_ : Forwarding) := .start
    have hwritten := (hstart.advance (.inbound .zero rfl)).advance (.inbound .zero rfl)
    exact ⟨_, _, _, hwritten, (hforwards _ _ _ _ _ _ hwritten).1, by decide +kernel⟩

end Tunnel

end RelayTunnel
