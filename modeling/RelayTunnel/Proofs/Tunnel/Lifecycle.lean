import RelayTunnel.Proofs.Tunnel.Delivery

/-!
# The life of a tunnel as its owner sees it

A tunnel reports `connected` once its relay has accepted it, then `activity` any number of times, and
then, once, `destroyed`. It may report `destroyed` without the others, and it reports nothing behind it.
The state moves along with what is reported.

A tunnel's own work and the calls to `destroy` can meet in any order. Three facts settle all of them:
what a piece of work reports follows from the state before it (`Move.reports`, `Stop.reports`), a piece
of work is only done by a tunnel that lives, and `destroy` reports in the first call and in no other
(`Told.destroy`).
-/

set_option autoImplicit false

namespace RelayTunnel

open Compression (BodyCompressor)
open Http (takeResponse)
open Transcode (Duplex DuplexCall)

/-- How the state of a tunnel can change. -/
inductive TunnelState.To : TunnelState → TunnelState → Prop where
  | stay (state : TunnelState) : To state state
  | connect : To .connecting .connected
  | destroy (state : TunnelState) : To state .destroyed

namespace Forwarding

variable {C : Type}

/-- An inbound step reports activity if it has read something, and nothing else. -/
theorem notices_inboundStep (now : Instant) (f : Forwarding C) :
    (f.inboundStep now).state.notices = f.notices ∨
      (f.inboundStep now).state.notices = f.notices ++ [.activity] := by
  refine inboundStep_cases (P := fun _ hop => hop.state.notices = f.notices ∨
    hop.state.notices = f.notices ++ [.activity]) now f ?_ ?_ ?_ ?_ ?_ ?_ ?_ ?_
  case refine_5 => exact fun octets link _ _ _ => Or.inr rfl
  all_goals intros; exact Or.inl rfl

variable [BodyCompressor C]

/-- An outbound step reports activity if it has read something, and nothing else. -/
theorem notices_outboundStep (now : Instant) (f : Forwarding C) :
    (f.outboundStep now).state.notices = f.notices ∨
      (f.outboundStep now).state.notices = f.notices ++ [.activity] := by
  refine outboundStep_cases (P := fun _ hop => hop.state.notices = f.notices ∨
    hop.state.notices = f.notices ++ [.activity]) now f ?_ ?_ ?_ ?_ ?_ ?_ ?_ ?_ ?_ ?_
  case refine_7 => exact fun octets link _ _ => Or.inr (congrArg Wires.notices (toWires_emit _ _ _ _))
  case refine_8 => exact fun link _ _ => Or.inl (congrArg Wires.notices (toWires_emit _ _ _ _))
  all_goals intros; exact Or.inl rfl

/-- Forwarding reports nothing else when it ends. -/
theorem Concludes.notices {now : Instant} {calls : List DuplexCall} {f g : Forwarding C}
    {result : Except TunnelError Closing} (h : f.Concludes now calls g result) :
    g.notices = f.notices ∨ g.notices = f.notices ++ [.activity] := by
  cases h with
  | inbound hdone =>
    have hstep := f.notices_inboundStep now
    rwa [hdone] at hstep
  | outbound hdone =>
    have hstep := f.notices_outboundStep now
    rwa [hdone] at hstep
  | silent _ => exact Or.inl rfl

end Forwarding

namespace Tunnel

variable {C : Type} [BodyCompressor C]
variable {relay : Endpoint} {options : TunnelOptions} {p : Passage} {t t' : Tunnel C}
variable {calls : List DuplexCall} {error : Option TunnelError}

/-- The relay has accepted the session: its answer has status 200 and names a destination. -/
def Accepted (stream : Bytes) : Prop :=
  ∃ taken url destination, takeResponse stream = .ok (some taken) ∧
    taken.head.status.code = 200 ∧
    taken.head.fields.text? (Ascii.bytes "X-RV-Host") = some url ∧
    Endpoint.parse url = .ok destination

/-- A stream that names a destination has been accepted. -/
theorem accepted_of_destinationOf {stream : Bytes} {taken : Http.Taken Http.ResponseHead}
    {destination : Endpoint} (htake : takeResponse stream = .ok (some taken))
    (h : destinationOf taken.head = .ok destination) : Accepted stream := by
  rw [destinationOf] at h
  split at h
  · cases h
  · next hstatus =>
    split at h
    · cases h
    · next url htext =>
      split at h
      · cases h
      · next found hparse =>
        exact ⟨taken, url, found, htake, Decidable.not_not.mp hstatus, htext, hparse⟩

/-- More of a stream does not take the acceptance back. -/
theorem Accepted.append {stream : Bytes} (h : Accepted stream) (more : Bytes) :
    Accepted (stream ++ more) := by
  obtain ⟨taken, url, destination, htake, hstatus, htext, hparse⟩ := h
  exact ⟨_, url, destination, Http.takeResponse_append htake more, hstatus, htext, hparse⟩

/-! ## What a piece of work reports -/

/-- What a tunnel reports while it goes from one state to another without ending. -/
inductive Reports (t t' : Tunnel C) : Prop where
  | nothing : t'.state = t.state → t'.wires.notices = t.wires.notices → Reports t t'
  | activity : t.state = .connected → t'.state = .connected →
      t'.wires.notices = t.wires.notices ++ [.activity] → Reports t t'
  | connected {opening : Opening} {opened : Opened} {link : Link} {destination : Endpoint}
      (activities : Nat) :
      t.stage = .opening opening → opening.poll t.wires.relay = (.done (.ok opened), link) →
      destinationOf opened.head = .ok destination → t'.state = .connected →
      t'.wires.notices =
        t.wires.notices ++ .connected :: List.replicate activities .activity →
      Reports t t'

omit [BodyCompressor C] in
/-- Forwarding that reports nothing, or activity, lets the tunnel report so. -/
theorem reports_during {course : Course C} (hstate : t.state = t.stage.state)
    (hstage : t.stage = .forwarding course) {f : Forwarding C}
    (h : f.notices = t.wires.notices ∨ f.notices = t.wires.notices ++ [.activity]) :
    Reports t (t.during f) := by
  rw [hstage] at hstate
  rcases h with hnone | hactivity
  · exact .nothing rfl hnone
  · exact .activity hstate hstate hactivity

/-- Every move reports in one of these ways. -/
theorem Move.reports (h : Move t calls t') (hstate : t.state = t.stage.state) : Reports t t' := by
  cases h with
  | begun _ | reached _ _ _ | waited _ _ | joined _ _ _ _ | watched _ _ _ => exact .nothing rfl rfl
  | inbound now hstage _ =>
    exact reports_during hstate hstage (Forwarding.notices_inboundStep now _)
  | outbound now hstage _ =>
    exact reports_during hstate hstage (Forwarding.notices_outboundStep now _)
  | accepted hstage hpoll hdestination _ => exact .connected 0 hstage hpoll hdestination rfl rfl
  | paid hfirst _ =>
    cases hfirst with
    | behindAnswer hstage hpoll hdestination _ =>
      exact .connected 1 hstage hpoll hdestination rfl (List.append_assoc _ _ _)
    | read hstage _ =>
      rw [hstage] at hstate
      exact .activity hstate hstate rfl

/-- So does a tunnel that ends by itself, before its end. -/
theorem Stop.reports (h : Stop t calls t' error) (hstate : t.state = t.stage.state) :
    Reports t t' := by
  cases h with
  | refused _ _ | relayUnusable _ _ _ | unopened _ _ | rejected _ _ _ | unpaid _ _ | unreadable _ _
  | destinationUnusable _ _ _ => exact .nothing rfl rfl
  | dismissed hfirst _ =>
    cases hfirst with
    | behindAnswer hstage hpoll hdestination _ =>
      exact .connected 0 hstage hpoll hdestination rfl rfl
    | read _ _ => exact .nothing rfl rfl
  | concluded now hstage hends => exact reports_during hstate hstage hends.notices

omit [BodyCompressor C] in
/-- What is reported goes with how the state changes. -/
theorem Reports.to (h : Reports t t') (hstate : t.state = t.stage.state) :
    t.state.To t'.state := by
  cases h with
  | nothing hsame _ =>
    rw [hsame]
    exact .stay _
  | activity hbefore hafter _ =>
    rw [hbefore, hafter]
    exact .stay _
  | connected _ hstage _ _ hafter _ =>
    rw [hstate, hstage, hafter]
    exact .connect

/-- A tunnel that moves is alive. -/
theorem Move.live (h : Move t calls t') (hstate : t.state = t.stage.state) :
    t'.state ≠ .destroyed := by
  rw [h.state_eq hstate]
  cases h <;> simp [during, accept, Stage.state]

/-! ## What has been reported -/

/-- All that a tunnel has reported, whether its owner has been told or not. -/
def reported (p : Passage) (t : Tunnel C) : List Notice := p.told ++ t.wires.notices

/-- What a tunnel that lives has reported, by its state. -/
inductive Lively (stream : Bytes) : TunnelState → List Notice → Prop where
  | connecting : Lively stream .connecting []
  | connected (activities : Nat) : Accepted stream →
      Lively stream .connected (.connected :: List.replicate activities .activity)

namespace Lively

variable {stream : Bytes} {state : TunnelState} {notices : List Notice}

/-- More of a stream changes nothing about what was reported. -/
theorem append (h : Lively stream state notices) (more : Bytes) :
    Lively (stream ++ more) state notices := by
  cases h with
  | connecting => exact .connecting
  | connected activities haccepted => exact .connected activities (haccepted.append more)

/-- A tunnel that is connected has been accepted. -/
theorem accepted (h : Lively stream .connected notices) : Accepted stream := by
  cases h with
  | connected _ haccepted => exact haccepted

/-- A tunnel that is connected may report activity once more. -/
theorem activity (h : Lively stream .connected notices) :
    Lively stream .connected (notices ++ [.activity]) := by
  cases h with
  | connected activities haccepted =>
    have hmore : .connected :: List.replicate activities .activity ++ [Notice.activity] =
        .connected :: List.replicate (activities + 1) .activity := by
      rw [List.replicate_succ', List.cons_append]
    rw [hmore]
    exact .connected (activities + 1) haccepted

/-- A tunnel that is accepted reports the connection, and then activity. -/
theorem connect (h : Lively stream .connecting notices) (haccepted : Accepted stream)
    (activities : Nat) :
    Lively stream .connected (notices ++ .connected :: List.replicate activities .activity) := by
  cases h with
  | connecting => exact .connected activities haccepted

/-- What is reported in a move keeps a tunnel lively. -/
theorem reports (h : Lively (p.sent .relay) t.state (reported p t))
    (hstate : t.state = t.stage.state)
    (hstreaming : Streaming (p.sent .relay) (p.given .destination) p.calls t)
    (hreports : Reports t t') :
    Lively (p.sent .relay) t'.state (reported (p.work calls []) t') := by
  show Lively _ _ (p.told ++ t'.wires.notices)
  cases hreports with
  | nothing hsame hnotices =>
    rw [hsame, hnotices]
    exact h
  | activity hbefore hafter hnotices =>
    rw [hbefore] at h
    rw [hafter, hnotices, ← List.append_assoc]
    exact h.activity
  | connected activities hstage hpoll hdestination hafter hnotices =>
    have haccepted := accepted_of_destinationOf (hstreaming.answers hstage hpoll) hdestination
    rw [hstate, hstage] at h
    rw [hafter, hnotices, ← List.append_assoc]
    exact h.connect haccepted activities

end Lively

/-- What a tunnel has reported. Once it is gone, this ends with the reason that was given first. -/
inductive Told (p : Passage) (t : Tunnel C) : Prop where
  | living : Lively (p.sent .relay) t.state (reported p t) → p.ends = [] → Told p t
  | gone {state : TunnelState} {before : List Notice} {error : Option TunnelError} :
      Lively (p.sent .relay) state before → t.state = .destroyed →
      reported p t = before ++ [.destroyed error] → p.ends.head? = some error → Told p t

namespace Told

omit [BodyCompressor C] in
/-- A tunnel that lives has given no reason to end. -/
theorem lively (h : Told p t) (hlive : t.state ≠ .destroyed) :
    Lively (p.sent .relay) t.state (reported p t) ∧ p.ends = [] := by
  cases h with
  | living hlively hends => exact ⟨hlively, hends⟩
  | gone _ hgone _ _ => exact absurd hgone hlive

/-- Work that leaves the tunnel alive keeps what it has told. -/
theorem work (h : Told p t) (hstate : t.state = t.stage.state)
    (hstreaming : Streaming (p.sent .relay) (p.given .destination) p.calls t)
    (hreports : Reports t t') (hlive : t'.state ≠ .destroyed) (calls : List DuplexCall) :
    Told (p.work calls []) t' := by
  have hbefore : t.state ≠ .destroyed := by
    intro hgone
    have hto := hreports.to hstate
    rw [hgone] at hto
    generalize t'.state = after at hto hlive
    cases hto <;> exact hlive rfl
  obtain ⟨hlively, hends⟩ := h.lively hbefore
  exact .living (hlively.reports hstate hstreaming hreports) ((List.append_nil _).trans hends)

omit [BodyCompressor C] in
/-- Only the first call to `destroy` has an effect. -/
theorem destroy (h : Told p t) (error : Option TunnelError) :
    Told (p.work [] [error]) (t.destroy error) := by
  by_cases hgone : t.state = .destroyed
  · rw [destroy_of_destroyed hgone]
    cases h with
    | living hlively _ => rw [hgone] at hlively; cases hlively
    | gone hlively _ hreported hfirst =>
      refine .gone hlively hgone hreported ?_
      show (p.ends ++ [error]).head? = _
      rw [List.head?_append, hfirst]
      rfl
  · obtain ⟨hlively, hends⟩ := h.lively hgone
    have hfirst : (p.work [] [error]).ends.head? = some error := by
      rw [Passage.work, hends]
      rfl
    refine .gone hlively (state_destroy t error) ?_ hfirst
    rw [destroy_of_live hgone, reported, reported, List.append_assoc]
    rfl

omit [BodyCompressor C] in
/-- What the far ends do tells nothing. -/
theorem farEnds (h : Told p t) (sent taken : Side → Bytes) (links : Side → Link) :
    Told (p.exchange sent taken) { t with wires := t.wires.relink links } := by
  cases h with
  | living hlively hends => exact .living (hlively.append (sent .relay)) hends
  | gone hlively hgone hreported hfirst =>
    exact .gone (hlively.append (sent .relay)) hgone hreported hfirst

omit [BodyCompressor C] in
/-- A tunnel that crashes reports nothing. -/
theorem crash (h : Told p t) : Told p t.crash := by
  cases h with
  | living hlively hends => exact .living hlively hends
  | gone hlively hgone hreported hfirst => exact .gone hlively hgone hreported hfirst

omit [BodyCompressor C] in
/-- What the owner has collected has been told. -/
theorem collected (h : Told p t) :
    Told (p.tell t.wires.notices) { t with wires := { t.wires with notices := [] } } := by
  have hsame : reported (p.tell t.wires.notices) { t with wires := { t.wires with notices := [] } } =
      reported p t := List.append_nil _
  cases h with
  | living hlively hends => exact .living (hsame ▸ hlively) hends
  | gone hlively hgone hreported hfirst =>
    exact .gone hlively hgone (hsame.trans hreported) hfirst

end Told

/-- In every life, this is what a tunnel has reported. -/
theorem Reachable.told (h : Reachable relay options p t) : Told p t := by
  induction h with
  | spawned => exact .living .connecting rfl
  | @step p p' t t' hreach hstep ih =>
    have hstate := hreach.state_eq
    cases hstep with
    | moved hmove =>
      exact ih.work hstate hreach.streaming (hmove.reports hstate) (hmove.live hstate) _
    | @stopped calls t' error hstop =>
      have hworked := ih.work hstate hreach.streaming (hstop.reports hstate) (hstop.live hstate) calls
      have hgone := hworked.destroy error
      rwa [Passage.work_work, List.append_nil, List.nil_append] at hgone
    | destroyed error => exact ih.destroy error
    | crashed now _ _ => exact ih.crash
    | farEnds sent taken links _ _ _ _ => exact ih.farEnds sent taken links
    | collected => exact ih.collected

/-- With every step, the state changes in one of these ways. -/
theorem Step.to {p' : Passage} (h : Step p t p' t') (hstate : t.state = t.stage.state) :
    t.state.To t'.state := by
  cases h with
  | moved hmove => exact (hmove.reports hstate).to hstate
  | stopped _ | destroyed _ =>
    rw [state_destroy]
    exact .destroy _
  | crashed _ _ _ | farEnds _ _ _ _ _ _ _ | collected => exact .stay _

/-- A tunnel that is gone does nothing any more, whatever it is told. -/
structure Inert (t : Tunnel C) : Prop where
  destroy : ∀ error, t.destroy error = t
  poll : ∀ now, t.poll now = t
  connected : ∀ now handshake, t.connected now handshake = t
  refused : ∀ reason, t.refused reason = t

/-- In every life, a tunnel that is gone is inert. -/
theorem Reachable.inert (h : Reachable relay options p t) (hgone : t.state = .destroyed) :
    Inert t := by
  have hstage : t.stage = .over := by
    have hstate := h.state_eq
    rw [hgone] at hstate
    generalize t.stage = stage at hstate ⊢
    cases stage <;> first | rfl | cases hstate
  refine ⟨fun error => destroy_of_destroyed hgone error, fun now => ?_, fun now handshake => ?_,
    fun reason => ?_⟩
  · simp only [Tunnel.poll, hstage]
  · simp only [Tunnel.connected, hstage]
  · simp only [Tunnel.refused, dial?, hstage]

/-- Whatever a tunnel lives through, it reports `connected` and activity only after its relay has
accepted it, and in the end the first reason for which it was to end, once and with nothing behind
it. Its state never goes back, and nothing that comes later has an effect. -/
theorem reachable_lifecycle (h : Reachable relay options p t) :
    Told p t ∧ (∀ p' t', Step p t p' t' → t.state.To t'.state) ∧
      (t.state = .destroyed → Inert t) :=
  ⟨h.told, fun _ _ hstep => hstep.to h.state_eq, h.inert⟩

/-- A tunnel that is told to end twice reports the first reason. -/
theorem lifecycle_destroyed_twice :
    ∃ p, Reachable ⟨"[::1]", 80, false, false, "/abc"⟩ ⟨.ofSeconds 30, []⟩ p
        ((answered.destroy none).destroy (some .openingClosed)) ∧
      Told p ((answered.destroy none).destroy (some .openingClosed)) ∧
      reported p ((answered.destroy none).destroy (some .openingClosed)) =
        [.connected, .activity, .destroyed none] := by
  obtain ⟨p, hreach, -, -, htold⟩ := reachable_answered
  have hgone := (hreach.step (.destroyed none)).step (.destroyed (some .openingClosed))
  refine ⟨_, hgone, (reachable_lifecycle hgone).1, ?_⟩
  show p.told ++ _ = _
  rw [htold]
  decide +kernel

end Tunnel

end RelayTunnel
