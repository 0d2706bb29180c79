import RelayTunnel.Crew
import RelayTunnel.Proofs.Tunnel.Running

/-!
# What a tunnel can live through

A tunnel works whenever it is polled, and `Move` and `Stop` cut that work into the smallest pieces
whose order can be told apart from outside: a connection that is used, a payload that is taken, a step
of one direction. A life consists of such pieces, of what the far ends of the connections do, of
notices that are collected, and of calls to `destroy`, in any order. Where a real tunnel would be
interrupted only between two polls, a life can be interrupted between any two pieces.

`Passage` writes down what went in and out. `Lasting.poll`, `Lasting.connected` and `Lasting.refused` say
that the operations of a tunnel are made of these pieces and of nothing else: what each piece keeps, they
keep.
-/

set_option autoImplicit false

namespace RelayTunnel

open Compression (BodyCompressor)
open Transcode (DuplexCall)

/-- What has passed between a tunnel and everything around it. -/
structure Passage where
  /-- What the far end of each connection has sent. -/
  sent : Side → Bytes
  /-- What the far end of each connection has been given. -/
  given : Side → Bytes
  /-- The calls to the duplex. -/
  calls : List DuplexCall
  /-- What the owner has been told. -/
  told : List Notice
  /-- What each call to `destroy` gave as the reason, the tunnel's own call included. -/
  ends : List (Option TunnelError)

namespace Passage

/-- Nothing has passed yet. -/
def blank : Passage := ⟨fun _ => [], fun _ => [], [], [], []⟩

/-- The tunnel has called the duplex, and it has been told to end. -/
def work (p : Passage) (calls : List DuplexCall) (ends : List (Option TunnelError)) : Passage :=
  { p with calls := p.calls ++ calls, ends := p.ends ++ ends }

/-- The far ends have sent something and been given something. -/
def exchange (p : Passage) (sent taken : Side → Bytes) : Passage :=
  { p with
    sent := fun side => p.sent side ++ sent side
    given := fun side => p.given side ++ taken side }

/-- The owner has been told something. -/
def tell (p : Passage) (notices : List Notice) : Passage := { p with told := p.told ++ notices }

/-- To do nothing passes nothing. -/
theorem work_nil (p : Passage) : p.work [] [] = p := by
  rw [work, List.append_nil, List.append_nil]

/-- Work may be done in two parts. -/
theorem work_work (p : Passage) (calls more : List DuplexCall)
    (ends later : List (Option TunnelError)) :
    (p.work calls ends).work more later = p.work (calls ++ more) (ends ++ later) := by
  simp only [work, List.append_assoc]

end Passage

/-- Both connections replaced by others. -/
def Wires.relink (w : Wires) (links : Side → Link) : Wires :=
  { w with relay := links .relay, destination := links .destination }

/-- A connection that is changed replaces the one there was. -/
theorem Wires.relink_modifyLink (w : Wires) (side : Side) (change : Link → Link) :
    w.relink (w.modifyLink side change).link = w.modifyLink side change := by
  cases side <;> rfl

/-- To change one connection leaves the other as it is. -/
theorem Wires.link_modifyLink (w : Wires) (side other : Side) (change : Link → Link) :
    (w.modifyLink side change).link other =
      if other = side then change (w.link side) else w.link other := by
  cases side <;> cases other <;> rfl

/-- Octets at one side and none at the other. -/
def Side.only (side : Side) (octets : Bytes) (other : Side) : Bytes :=
  if other = side then octets else []

/-- Why a tunnel ends whose forwarding has ended. -/
def Forwarding.reason : Except TunnelError Closing → Option TunnelError
  | .ok _ => none
  | .error error => some error

/-- The state of a tunnel at a stage. A tunnel that has crashed has not been told that it is gone. -/
def Stage.state {C : Type} : Stage C → TunnelState
  | .unstarted | .dialingRelay | .opening _ => .connecting
  | .awaitingPayload _ | .dialingDestination .. | .forwarding _ | .crashed => .connected
  | .over => .destroyed

namespace Tunnel

variable {C : Type}

/-! ## The pieces -/

/-- A tunnel whose forwarding is in a given state. -/
def during (t : Tunnel C) (f : Forwarding C) : Tunnel C :=
  { t with stage := .forwarding f.toCourse, wires := f.toWires }

/-- A tunnel that the relay has accepted; `link` is what its answer leaves of the connection. -/
def accept (t : Tunnel C) (link : Link) (destination : Endpoint) : Tunnel C :=
  { t with
    state := .connected
    stage := .awaitingPayload destination
    wires := { t.wires with relay := link }.report .connected }

/-- The first payload, and the tunnel that has just got hold of it. -/
inductive FirstPayload (t : Tunnel C) : Endpoint → Bytes → Tunnel C → Prop where
  /-- It came in the same reads as the answer. -/
  | behindAnswer {opening : Opening} {opened : Opened} {link : Link} {destination : Endpoint} :
      t.stage = .opening opening → opening.poll t.wires.relay = (.done (.ok opened), link) →
      destinationOf opened.head = .ok destination → opened.leftover ≠ [] →
      FirstPayload t destination opened.leftover (t.accept link destination)
  | read {destination : Endpoint} {payload : Bytes} {link : Link} :
      t.stage = .awaitingPayload destination →
      t.wires.relay.read payloadLimit = (.data payload, link) →
      FirstPayload t destination payload { t with wires := { t.wires with relay := link } }

section Pieces

variable [BodyCompressor C]

/-- What a tunnel does by itself without ending, with the calls that it makes to the duplex. A connection
that is to be encrypted comes with what its handshake has come to. -/
inductive Move (t : Tunnel C) : List DuplexCall → Tunnel C → Prop where
  | begun : t.stage = .unstarted → Move t [] { t with stage := .dialingRelay }
  | reached (handshake : Handshake) :
      t.stage = .dialingRelay → transportFault? t.relay handshake = none →
      Move t [] { t with
        stage := .opening (.start t.relay t.options.headers)
        wires := { t.wires with relay := .fresh } }
  | waited {opening later : Opening} {link : Link} :
      t.stage = .opening opening → opening.poll t.wires.relay = (.waiting later, link) →
      Move t [] { t with stage := .opening later, wires := { t.wires with relay := link } }
  | accepted {opening : Opening} {opened : Opened} {link : Link} {destination : Endpoint} :
      t.stage = .opening opening → opening.poll t.wires.relay = (.done (.ok opened), link) →
      destinationOf opened.head = .ok destination → opened.leftover = [] →
      Move t [] (t.accept link destination)
  | paid {destination : Endpoint} {payload : Bytes} {t' : Tunnel C} :
      FirstPayload t destination payload t' → Dismissal.ofPayload? payload = none →
      Move t [] { t' with
        stage := .dialingDestination destination payload
        wires := (t'.wires.count payload.length).report .activity }
  | joined {destination : Endpoint} {payload : Bytes} (handshake : Handshake) (now : Instant) :
      t.stage = .dialingDestination destination payload →
      transportFault? destination handshake = none →
      Move t [] (t.during (.start { t.wires with destination := .fresh } payload
          t.options.destinationTimeout now))
  | inbound {course : Course C} (now : Instant) :
      t.stage = .forwarding course →
      (Forwarding.inboundStep now ⟨t.wires, course⟩).result? = none →
      Move t (Forwarding.inboundCalls ⟨t.wires, course⟩)
        (t.during (Forwarding.inboundStep now ⟨t.wires, course⟩).state)
  | outbound {course : Course C} (now : Instant) :
      t.stage = .forwarding course →
      (Forwarding.outboundStep now ⟨t.wires, course⟩).result? = none →
      Move t (Forwarding.outboundCalls ⟨t.wires, course⟩)
        (t.during (Forwarding.outboundStep now ⟨t.wires, course⟩).state)
  | watched {course : Course C} {watch : IdleWatch} (now : Instant) :
      t.stage = .forwarding course → course.watch.look now = .watching watch →
      Move t [] { t with stage := .forwarding { course with watch := watch } }

/-- What makes a tunnel end by itself: the tunnel when it comes to that, the calls that it has made to
the duplex, and the reason. -/
inductive Stop (t : Tunnel C) : List DuplexCall → Tunnel C → Option TunnelError → Prop where
  | refused {endpoint : Endpoint} (reason : String) :
      t.dial? = some endpoint → Stop t [] t (some (.io reason))
  | relayUnusable {error : TunnelError} (handshake : Handshake) :
      t.stage = .dialingRelay → transportFault? t.relay handshake = some error →
      Stop t [] { t with wires := { t.wires with relay := .fresh } } (some error)
  | unopened {opening : Opening} {error : TunnelError} {link : Link} :
      t.stage = .opening opening → opening.poll t.wires.relay = (.done (.error error), link) →
      Stop t [] { t with wires := { t.wires with relay := link } } (some error)
  | rejected {opening : Opening} {opened : Opened} {link : Link} {error : TunnelError} :
      t.stage = .opening opening → opening.poll t.wires.relay = (.done (.ok opened), link) →
      destinationOf opened.head = .error error →
      Stop t [] { t with wires := { t.wires with relay := link } } (some error)
  | unpaid {destination : Endpoint} {link : Link} :
      t.stage = .awaitingPayload destination → t.wires.relay.read payloadLimit = (.ended, link) →
      Stop t [] t none
  | unreadable {destination : Endpoint} {reason : String} {link : Link} :
      t.stage = .awaitingPayload destination →
      t.wires.relay.read payloadLimit = (.failed reason, link) →
      Stop t [] t (some (.io reason))
  | dismissed {destination : Endpoint} {payload : Bytes} {dismissal : Dismissal} {t' : Tunnel C} :
      FirstPayload t destination payload t' → Dismissal.ofPayload? payload = some dismissal →
      Stop t [] { t' with wires := t'.wires.count payload.length }
        (some (.serverDisconnect dismissal.status))
  | destinationUnusable {destination : Endpoint} {payload : Bytes} {error : TunnelError}
      (handshake : Handshake) :
      t.stage = .dialingDestination destination payload →
      transportFault? destination handshake = some error →
      Stop t [] { t with wires := { t.wires with destination := .fresh } } (some error)
  | concluded {course : Course C} {calls : List DuplexCall} {f : Forwarding C}
      {result : Except TunnelError Closing} (now : Instant) :
      t.stage = .forwarding course → Forwarding.Concludes now ⟨t.wires, course⟩ calls f result →
      Stop t calls (t.during f) (Forwarding.reason result)

/-- Whether there can be a far end that sends something. -/
def hasFarEnd (t : Tunnel C) : Side → Bool
  | .relay =>
      match t.stage with
      | .unstarted | .dialingRelay => false
      | _ => true
  | .destination =>
      match t.stage with
      | .forwarding _ | .crashed | .over => true
      | _ => false

/-- What can happen to a tunnel. The far ends may do all that is not excluded: what has arrived stays
in front of what arrives, what has been written is carried away from the front, and only the tunnel
flushes. -/
inductive Step (p : Passage) (t : Tunnel C) : Passage → Tunnel C → Prop where
  | moved {calls : List DuplexCall} {t' : Tunnel C} : Move t calls t' → Step p t (p.work calls []) t'
  | stopped {calls : List DuplexCall} {t' : Tunnel C} {error : Option TunnelError} :
      Stop t calls t' error → Step p t (p.work calls [error]) (t'.destroy error)
  | destroyed (error : Option TunnelError) : Step p t (p.work [] [error]) (t.destroy error)
  | crashed {course : Course C} (now : Instant) :
      t.stage = .forwarding course → course.watch.look now = .lost → Step p t p t.crash
  | farEnds (sent taken : Side → Bytes) (links : Side → Link) :
      (∀ side, t.hasFarEnd side = false → sent side = []) →
      (∀ side, (links side).incoming = (t.wires.link side).incoming ++ sent side) →
      (∀ side, (t.wires.link side).outgoing = taken side ++ (links side).outgoing) →
      (∀ side, (links side).isFlushed = (t.wires.link side).isFlushed) →
      Step p t (p.exchange sent taken) { t with wires := t.wires.relink links }
  | collected :
      Step p t (p.tell t.wires.notices) { t with wires := { t.wires with notices := [] } }

/-- What a tunnel can have lived through, and the tunnel that has. -/
inductive Reachable (relay : Endpoint) (options : TunnelOptions) : Passage → Tunnel C → Prop where
  | spawned : Reachable relay options .blank (.spawn relay options)
  | step {p p' : Passage} {t t' : Tunnel C} :
      Reachable relay options p t → Step p t p' t' → Reachable relay options p' t'

end Pieces

/-! ## The state is read off the stage -/

section

variable {relay : Endpoint} {options : TunnelOptions} {p p' : Passage} {t t' : Tunnel C}
variable {calls : List DuplexCall} {error : Option TunnelError}

/-- A tunnel that forwards is the one whose forwarding is as it is. -/
theorem during_self {course : Course C} (h : t.stage = .forwarding course) :
    t.during ⟨t.wires, course⟩ = t := by
  rw [during, ← h]

/-- A tunnel that has got hold of the first payload is connected. -/
theorem FirstPayload.state_eq {destination : Endpoint} {payload : Bytes}
    (h : FirstPayload t destination payload t') (hstate : t.state = t.stage.state) :
    t'.state = .connected := by
  cases h with
  | behindAnswer _ _ _ _ => rfl
  | read hstage _ =>
    rw [hstage] at hstate
    exact hstate

/-- A tunnel that is alive stops, and tells that it is gone. -/
theorem destroy_of_live (h : t.state ≠ .destroyed) (error : Option TunnelError) :
    t.destroy error =
      { t with
        state := .destroyed
        stage := .over
        wires := t.wires.close.report (.destroyed error) } := by
  rw [destroy]
  split
  · next hgone => exact absurd hgone h
  · rfl

/-- A tunnel ends only once. -/
theorem destroy_of_destroyed (h : t.state = .destroyed) (error : Option TunnelError) :
    t.destroy error = t := by
  rw [destroy, h]

/-- A tunnel that is destroyed is gone. -/
theorem state_destroy (t : Tunnel C) (error : Option TunnelError) :
    (t.destroy error).state = .destroyed := by
  rw [destroy]
  split
  · next hgone => exact hgone
  · rfl

/-- What a tunnel was doing does not matter when it ends. -/
theorem destroy_of_stage (hlive : t.state ≠ .destroyed) (stage : Stage C) (wires : Wires)
    (error : Option TunnelError) :
    { t with stage := stage, wires := wires }.destroy error =
      { t with wires := wires }.destroy error := by
  rw [destroy_of_live, destroy_of_live] <;> exact hlive

/-- What an opening comes to does not depend on the stage. -/
theorem pollOpening_of_stage (hlive : t.state ≠ .destroyed) (stage : Stage C) (wires : Wires)
    (opening : Opening) :
    { t with stage := stage, wires := wires }.pollOpening opening =
      { t with wires := wires }.pollOpening opening := by
  rw [pollOpening, pollOpening]
  rcases opening.poll wires.relay with ⟨later | error | opened, link⟩
  · rfl
  · exact destroy_of_stage hlive stage { wires with relay := link } (some error)
  · dsimp only
    rw [takeAnswer, takeAnswer]
    cases destinationOf opened.head with
    | error error => exact destroy_of_stage hlive stage { wires with relay := link } (some error)
    | ok destination => rfl

variable [BodyCompressor C]

/-- A piece of work keeps the state in step with the stage. -/
theorem Move.state_eq (h : Move t calls t') (hstate : t.state = t.stage.state) :
    t'.state = t'.stage.state := by
  cases h with
  | begun hstage | reached _ hstage _ | waited hstage _ | joined _ _ hstage _ | inbound _ hstage _
  | outbound _ hstage _ | watched _ hstage _ =>
    rw [hstage] at hstate
    exact hstate
  | accepted _ _ _ _ => rfl
  | paid hfirst _ => exact hfirst.state_eq hstate

/-- A tunnel that ends by itself was not gone before. -/
theorem Stop.live (h : Stop t calls t' error) (hstate : t.state = t.stage.state) :
    t'.state ≠ .destroyed := by
  cases h with
  | refused reason hdial =>
    intro hgone
    rw [hstate] at hgone
    cases hstage : t.stage <;> rw [hstage] at hgone <;> try cases hgone
    rw [dial?, hstage] at hdial
    cases hdial
  | dismissed hfirst _ =>
    show _ ≠ _
    rw [hfirst.state_eq hstate]
    exact nofun
  | relayUnusable _ hstage _ | unopened hstage _ | rejected hstage _ _ | unpaid hstage _
  | unreadable hstage _ | destinationUnusable _ hstage _ | concluded _ hstage _ =>
    rw [hstage] at hstate
    show t.state ≠ _
    rw [hstate]
    exact nofun

/-- The state of a tunnel is that of its stage. -/
theorem Reachable.state_eq (h : Reachable relay options p t) : t.state = t.stage.state := by
  induction h with
  | spawned => rfl
  | @step p p' t t' _ hstep ih =>
    cases hstep with
    | moved hmove => exact hmove.state_eq ih
    | stopped hstop =>
      rw [destroy_of_live (hstop.live ih)]
      rfl
    | destroyed error =>
      by_cases hgone : t.state = .destroyed
      · rw [destroy_of_destroyed hgone]
        exact ih
      · rw [destroy_of_live hgone]
        rfl
    | crashed now hstage _ =>
      rw [hstage] at ih
      exact ih
    | farEnds _ _ _ _ _ _ _ | collected => exact ih

/-! ## The operations are made of the pieces -/

/-- A property that lasts, whatever happens to a tunnel that has it. -/
structure Lasting (P : Passage → Tunnel C → Prop) : Prop where
  /-- The state is read off the stage. -/
  state_eq {p : Passage} {t : Tunnel C} : P p t → t.state = t.stage.state
  step {p p' : Passage} {t t' : Tunnel C} : P p t → Step p t p' t' → P p' t'

/-- What a tunnel can have lived through lasts. -/
theorem Reachable.lasting (relay : Endpoint) (options : TunnelOptions) :
    Lasting (C := C) (Reachable relay options) :=
  ⟨Reachable.state_eq, Reachable.step⟩

/-- A tunnel that has come to have a property by working, from where a passage ends. -/
def Leads (P : Passage → Tunnel C → Prop) (p : Passage) (t : Tunnel C) : Prop :=
  ∃ calls ends, P (p.work calls ends) t

variable {P : Passage → Tunnel C → Prop}

omit [BodyCompressor C] in
/-- What is already there has been come to. -/
theorem Leads.of_here (h : P p t) : Leads P p t :=
  ⟨[], [], by rwa [Passage.work_nil]⟩

omit [BodyCompressor C] in
/-- What is come to after some work has been come to. -/
theorem Leads.of_work {ends : List (Option TunnelError)} (h : Leads P (p.work calls ends) t) :
    Leads P p t := by
  obtain ⟨more, later, hhas⟩ := h
  rw [Passage.work_work] at hhas
  exact ⟨_, _, hhas⟩

namespace Lasting

/-- Every move keeps a property that lasts. -/
theorem move (hP : Lasting P) (h : P p t) (hmove : Move t calls t') : P (p.work calls []) t' :=
  hP.step h (.moved hmove)

/-- So does a tunnel that ends by itself. -/
theorem stop (hP : Lasting P) (h : P p t) (hstop : Stop t calls t' error) :
    Leads P p (t'.destroy error) :=
  ⟨_, _, hP.step h (.stopped hstop)⟩

/-- So does one that takes its first payload. -/
theorem takePayload (hP : Lasting P) (h : P p t) {destination : Endpoint} {payload : Bytes}
    (hfirst : FirstPayload t destination payload t') :
    Leads P p (t'.takePayload destination payload) := by
  rw [Tunnel.takePayload]
  cases hdismissal : Dismissal.ofPayload? payload with
  | none => exact ⟨_, _, hP.move h (.paid hfirst hdismissal)⟩
  | some dismissal => exact hP.stop h (.dismissed hfirst hdismissal)

/-- So does one that waits for it. -/
theorem pollPayload (hP : Lasting P) (h : P p t) {destination : Endpoint}
    (hstage : t.stage = .awaitingPayload destination) : Leads P p (t.pollPayload destination) := by
  rw [Tunnel.pollPayload]
  rcases hread : t.wires.relay.read payloadLimit with ⟨payload | _ | reason | _, link⟩
  · exact hP.takePayload h (.read hstage hread)
  · exact hP.stop h (.unpaid hstage hread)
  · exact hP.stop h (.unreadable hstage hread)
  · exact .of_here h

/-- So does one that is being opened. -/
theorem pollOpening (hP : Lasting P) (h : P p t) {opening : Opening}
    (hstage : t.stage = .opening opening) : Leads P p (t.pollOpening opening) := by
  rw [Tunnel.pollOpening]
  rcases hpoll : opening.poll t.wires.relay with ⟨later | error | opened, link⟩
  · exact ⟨_, _, hP.move h (.waited hstage hpoll)⟩
  · exact hP.stop h (.unopened hstage hpoll)
  · dsimp only
    rw [takeAnswer]
    cases hdestination : destinationOf opened.head with
    | error error => exact hP.stop h (.rejected hstage hpoll hdestination)
    | ok destination =>
      dsimp only
      split
      · next hempty =>
        have haccepted := hP.move h
          (.accepted hstage hpoll hdestination (List.isEmpty_iff.mp hempty))
        exact (hP.pollPayload haccepted rfl).of_work
      · next hsome =>
        refine hP.takePayload h (.behindAnswer hstage hpoll hdestination ?_)
        exact fun hnone => hsome (List.isEmpty_iff.mpr hnone)

/-- What lasts while a tunnel forwards is kept by the steps of forwarding. -/
theorem kept (hP : Lasting P) (p : Passage) (t : Tunnel C) (now : Instant) :
    Forwarding.Kept now fun calls f => P (p.work calls []) (t.during f) where
  inbound h hgoes := by
    have hmoved := hP.move h (.inbound now rfl hgoes)
    rwa [Passage.work_work] at hmoved
  outbound h hgoes := by
    have hmoved := hP.move h (.outbound now rfl hgoes)
    rwa [Passage.work_work] at hmoved
  watched h hlook := by
    have hmoved := hP.move h (.watched now rfl hlook)
    rwa [Passage.work_nil] at hmoved

/-- Forwarding keeps it at every moment, on the way to what it comes to. -/
theorem forwards (hP : Lasting P) {f : Forwarding C} (h : P p (t.during f)) (now : Instant) :
    Forwarding.Came (fun calls f => P (p.work calls []) (t.during f)) now [] (f.poll now) :=
  (hP.kept p t now).poll (by rwa [Passage.work_nil])

/-- So does a tunnel that forwards. -/
theorem pollForwarding (hP : Lasting P) {f : Forwarding C} (h : P p (t.during f))
    (now : Instant) : Leads P p (t.pollForwarding now f) := by
  have hlive : t.state ≠ .destroyed := by
    have hstate : t.state = .connected := hP.state_eq h
    rw [hstate]
    exact nofun
  have hforwards := hP.forwards h now
  rw [Tunnel.pollForwarding]
  rcases hpoll : f.poll now with ⟨g, _ | result | _⟩ <;> rw [hpoll] at hforwards
  · obtain ⟨calls, hg⟩ := hforwards
    exact ⟨_, [], hg⟩
  · obtain ⟨calls, last, final, hlast, hends⟩ := hforwards
    have hstop : Leads P p ({ t with wires := g.toWires }.destroy (Forwarding.reason result)) := by
      rw [← destroy_of_stage hlive (.forwarding g.toCourse)]
      exact (hP.stop hlast (.concluded now rfl hends)).of_work
    cases result <;> exact hstop
  · obtain ⟨calls, hg, hlost⟩ := hforwards
    exact ⟨_, [], hP.step hg (.crashed now rfl hlost)⟩

/-- When a tunnel is polled, what lasts is kept. -/
theorem poll (hP : Lasting P) (h : P p t) (now : Instant) : Leads P p (t.poll now) := by
  rw [Tunnel.poll]
  cases hstage : t.stage with
  | unstarted => exact ⟨_, _, hP.move h (.begun hstage)⟩
  | opening opening => exact hP.pollOpening h hstage
  | awaitingPayload destination => exact hP.pollPayload h hstage
  | forwarding course => exact hP.pollForwarding (by rwa [during_self hstage]) now
  | _ => exact .of_here h

/-- When a connection has been made, what lasts is kept, whatever the handshake on the connection has come
to. -/
theorem connected (hP : Lasting P) (h : P p t) (now : Instant) (handshake : Handshake) :
    Leads P p (t.connected now handshake) := by
  have hstate := hP.state_eq h
  rw [Tunnel.connected]
  cases hstage : t.stage with
  | dialingRelay =>
    have hlive : t.state ≠ .destroyed := by
      rw [hstate, hstage]
      exact nofun
    dsimp only
    rw [← hstage]
    cases hfault : transportFault? t.relay handshake with
    | some error => exact hP.stop h (.relayUnusable handshake hstage hfault)
    | none =>
      have hopening := hP.pollOpening (hP.move h (.reached handshake hstage hfault)) rfl
      rw [pollOpening_of_stage hlive] at hopening
      exact hopening.of_work
  | dialingDestination destination payload =>
    have hlive : t.state ≠ .destroyed := by
      rw [hstate, hstage]
      exact nofun
    dsimp only
    rw [← hstage]
    cases hfault : transportFault? destination handshake with
    | some error => exact hP.stop h (.destinationUnusable handshake hstage hfault)
    | none =>
      exact (hP.pollForwarding (hP.move h (.joined handshake now hstage hfault)) now).of_work
  | _ => exact .of_here h

/-- When a connection cannot be made, what lasts is kept. -/
theorem refused (hP : Lasting P) (h : P p t) (reason : String) : Leads P p (t.refused reason) := by
  rw [Tunnel.refused]
  cases hdial : t.dial? with
  | none => exact .of_here h
  | some endpoint => exact hP.stop h (.refused reason hdial)

end Lasting

/-- What a tunnel does when it is polled belongs to what it can live through. -/
theorem Reachable.poll (h : Reachable relay options p t) (now : Instant) :
    Leads (Reachable relay options) p (t.poll now) :=
  (lasting relay options).poll h now

/-- What a tunnel does when a connection has been made belongs to what it can live through. -/
theorem Reachable.connected (h : Reachable relay options p t) (now : Instant) (handshake : Handshake) :
    Leads (Reachable relay options) p (t.connected now handshake) :=
  (lasting relay options).connected h now handshake

/-- A change of one connection that its far end can bring about belongs to a life of the tunnel. -/
theorem Reachable.modifyLink (h : Reachable relay options p t) (side : Side) {change : Link → Link}
    {sent taken : Bytes} (hnone : t.hasFarEnd side = false → sent = [])
    (hincoming : (change (t.wires.link side)).incoming = (t.wires.link side).incoming ++ sent)
    (houtgoing : (t.wires.link side).outgoing = taken ++ (change (t.wires.link side)).outgoing)
    (hflushed : (change (t.wires.link side)).isFlushed = (t.wires.link side).isFlushed) :
    Reachable relay options (p.exchange (side.only sent) (side.only taken))
      { t with wires := t.wires.modifyLink side change } := by
  rw [← Wires.relink_modifyLink]
  refine h.step (.farEnds _ _ _ ?_ ?_ ?_ ?_)
  · intro other hother
    rw [Side.only]
    split
    · next hside => exact hnone (hside ▸ hother)
    · rfl
  · intro other
    rw [Wires.link_modifyLink, Side.only]
    split
    · next hside => rw [hside, hincoming]
    · exact (List.append_nil _).symm
  · intro other
    rw [Wires.link_modifyLink, Side.only]
    split
    · next hside => rw [hside, ← houtgoing]
    · rfl
  · intro other
    rw [Wires.link_modifyLink]
    split
    · next hside => rw [hside, hflushed]
    · rfl

end

end Tunnel

end RelayTunnel
