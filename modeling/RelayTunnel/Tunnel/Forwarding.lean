import RelayTunnel.Link
import RelayTunnel.Transcode.Duplex
import RelayTunnel.Tunnel.Error
import RelayTunnel.Tunnel.IdleWatch

/-!
# Forwarding between relay and destination

Inbound octets go from the relay to the destination as they are; outbound octets go from the
destination to the relay through the transcoder, and are flushed. Each direction reads only when it has
written what it read before. Forwarding ends when one side closes, when a connection fails, or when the
destination has been silent for too long; what the transcoder still holds is written when the destination
closes. It crashes when the clock cannot show the moment at which the silence would be too long.

`Forwarding.poll` does everything that can be done at an instant: inbound first, then outbound, then
the idle watch.
-/

set_option autoImplicit false

namespace RelayTunnel

open Compression (BodyCompressor Compressor)

/-- What a tunnel reports to its owner. -/
inductive Notice where
  /-- The relay accepted the session. -/
  | connected
  /-- Data was read from the relay or from the destination. -/
  | activity
  /-- The tunnel is gone. -/
  | destroyed (error : Option TunnelError)
  deriving DecidableEq

/-- The connections of a tunnel and what it accounts for. -/
structure Wires where
  relay : Link
  destination : Link
  /-- Counts the octets that were read and written, and begins again at 0 when it overflows. -/
  counter : UInt64
  /-- What its owner has not been told yet, oldest first. -/
  notices : List Notice

namespace Wires

/-- No connection and nothing to account for. -/
def idle : Wires := ⟨.unmade, .unmade, 0, []⟩

/-- How many octets were read and written, as far as the counter can tell. -/
def traffic (w : Wires) : Nat := w.counter.toNat

def count (w : Wires) (octets : Nat) : Wires := { w with counter := w.counter + .ofNat octets }

def report (w : Wires) (notice : Notice) : Wires := { w with notices := w.notices ++ [notice] }

def close (w : Wires) : Wires :=
  { w with relay := w.relay.close, destination := w.destination.close }

end Wires

/-- What a direction is doing. -/
inductive Flow where
  | reading
  /-- Writing `size` octets, of which `left` are not written yet. -/
  | writing (left : Bytes) (size : Nat)
  deriving DecidableEq

/-- How far both directions are. -/
structure Course (C : Type := Compressor) where
  /-- What was read from the relay before forwarding began and the inbound direction has not taken. -/
  first : Bytes
  inbound : Flow
  outbound : Flow
  /-- Whether the destination has closed, so that the present write to the relay is the last. -/
  lastWrite : Bool
  duplex : Transcode.Duplex C
  watch : IdleWatch

/-- Which side ended the session. -/
inductive Closing where
  | relay
  | destination
  deriving DecidableEq

/-- Forwarding in progress. -/
structure Forwarding (C : Type := Compressor) extends Wires, Course C

/-- What has come of one step of a direction. -/
inductive Hop (C : Type := Compressor) where
  /-- Something was done and more may be possible. -/
  | on (state : Forwarding C)
  /-- Nothing more can be done now. -/
  | waiting (state : Forwarding C)
  | done (state : Forwarding C) (result : Except TunnelError Closing)

/-- What has come of forwarding. -/
inductive Verdict where
  | goesOn
  | ended (result : Except TunnelError Closing)
  /-- It could not be computed when to look at the watch again. -/
  | crashed

namespace Forwarding

variable {C : Type}

def readLimit : Nat := 16384

/-- Takes octets that go to the destination past the inspector and gets them ready to be written. -/
def offer (f : Forwarding C) (octets : Bytes) : Forwarding C :=
  { f with
    duplex := f.duplex.inspect octets
    inbound := .writing octets octets.length }

/-- Starts forwarding; `first` was read from the relay already. -/
def start (wires : Wires) (first : Bytes) (idle : Duration) (now : Instant) : Forwarding C :=
  { toWires := wires
    toCourse := ⟨first, .reading, .reading, false, .start C, .start now idle⟩ }

/-! ### Inbound -/

/-- Reads from the relay. What was read before comes first. -/
def receive (f : Forwarding C) : Hop C :=
  match f.first with
  | b :: rest => .on (offer { f with first := [] } (b :: rest))
  | [] =>
      match f.relay.read readLimit with
      | (.waiting, _) => .waiting f
      | (.ended, _) => .done f (.ok .relay)
      | (.failed reason, _) => .done f (.error (.io reason))
      | (.data octets, link) =>
          .on (offer { f with
            relay := link
            counter := f.counter + .ofNat octets.length
            notices := f.notices ++ [.activity] } octets)

/-- One step inbound: a write to the destination or a read from the relay. -/
def inboundStep (now : Instant) (f : Forwarding C) : Hop C :=
  match f.inbound with
  | .writing left size =>
      match f.destination.write left with
      | (.failed reason, link) => .done { f with destination := link } (.error (.io reason))
      | (.left [], link) =>
          .on { f with
            destination := link
            counter := f.counter + .ofNat size
            watch := f.watch.touch now
            inbound := .reading }
      | (.left left, link) => .waiting { f with destination := link, inbound := .writing left size }
  | .reading => f.receive

/-- Bounds the steps that are left inbound. -/
def inboundWeight (f : Forwarding C) : Nat :=
  2 * (f.first.length + f.relay.incoming.length) + match f.inbound with
    | .reading => 0
    | .writing .. => 1

/-- Taking octets that have arrived leaves fewer of them, and one write. -/
theorem inboundWeight_receive {f g : Forwarding C} (h : f.receive = .on g) :
    g.inboundWeight < 2 * (f.first.length + f.relay.incoming.length) := by
  unfold receive at h
  split at h
  next b rest heq =>
    cases h
    simp [inboundWeight, offer, heq]
    omega
  next heq =>
    split at h <;> try contradiction
    next octets link hread =>
      cases h
      have := Link.length_incoming_of_read (by decide) hread
      simp [inboundWeight, offer, heq]
      omega

/-- An inbound step that goes on has less left to do. -/
theorem inboundWeight_lt {now : Instant} {f g : Forwarding C} (h : f.inboundStep now = .on g) :
    g.inboundWeight < f.inboundWeight := by
  unfold inboundStep at h
  split at h
  next left size heq =>
    split at h <;> try contradiction
    cases h
    simp [inboundWeight, heq]
  next heq =>
    have := inboundWeight_receive h
    rw [inboundWeight.eq_1 f]
    omega

/-- All that can be done inbound now. -/
def runInbound (now : Instant) (f : Forwarding C) :
    Forwarding C × Option (Except TunnelError Closing) :=
  match _h : f.inboundStep now with
  | .on g => runInbound now g
  | .waiting g => (g, none)
  | .done g result => (g, some result)
  termination_by f.inboundWeight
  decreasing_by exact inboundWeight_lt _h

/-! ### The watch -/

/-- Ends forwarding if the destination has been silent for too long. -/
def checkIdle (now : Instant) (f : Forwarding C) : Forwarding C × Verdict :=
  match f.watch.look now with
  | .watching watch => ({ f with watch := watch }, .goesOn)
  | .expired => (f, .ended (.error (.destinationTimeout f.watch.idle)))
  | .lost => (f, .crashed)

/-! ### Outbound -/

/-- Gets what the transcoder gave ready to be written to the relay. -/
def emit (f : Forwarding C) (out : Bytes) (duplex : Transcode.Duplex C) (last : Bool) : Hop C :=
  let f := { f with duplex := duplex }
  if !out.isEmpty then .on { f with outbound := .writing out out.length, lastWrite := last }
  else if last then .done f (.ok .destination)
  else .on f

/-- Flushes `size` octets that have all been written to the relay. -/
def flush (f : Forwarding C) (size : Nat) : Hop C :=
  match f.relay.flush with
  | (.failed reason, link) =>
      .done { f with relay := link, outbound := .writing [] size } (.error (.io reason))
  | (.waiting, link) => .waiting { f with relay := link, outbound := .writing [] size }
  | (.done, link) =>
      let f := { f with relay := link, counter := f.counter + .ofNat size, outbound := .reading }
      if f.lastWrite then .done f (.ok .destination) else .on f

/-- Bounds the steps that are left outbound. -/
def outboundWeight (f : Forwarding C) : Nat :=
  2 * f.destination.incoming.length + match f.outbound with
    | .reading => 1
    | .writing .. => if f.lastWrite then 0 else 2

/-- Forwarding that goes on after a flush reads from the destination next. -/
theorem outboundWeight_flush {f g : Forwarding C} {size : Nat} (h : f.flush size = .on g) :
    g.outboundWeight = 2 * f.destination.incoming.length + 1 ∧ f.lastWrite = false := by
  unfold flush at h
  split at h <;> try contradiction
  dsimp only at h
  split at h <;> try contradiction
  next hlast =>
    cases h
    exact ⟨rfl, Bool.not_eq_true _ ▸ hlast⟩

variable [BodyCompressor C]

/-- One step outbound: a write to the relay or a read from the destination. -/
def outboundStep (now : Instant) (f : Forwarding C) : Hop C :=
  match f.outbound with
  | .writing left size =>
      match f.relay.write left with
      | (.failed reason, link) => .done { f with relay := link } (.error (.io reason))
      | (.left [], link) => flush { f with relay := link } size
      | (.left left, link) => .waiting { f with relay := link, outbound := .writing left size }
  | .reading =>
      match f.destination.read readLimit with
      | (.waiting, _) => .waiting f
      | (.failed reason, _) => .done f (.error (.io reason))
      | (.ended, _) =>
          let (out, duplex) := f.duplex.finish
          f.emit out duplex true
      | (.data octets, link) =>
          let (out, duplex) := f.duplex.transform octets
          emit { f with
            destination := link
            counter := f.counter + .ofNat octets.length
            notices := f.notices ++ [.activity]
            watch := f.watch.touch now } out duplex false

/-- An outbound step that goes on has less left to do. -/
theorem outboundWeight_lt {now : Instant} {f g : Forwarding C} (h : f.outboundStep now = .on g) :
    g.outboundWeight < f.outboundWeight := by
  unfold outboundStep at h
  split at h
  next left size heq =>
    split at h <;> try contradiction
    obtain ⟨hweight, hlast⟩ := outboundWeight_flush h
    rw [hweight]
    simp only at hlast
    simp [outboundWeight, heq, hlast]
  next heq =>
    split at h <;> try contradiction
    · unfold emit at h
      dsimp only at h
      split at h
      · cases h
        simp [outboundWeight, heq]
      · simp at h
    next octets link hread =>
      have := Link.length_incoming_of_read (by decide) hread
      unfold emit at h
      dsimp only at h
      split at h
      · cases h
        simp [outboundWeight, heq]
        omega
      · split at h
        · contradiction
        · cases h
          simp [outboundWeight, heq]
          omega

/-- All that can be done outbound now. -/
def runOutbound (now : Instant) (f : Forwarding C) :
    Forwarding C × Option (Except TunnelError Closing) :=
  match _h : f.outboundStep now with
  | .on g => runOutbound now g
  | .waiting g => (g, none)
  | .done g result => (g, some result)
  termination_by f.outboundWeight
  decreasing_by exact outboundWeight_lt _h

/-- All that can be done now, and what has come of it. -/
def poll (now : Instant) (f : Forwarding C) : Forwarding C × Verdict :=
  match f.runInbound now with
  | (f, some result) => (f, .ended result)
  | (f, none) =>
      match f.runOutbound now with
      | (f, some result) => (f, .ended result)
      | (f, none) => f.checkIdle now

end Forwarding

end RelayTunnel
