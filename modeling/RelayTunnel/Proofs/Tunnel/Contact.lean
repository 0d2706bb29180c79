import RelayTunnel.Proofs.Tunnel.Running

/-!
# Contact with the destination

A direction that can do nothing now can do nothing later either, unless a far end does something
(`Lane.IsStuck`), and what one direction does leaves the other as it is. There is contact with the
destination when octets are read from it and when a write to it is completed; the idle watch is touched
then, and by nothing else (`runFlows_effect`). Contact is made as soon as octets have arrived or there is
room for a write, and whatever the relay does makes none with a destination out of reach
(`contacts_of_isOutOfReach`).
-/

set_option autoImplicit false

namespace RelayTunnel

open Compression (BodyCompressor)

/-! ## Directions that have to wait -/

/-- What a direction sees: what it is doing, what it can read and whether it can write and flush. -/
structure Lane where
  flow : Flow
  incoming : Bytes
  ending : Option StreamEnd
  writeFault : Option String
  room : Option Nat
  /-- Whether a flush of what has been written has to wait. -/
  isHeldUp : Bool

/-- A direction that reads from one connection, behind what it holds already, and writes to another. -/
def Lane.between (flow : Flow) (held : Bytes) (source sink : Link) (isHeldUp : Bool) : Lane :=
  ⟨flow, held ++ source.incoming, source.ending, sink.writeFault, sink.room, isHeldUp⟩

/-- The direction has to wait for the far ends. -/
def Lane.IsStuck (lane : Lane) : Prop :=
  match lane.flow with
  | .reading => lane.incoming = [] ∧ lane.ending = none
  | .writing left _ =>
      (left ≠ [] ∧ lane.writeFault = none ∧ lane.room = some 0) ∨ (left = [] ∧ lane.isHeldUp = true)

namespace Lane

variable {flow : Flow} {held : Bytes} {source source' sink sink' : Link} {octets rest : Bytes}
variable {limit : Nat} {isHeldUp : Bool}

/-- A direction does not see what is written to the connection it reads from. -/
theorem between_of_write_source {outcome : WriteOutcome}
    (h : source.write octets = (outcome, source')) :
    between flow held source' sink isHeldUp = between flow held source sink isHeldUp := by
  rw [between, Link.incoming_of_write h, Link.ending_of_write h]
  rfl

/-- A direction does not see whether the connection it reads from is flushed. -/
theorem between_of_flush_source {outcome : FlushOutcome} (h : source.flush = (outcome, source')) :
    between flow held source' sink isHeldUp = between flow held source sink isHeldUp := by
  obtain ⟨hincoming, hending⟩ := Link.readable_of_flush h
  rw [between, hincoming, hending]
  rfl

/-- A direction does not see what is read from the connection it writes to. -/
theorem between_of_read_sink {outcome : ReadOutcome} (h : sink.read limit = (outcome, sink')) :
    between flow held source sink' isHeldUp = between flow held source sink isHeldUp := by
  obtain ⟨hfault, hroom, -⟩ := Link.writable_of_read h
  rw [between, hfault, hroom]
  rfl

/-- A direction whose read has to wait is stuck. -/
theorem isStuck_reading (h : source.read limit = (.waiting, source')) :
    (between .reading [] source sink isHeldUp).IsStuck :=
  Link.quiet_of_read_waiting h

/-- A direction whose write has to wait is stuck. -/
theorem isStuck_writing {size : Nat} (h : sink.write octets = (.left rest, sink')) (hrest : rest ≠ []) :
    (between (.writing rest size) held source sink' isHeldUp).IsStuck :=
  Or.inl ⟨hrest, Link.full_of_write h hrest⟩

end Lane

namespace Forwarding

variable {C : Type}

/-- What the inbound direction sees. It flushes nothing. -/
def inboundLane (f : Forwarding C) : Lane := .between f.inbound f.first f.relay f.destination false

/-- What the outbound direction sees. -/
def outboundLane (f : Forwarding C) : Lane :=
  .between f.outbound [] f.destination f.relay f.relay.isHeldUp

/-- Both directions have to wait for the far ends. -/
structure IsStuck (f : Forwarding C) : Prop where
  inbound : f.inboundLane.IsStuck
  outbound : f.outboundLane.IsStuck

/-! ## Contact with the destination -/

/-- Whether the next inbound step completes a write to the destination. -/
def completesWrite (f : Forwarding C) : Bool :=
  match f.inbound with
  | .reading => false
  | .writing left _ => (f.destination.write left).1 == .left []

/-- Whether the next outbound step reads octets from the destination. -/
def completesRead (f : Forwarding C) : Bool :=
  match f.outbound, (f.destination.read readLimit).1 with
  | .reading, .data _ => true
  | _, _ => false

/-- Whether a write to the destination is completed now. -/
def writesDestination (now : Instant) (f : Forwarding C) : Bool :=
  match _h : f.inboundStep now with
  | .on g => f.completesWrite || writesDestination now g
  | .waiting _ => false
  | .done _ _ => false
  termination_by f.inboundWeight
  decreasing_by exact inboundWeight_lt _h

variable [BodyCompressor C]

/-- Whether octets are read from the destination now. -/
def readsDestination (now : Instant) (f : Forwarding C) : Bool :=
  match _h : f.outboundStep now with
  | .on g => f.completesRead || readsDestination now g
  | .waiting _ => false
  | .done _ _ => false
  termination_by f.outboundWeight
  decreasing_by exact outboundWeight_lt _h

/-- Whether there is contact with the destination now: octets are read from it, or a write to it is
completed. -/
def contacts (now : Instant) (f : Forwarding C) : Bool :=
  f.writesDestination now || (f.runInbound now).1.readsDestination now

/-- Both directions, as far as they go now. -/
def runFlows (now : Instant) (f : Forwarding C) :
    Forwarding C × Option (Except TunnelError Closing) :=
  match f.runInbound now with
  | (f, some result) => (f, some result)
  | (f, none) => f.runOutbound now

/-- A look at forwarding is a look at both directions and then, if they go on, at the watch. -/
theorem poll_eq (now : Instant) (f : Forwarding C) :
    f.poll now = match f.runFlows now with
      | (g, some result) => (g, .ended result)
      | (g, none) => g.checkIdle now := by
  rw [poll, runFlows]
  rcases f.runInbound now with ⟨g, _ | result⟩ <;> rfl

section Steps

variable {now : Instant} {f g : Forwarding C}

/-- The watch, if it is touched. -/
def watchIf (touched : Bool) (now : Instant) (f : Forwarding C) : IdleWatch :=
  if touched then f.watch.touch now else f.watch

omit [BodyCompressor C]

/-- A touch leaves the alarm as it is. -/
theorem alarm_watchIf (touched : Bool) (now : Instant) (f : Forwarding C) :
    (f.watchIf touched now).alarm = f.watch.alarm := by
  cases touched <;> rfl

/-- The watch has no part in what the directions wait for. -/
theorem IsStuck.watching (h : f.IsStuck) (watch : IdleWatch) : IsStuck { f with watch := watch } :=
  ⟨h.inbound, h.outbound⟩

/-- What is being written to the destination is not empty. -/
theorem IsStuck.ne_empty (h : f.IsStuck) (size : Nat) : f.inbound ≠ .writing [] size := by
  intro hempty
  have hstuck := h.inbound
  rw [inboundLane, hempty] at hstuck
  rcases hstuck with hleft | hheld
  · exact hleft.1 rfl
  · exact Bool.false_ne_true hheld.2

/-- What an inbound step means to the watch and to the outbound direction. -/
def InboundEffect (now : Instant) (f : Forwarding C) : Hop C → Prop
  | .on g => g.outboundLane = f.outboundLane ∧ g.watch = f.watchIf f.completesWrite now
  | .waiting g => g.outboundLane = f.outboundLane ∧ g.watch = f.watch ∧ g.inboundLane.IsStuck
  | .done _ result => ∀ idle, result ≠ .error (.destinationTimeout idle)

/-- What an outbound step means to the watch and to the inbound direction. -/
def OutboundEffect (now : Instant) (f : Forwarding C) : Hop C → Prop
  | .on g => g.inboundLane = f.inboundLane ∧ g.watch = f.watchIf f.completesRead now
  | .waiting g => g.inboundLane = f.inboundLane ∧ g.watch = f.watch ∧ g.outboundLane.IsStuck
  | .done _ result => ∀ idle, result ≠ .error (.destinationTimeout idle)

/-- An inbound step touches the watch if it completes a write, and leaves the outbound direction as it
is. -/
theorem inboundStep_effect (now : Instant) (f : Forwarding C) :
    InboundEffect now f (f.inboundStep now) := by
  refine inboundStep_cases (P := fun _ hop => InboundEffect now f hop) now f
    ?_ ?_ ?_ ?_ ?_ ?_ ?_ ?_
  · intro left size link hflow hwrite
    have hcompletes : f.completesWrite = true := by simp [completesWrite, hflow, hwrite]
    exact ⟨Lane.between_of_write_source hwrite, by rw [watchIf, hcompletes]; rfl⟩
  · intro left size rest link _ hrest hwrite
    exact ⟨Lane.between_of_write_source hwrite, rfl, Lane.isStuck_writing hwrite hrest⟩
  · intro left size reason link _ _
    exact nofun
  · intro hflow _
    have hcompletes : f.completesWrite = false := by simp [completesWrite, hflow]
    exact ⟨rfl, by rw [watchIf, hcompletes]; rfl⟩
  · intro octets link hflow _ hread
    have hcompletes : f.completesWrite = false := by simp [completesWrite, hflow]
    refine ⟨?_, by rw [watchIf, hcompletes]; rfl⟩
    show Lane.between _ _ _ link link.isHeldUp = _
    rw [(Link.writable_of_read hread).2.2]
    exact Lane.between_of_read_sink hread
  · intro link hflow hfirst hread
    refine ⟨rfl, rfl, ?_⟩
    rw [inboundLane, hflow, hfirst]
    exact Lane.isStuck_reading hread
  · intro _ _
    exact nofun
  · intro reason _ _
    exact nofun

/-- What the transcoder gives is made ready without a look at the connections or the watch. -/
theorem emit_effect {k : Forwarding C} (out : Bytes) (duplex : Transcode.Duplex C) (last : Bool)
    (hlane : k.inboundLane = f.inboundLane) (hwatch : k.watch = f.watchIf f.completesRead now) :
    OutboundEffect now f (k.emit out duplex last) := by
  rw [emit]
  split
  · exact ⟨hlane, hwatch⟩
  · split
    · exact nofun
    · exact ⟨hlane, hwatch⟩

variable [BodyCompressor C]

/-- An outbound step touches the watch if it reads octets, and leaves the inbound direction as it is. -/
theorem outboundStep_effect (now : Instant) (f : Forwarding C) :
    OutboundEffect now f (f.outboundStep now) := by
  refine outboundStep_cases (P := fun _ hop => OutboundEffect now f hop) now f
    ?_ ?_ ?_ ?_ ?_ ?_ ?_ ?_ ?_ ?_
  · intro left size link flushed hflow hwrite hflush _
    have hcompletes : f.completesRead = false := by simp [completesRead, hflow]
    refine ⟨?_, by rw [watchIf, hcompletes]; rfl⟩
    exact (Lane.between_of_flush_source hflush).trans (Lane.between_of_write_source hwrite)
  · intro left size link flushed _ _ _ _
    exact nofun
  · intro left size link _ hwrite hflush
    refine ⟨Lane.between_of_write_source hwrite, rfl, Or.inr ⟨rfl, ?_⟩⟩
    exact Link.isHeldUp_of_flush hflush
  · intro left size reason link _ _ _
    exact nofun
  · intro left size rest link _ hrest hwrite
    exact ⟨Lane.between_of_write_source hwrite, rfl, Lane.isStuck_writing hwrite hrest⟩
  · intro left size reason link _ _
    exact nofun
  · intro octets link hflow hread
    have hcompletes : f.completesRead = true := by simp [completesRead, hflow, hread]
    refine emit_effect _ _ _ (Lane.between_of_read_sink hread) ?_
    rw [watchIf, hcompletes]
    rfl
  · intro link hflow hread
    have hcompletes : f.completesRead = false := by simp [completesRead, hflow, hread]
    exact emit_effect _ _ _ rfl (by rw [watchIf, hcompletes]; rfl)
  · intro link hflow hread
    refine ⟨rfl, rfl, ?_⟩
    rw [outboundLane, hflow]
    exact Lane.isStuck_reading hread
  · intro reason _
    exact nofun

omit [BodyCompressor C] in
/-- An inbound direction that is stuck does nothing. -/
theorem inboundStep_of_isStuck (now : Instant) (h : f.inboundLane.IsStuck) :
    f.inboundStep now = .waiting f := by
  rw [inboundStep]
  cases hflow : f.inbound with
  | writing left size =>
    rw [inboundLane, hflow] at h
    obtain ⟨hleft, hfault, hroom⟩ := h.resolve_right fun hheld => Bool.false_ne_true hheld.2
    obtain ⟨b, rest, rfl⟩ := List.exists_cons_of_ne_nil hleft
    dsimp only
    rw [Link.write_of_full hfault hroom]
    dsimp only
    rw [← hflow]
  | reading =>
    rw [inboundLane, hflow] at h
    obtain ⟨hfirst, hincoming⟩ := List.append_eq_nil_iff.mp h.1
    dsimp only [receive]
    rw [hfirst, Link.read_of_quiet hincoming h.2]

/-- An outbound direction that is stuck does nothing. -/
theorem outboundStep_of_isStuck (now : Instant) (h : f.outboundLane.IsStuck) :
    f.outboundStep now = .waiting f := by
  rw [outboundStep]
  cases hflow : f.outbound with
  | writing left size =>
    rw [outboundLane, hflow] at h
    rcases h with ⟨hleft, hfault, hroom⟩ | ⟨hleft, hheld⟩
    · obtain ⟨b, rest, rfl⟩ := List.exists_cons_of_ne_nil hleft
      dsimp only
      rw [Link.write_of_full hfault hroom]
      dsimp only
      rw [← hflow]
    · obtain rfl : left = [] := hleft
      dsimp only
      rw [Link.write_nil]
      dsimp only [flush]
      rw [Link.flush_of_isHeldUp hheld]
      dsimp only
      rw [← hflow]
  | reading =>
    rw [outboundLane, hflow] at h
    rw [Link.read_of_quiet h.1 h.2]

/-! ### Runs of steps -/

omit [BodyCompressor C] in
/-- Whether the watch is touched by a first step or by those that follow comes to the same. -/
theorem watchIf_watchIf {touched later : Bool} (h : g.watch = f.watchIf touched now) :
    g.watchIf later now = f.watchIf (touched || later) now := by
  cases touched <;> cases later <;> simp [watchIf, h, IdleWatch.touch]

omit [BodyCompressor C] in
/-- What the inbound direction has done when it has to wait. -/
theorem runInbound_effect (h : f.runInbound now = (g, none)) :
    g.outboundLane = f.outboundLane ∧ g.watch = f.watchIf (f.writesDestination now) now ∧
      g.inboundLane.IsStuck := by
  fun_induction Forwarding.runInbound now f with
  | case1 f f' hon ih =>
    have heffect := inboundStep_effect now f
    rw [hon] at heffect
    obtain ⟨hlane, hwatch, hstuck⟩ := ih h
    refine ⟨hlane.trans heffect.1, ?_, hstuck⟩
    rw [writesDestination, hon, hwatch]
    exact watchIf_watchIf heffect.2
  | case2 f f' hwaiting =>
    have heffect := inboundStep_effect now f
    rw [hwaiting] at heffect
    obtain ⟨rfl, -⟩ := Prod.mk.inj h
    refine ⟨heffect.1, ?_, heffect.2.2⟩
    rw [writesDestination, hwaiting]
    exact heffect.2.1
  | case3 f f' result hdone => cases (Prod.mk.inj h).2

/-- What the outbound direction has done when it has to wait. -/
theorem runOutbound_effect (h : f.runOutbound now = (g, none)) :
    g.inboundLane = f.inboundLane ∧ g.watch = f.watchIf (f.readsDestination now) now ∧
      g.outboundLane.IsStuck := by
  fun_induction Forwarding.runOutbound now f with
  | case1 f f' hon ih =>
    have heffect := outboundStep_effect now f
    rw [hon] at heffect
    obtain ⟨hlane, hwatch, hstuck⟩ := ih h
    refine ⟨hlane.trans heffect.1, ?_, hstuck⟩
    rw [readsDestination, hon, hwatch]
    exact watchIf_watchIf heffect.2
  | case2 f f' hwaiting =>
    have heffect := outboundStep_effect now f
    rw [hwaiting] at heffect
    obtain ⟨rfl, -⟩ := Prod.mk.inj h
    refine ⟨heffect.1, ?_, heffect.2.2⟩
    rw [readsDestination, hwaiting]
    exact heffect.2.1
  | case3 f f' result hdone => cases (Prod.mk.inj h).2

/-- When both directions have gone as far as they can, both have to wait, and the watch has been touched
if there was contact with the destination. -/
theorem runFlows_effect (h : f.runFlows now = (g, none)) :
    g.IsStuck ∧ g.watch = f.watchIf (f.contacts now) now := by
  rw [runFlows] at h
  rcases hin : f.runInbound now with ⟨f', _ | result⟩
  · rw [hin] at h
    obtain ⟨-, hfirst, hinbound⟩ := runInbound_effect hin
    obtain ⟨hlane, hsecond, houtbound⟩ := runOutbound_effect h
    refine ⟨⟨by rwa [hlane], houtbound⟩, ?_⟩
    rw [contacts, hin, hsecond]
    exact watchIf_watchIf hfirst
  · rw [hin] at h
    cases (Prod.mk.inj h).2

omit [BodyCompressor C] in
/-- The inbound direction ends forwarding in other ways than for silence. -/
theorem runInbound_ne_timeout {result : Except TunnelError Closing}
    (h : f.runInbound now = (g, some result)) (idle : Duration) :
    result ≠ .error (.destinationTimeout idle) := by
  fun_induction Forwarding.runInbound now f with
  | case1 f f' hon ih => exact ih h
  | case2 f f' hwaiting => cases (Prod.mk.inj h).2
  | case3 f f' last hdone =>
    have heffect := inboundStep_effect now f
    rw [hdone] at heffect
    obtain ⟨-, hlast⟩ := Prod.mk.inj h
    rw [← Option.some.inj hlast]
    exact heffect idle

/-- The outbound direction ends forwarding in other ways than for silence. -/
theorem runOutbound_ne_timeout {result : Except TunnelError Closing}
    (h : f.runOutbound now = (g, some result)) (idle : Duration) :
    result ≠ .error (.destinationTimeout idle) := by
  fun_induction Forwarding.runOutbound now f with
  | case1 f f' hon ih => exact ih h
  | case2 f f' hwaiting => cases (Prod.mk.inj h).2
  | case3 f f' last hdone =>
    have heffect := outboundStep_effect now f
    rw [hdone] at heffect
    obtain ⟨-, hlast⟩ := Prod.mk.inj h
    rw [← Option.some.inj hlast]
    exact heffect idle

/-- The directions end forwarding in other ways than for silence. -/
theorem runFlows_ne_timeout {result : Except TunnelError Closing}
    (h : f.runFlows now = (g, some result)) (idle : Duration) :
    result ≠ .error (.destinationTimeout idle) := by
  rw [runFlows] at h
  rcases hin : f.runInbound now with ⟨f', _ | first⟩
  · rw [hin] at h
    exact runOutbound_ne_timeout h idle
  · rw [hin] at h
    exact runInbound_ne_timeout (hin.trans h) idle

omit [BodyCompressor C] in
/-- An inbound direction that is stuck leaves everything as it is. -/
theorem runInbound_of_isStuck (now : Instant) (h : f.inboundLane.IsStuck) :
    f.runInbound now = (f, none) := by
  rw [runInbound, inboundStep_of_isStuck now h]

/-- An outbound direction that is stuck leaves everything as it is. -/
theorem runOutbound_of_isStuck (now : Instant) (h : f.outboundLane.IsStuck) :
    f.runOutbound now = (f, none) := by
  rw [runOutbound, outboundStep_of_isStuck now h]

/-- Directions that are stuck leave everything as it is. -/
theorem runFlows_of_isStuck (now : Instant) (h : f.IsStuck) : f.runFlows now = (f, none) := by
  rw [runFlows, runInbound_of_isStuck now h.inbound]
  exact runOutbound_of_isStuck now h.outbound

/-- While the far ends do nothing, only the watch is looked at. -/
theorem poll_of_isStuck (now : Instant) (h : f.IsStuck) : f.poll now = f.checkIdle now := by
  rw [poll_eq, runFlows_of_isStuck now h]

/-- Directions that have to wait make no contact with the destination. -/
theorem contacts_of_isStuck (now : Instant) (h : f.IsStuck) : f.contacts now = false := by
  have hwrites : f.writesDestination now = false := by
    rw [writesDestination, inboundStep_of_isStuck now h.inbound]
  have hreads : f.readsDestination now = false := by
    rw [readsDestination, outboundStep_of_isStuck now h.outbound]
  rw [contacts, hwrites, runInbound_of_isStuck now h.inbound, hreads]
  rfl

end Steps

/-! ## Contact that is at hand, and contact that is out of reach -/

section Contacts

variable {now : Instant} {f g : Forwarding C}

/-- What the inbound direction leaves when the directions do not end forwarding. -/
theorem runInbound_of_goes (hgoes : (f.runFlows now).2 = none) :
    ∃ g, f.runInbound now = (g, none) := by
  rw [runFlows] at hgoes
  rcases hin : f.runInbound now with ⟨g, _ | result⟩
  · exact ⟨g, rfl⟩
  · rw [hin] at hgoes
    cases hgoes

/-- Octets that have arrived from the destination are read now, unless the outbound direction is writing
or forwarding ends. -/
theorem contacts_of_arrived (hgoes : (f.runFlows now).2 = none) (hreading : f.outbound = .reading)
    (harrived : f.destination.incoming ≠ []) : f.contacts now = true := by
  obtain ⟨g, hin⟩ := runInbound_of_goes hgoes
  obtain ⟨hlane, -, -⟩ := runInbound_effect hin
  have hflow : g.outbound = .reading := (congrArg Lane.flow hlane).trans hreading
  have hincoming : g.destination.incoming = f.destination.incoming := congrArg Lane.incoming hlane
  obtain ⟨octets, link, hread⟩ := Link.exists_read (hincoming ▸ harrived) readLimit
  have hcompletes : g.completesRead = true := by simp [completesRead, hflow, hread]
  have hstep : ∃ k, g.outboundStep now = .on k := by
    rw [outboundStep, hflow]
    dsimp only
    rw [hread]
    dsimp only [emit]
    split
    · exact ⟨_, rfl⟩
    · exact ⟨_, rfl⟩
  obtain ⟨k, hstep⟩ := hstep
  have hreads : g.readsDestination now = true := by rw [readsDestination, hstep, hcompletes]; rfl
  rw [contacts, hin, hreads, Bool.or_true]

/-- A write to the destination that there is room for is completed now. -/
theorem contacts_of_room {left : Bytes} {size : Nat} {link : Link}
    (hwriting : f.inbound = .writing left size)
    (hroom : f.destination.write left = (.left [], link)) : f.contacts now = true := by
  have hcompletes : f.completesWrite = true := by simp [completesWrite, hwriting, hroom]
  have hstep : ∃ g, f.inboundStep now = .on g := by
    rw [inboundStep, hwriting]
    dsimp only
    rw [hroom]
    exact ⟨_, rfl⟩
  obtain ⟨g, hstep⟩ := hstep
  have hwrites : f.writesDestination now = true := by rw [writesDestination, hstep, hcompletes]; rfl
  rw [contacts, hwrites, Bool.true_or]

/-- The destination has sent nothing that could be read, and nothing can be written to it. -/
structure IsOutOfReach (f : Forwarding C) : Prop where
  silent : f.destination.incoming = []
  noFault : f.destination.writeFault = none
  full : f.destination.room = some 0

omit [BodyCompressor C] in
/-- An inbound step that goes on while nothing can be written reads from the relay. -/
theorem inboundStep_of_full (hfault : f.destination.writeFault = none)
    (hfull : f.destination.room = some 0) (hpending : ∀ size, f.inbound ≠ .writing [] size)
    (hon : f.inboundStep now = .on g) :
    f.completesWrite = false ∧ g.destination = f.destination ∧
      ∀ size, g.inbound ≠ .writing [] size := by
  revert hon
  refine inboundStep_cases (P := fun _ hop => hop = .on g → f.completesWrite = false ∧
    g.destination = f.destination ∧ ∀ size, g.inbound ≠ .writing [] size) now f
    ?_ ?_ ?_ ?_ ?_ ?_ ?_ ?_
  case refine_1 =>
    intro left size link hflow hwrite
    cases left with
    | nil => exact absurd hflow (hpending size)
    | cons b left =>
      rw [Link.write_of_full hfault hfull] at hwrite
      cases hwrite
  case refine_4 =>
    rintro hflow hfirst ⟨⟩
    refine ⟨by simp [completesWrite, hflow], rfl, fun size hempty => ?_⟩
    exact hfirst (Flow.writing.inj hempty).1
  case refine_5 =>
    rintro octets link hflow _ hread ⟨⟩
    refine ⟨by simp [completesWrite, hflow], rfl, fun size hempty => ?_⟩
    obtain ⟨hnil, -⟩ := Flow.writing.inj hempty
    exact Link.ne_nil_of_read (by decide) hread hnil
  all_goals intros; contradiction

omit [BodyCompressor C] in
/-- Nothing is written to a destination that has no room. -/
theorem writesDestination_of_full (hfault : f.destination.writeFault = none)
    (hfull : f.destination.room = some 0) (hpending : ∀ size, f.inbound ≠ .writing [] size) :
    f.writesDestination now = false := by
  fun_induction writesDestination now f with
  | case1 f g hon ih =>
    obtain ⟨hcompletes, hdestination, hnext⟩ := inboundStep_of_full hfault hfull hpending hon
    rw [hcompletes, Bool.false_or]
    exact ih (hdestination ▸ hfault) (hdestination ▸ hfull) hnext
  | case2 f g hwaiting => rfl
  | case3 f g result hdone => rfl

/-- No octets arrive through what is done on this side. -/
theorem silent_outboundStep (now : Instant) (hsilent : f.destination.incoming = []) :
    (f.outboundStep now).state.destination.incoming = [] := by
  refine outboundStep_cases (P := fun _ hop => hop.state.destination.incoming = []) now f
    ?_ ?_ ?_ ?_ ?_ ?_ ?_ ?_ ?_ ?_
  case refine_7 =>
    intro octets link _ hread
    have hincoming := Link.incoming_of_read hread
    rw [hsilent] at hincoming
    exact absurd (List.append_eq_nil_iff.mp hincoming).1 (Link.ne_nil_of_read (by decide) hread)
  case refine_8 =>
    intro link _ _
    rw [toWires_emit]
    exact hsilent
  all_goals intros; exact hsilent

/-- Nothing is read from a destination that has sent nothing. -/
theorem readsDestination_of_silent (hsilent : f.destination.incoming = []) :
    f.readsDestination now = false := by
  fun_induction readsDestination now f with
  | case1 f g hon ih =>
    have hcompletes : f.completesRead = false := by
      cases hending : f.destination.ending with
      | none => simp [completesRead, Link.read, hsilent, hending]
      | some ending => cases ending <;> simp [completesRead, Link.read, hsilent, hending]
    have hnext := silent_outboundStep now hsilent
    rw [hon] at hnext
    rw [hcompletes, Bool.false_or]
    exact ih hnext
  | case2 f g hwaiting => rfl
  | case3 f g result hdone => rfl

/-- Whatever the relay does, it makes no contact with a destination out of reach. -/
theorem contacts_of_isOutOfReach (hgoes : (f.runFlows now).2 = none) (h : f.IsOutOfReach)
    (hpending : ∀ size, f.inbound ≠ .writing [] size) : f.contacts now = false := by
  obtain ⟨g, hin⟩ := runInbound_of_goes hgoes
  obtain ⟨hlane, -, -⟩ := runInbound_effect hin
  have hsilent : g.destination.incoming = [] := (congrArg Lane.incoming hlane).trans h.silent
  rw [contacts, hin, writesDestination_of_full h.noFault h.full hpending,
    readsDestination_of_silent hsilent]
  rfl

end Contacts

end Forwarding

end RelayTunnel
