import RelayTunnel.Proofs.Transcode.Calls
import RelayTunnel.Proofs.Tunnel.Links
import RelayTunnel.Tunnel.Forwarding

/-!
# Runs of forwarding

`inboundStep_cases` and `outboundStep_cases` list what a step of a direction can come to, with the
calls that it makes to the duplex. A run takes such steps in any order and at any moments, and between
them the far ends do what they like: deliver, close, fail, leave less or more room for writing, and
carry away what was written. `Kept.poll` says that `Forwarding.poll` is made of such steps, and
`Running.poll` that whatever it does belongs to a run.
-/

set_option autoImplicit false

namespace RelayTunnel

open Compression (BodyCompressor)
open Transcode (Duplex DuplexCall)

/-! ## What a step comes to -/

section Hops

variable {C : Type}

/-- The state that a step leaves. -/
def Hop.state : Hop C → Forwarding C
  | .on f | .waiting f | .done f _ => f

/-- How forwarding ended, if the step ended it. -/
def Hop.result? : Hop C → Option (Except TunnelError Closing)
  | .done _ result => some result
  | _ => none

end Hops

namespace Forwarding

variable {C : Type}

/-- The calls to the duplex that an inbound step makes. -/
def inboundCalls (f : Forwarding C) : List DuplexCall :=
  match f.inbound, f.first, f.relay.read readLimit with
  | .reading, b :: rest, _ => [.inspect (b :: rest)]
  | .reading, [], (.data octets, _) => [.inspect octets]
  | _, _, _ => []

/-- The calls to the duplex that an outbound step makes. -/
def outboundCalls (f : Forwarding C) : List DuplexCall :=
  match f.outbound, f.destination.read readLimit with
  | .reading, (.data octets, _) => [.transform octets]
  | .reading, (.ended, _) => [.finish]
  | _, _ => []

/-- What an inbound step can come to, with the calls that it makes. -/
theorem inboundStep_cases {P : List DuplexCall → Hop C → Prop} (now : Instant) (f : Forwarding C)
    (delivered : ∀ left size link, f.inbound = .writing left size →
      f.destination.write left = (.left [], link) →
      P [] (.on { f with
        destination := link
        counter := f.counter + .ofNat size
        watch := f.watch.touch now
        inbound := .reading }))
    (stalled : ∀ left size rest link, f.inbound = .writing left size → rest ≠ [] →
      f.destination.write left = (.left rest, link) →
      P [] (.waiting { f with destination := link, inbound := .writing rest size }))
    (undelivered : ∀ left size reason link, f.inbound = .writing left size →
      f.destination.write left = (.failed reason, link) →
      P [] (.done { f with destination := link } (.error (.io reason))))
    (handed : f.inbound = .reading → f.first ≠ [] →
      P [.inspect f.first] (.on (offer { f with first := [] } f.first)))
    (received : ∀ octets link, f.inbound = .reading → f.first = [] →
      f.relay.read readLimit = (.data octets, link) →
      P [.inspect octets] (.on (offer { f with
        relay := link
        counter := f.counter + .ofNat octets.length
        notices := f.notices ++ [.activity] } octets)))
    (quiet : ∀ link, f.inbound = .reading → f.first = [] →
      f.relay.read readLimit = (.waiting, link) → P [] (.waiting f))
    (closed : f.inbound = .reading → f.first = [] → P [] (.done f (.ok .relay)))
    (broken : ∀ reason, f.inbound = .reading → f.first = [] →
      P [] (.done f (.error (.io reason)))) :
    P f.inboundCalls (f.inboundStep now) := by
  unfold inboundStep inboundCalls
  cases hflow : f.inbound with
  | writing left size =>
    dsimp only
    rcases hwrite : f.destination.write left with ⟨_ | reason, link⟩
    · next rest =>
      cases rest with
      | nil => exact delivered left size link hflow hwrite
      | cons b rest => exact stalled left size (b :: rest) link hflow (List.cons_ne_nil b rest) hwrite
    · exact undelivered left size reason link hflow hwrite
  | reading =>
    dsimp only
    unfold receive
    cases hfirst : f.first with
    | cons b rest =>
      have hhanded := handed hflow (hfirst ▸ List.cons_ne_nil b rest)
      rw [hfirst] at hhanded
      exact hhanded
    | nil =>
      dsimp only
      rcases hread : f.relay.read readLimit with ⟨octets | _ | reason | _, link⟩
      · exact received octets link hflow hfirst hread
      · exact closed hflow hfirst
      · exact broken reason hflow hfirst
      · exact quiet link hflow hfirst hread

/-- What the transcoder gave is only set down to be written. -/
theorem toWires_emit (f : Forwarding C) (out : Bytes) (duplex : Duplex C) (last : Bool) :
    (f.emit out duplex last).state.toWires = f.toWires := by
  cases out <;> cases last <;> rfl

variable [BodyCompressor C]

/-- What an outbound step can come to, with the calls that it makes. -/
theorem outboundStep_cases {P : List DuplexCall → Hop C → Prop} (now : Instant) (f : Forwarding C)
    (sent : ∀ left size link flushed, f.outbound = .writing left size →
      f.relay.write left = (.left [], link) → link.flush = (.done, flushed) → f.lastWrite = false →
      P [] (.on { f with
        relay := flushed, counter := f.counter + .ofNat size, outbound := .reading }))
    (sentLast : ∀ left size link flushed, f.outbound = .writing left size →
      f.relay.write left = (.left [], link) → link.flush = (.done, flushed) → f.lastWrite = true →
      P [] (.done { f with
        relay := flushed, counter := f.counter + .ofNat size, outbound := .reading }
        (.ok .destination)))
    (unflushed : ∀ left size link, f.outbound = .writing left size →
      f.relay.write left = (.left [], link) → link.flush = (.waiting, link) →
      P [] (.waiting { f with relay := link, outbound := .writing [] size }))
    (unflushable : ∀ left size reason link, f.outbound = .writing left size →
      f.relay.write left = (.left [], link) → link.flush = (.failed reason, link) →
      P [] (.done { f with relay := link, outbound := .writing [] size } (.error (.io reason))))
    (stalled : ∀ left size rest link, f.outbound = .writing left size → rest ≠ [] →
      f.relay.write left = (.left rest, link) →
      P [] (.waiting { f with relay := link, outbound := .writing rest size }))
    (unsent : ∀ left size reason link, f.outbound = .writing left size →
      f.relay.write left = (.failed reason, link) →
      P [] (.done { f with relay := link } (.error (.io reason))))
    (answered : ∀ octets link, f.outbound = .reading →
      f.destination.read readLimit = (.data octets, link) →
      P [.transform octets] (emit { f with
        destination := link
        counter := f.counter + .ofNat octets.length
        notices := f.notices ++ [.activity]
        watch := f.watch.touch now }
        (f.duplex.transform octets).1 (f.duplex.transform octets).2 false))
    (finished : ∀ link, f.outbound = .reading → f.destination.read readLimit = (.ended, link) →
      P [.finish] (f.emit f.duplex.finish.1 f.duplex.finish.2 true))
    (quiet : ∀ link, f.outbound = .reading → f.destination.read readLimit = (.waiting, link) →
      P [] (.waiting f))
    (broken : ∀ reason, f.outbound = .reading → P [] (.done f (.error (.io reason)))) :
    P f.outboundCalls (f.outboundStep now) := by
  unfold outboundStep outboundCalls
  cases hflow : f.outbound with
  | writing left size =>
    dsimp only
    rcases hwrite : f.relay.write left with ⟨_ | reason, link⟩
    · next rest =>
      cases rest with
      | nil =>
        dsimp only [flush]
        rcases hflush : link.flush with ⟨_ | _ | reason, flushed⟩
        · dsimp only
          split
          · next hlast => exact sentLast left size link flushed hflow hwrite hflush hlast
          · next hlast =>
            exact sent left size link flushed hflow hwrite hflush (Bool.not_eq_true _ ▸ hlast)
        · obtain ⟨rfl, -, -⟩ := Link.eq_of_flush_ne_done hflush nofun
          exact unflushed left size flushed hflow hwrite hflush
        · obtain ⟨rfl, -, -⟩ := Link.eq_of_flush_ne_done hflush nofun
          exact unflushable left size reason flushed hflow hwrite hflush
      | cons b rest => exact stalled left size (b :: rest) link hflow (List.cons_ne_nil b rest) hwrite
    · exact unsent left size reason link hflow hwrite
  | reading =>
    dsimp only
    rcases hread : f.destination.read readLimit with ⟨octets | _ | reason | _, link⟩
    · have hanswered := answered octets link hflow hread
      rw [hflow] at hanswered
      exact hanswered
    · exact finished link hflow hread
    · exact broken reason hflow
    · exact quiet link hflow hread

/-- How forwarding can end at a moment, with the calls to the duplex that are made then. -/
inductive Concludes (now : Instant) (f : Forwarding C) :
    List DuplexCall → Forwarding C → Except TunnelError Closing → Prop where
  | inbound {g : Forwarding C} {result : Except TunnelError Closing} :
      f.inboundStep now = .done g result → Concludes now f f.inboundCalls g result
  | outbound {g : Forwarding C} {result : Except TunnelError Closing} :
      f.outboundStep now = .done g result → Concludes now f f.outboundCalls g result
  | silent : f.watch.look now = .expired →
      Concludes now f [] f (.error (.destinationTimeout f.watch.idle))

/-! ## What polling is made of -/

/-- A property of calls and states that the steps at a moment keep as long as they do not end
forwarding. -/
structure Kept (now : Instant) (P : List DuplexCall → Forwarding C → Prop) : Prop where
  inbound {calls : List DuplexCall} {f : Forwarding C} :
    P calls f → (f.inboundStep now).result? = none →
      P (calls ++ f.inboundCalls) (f.inboundStep now).state
  outbound {calls : List DuplexCall} {f : Forwarding C} :
    P calls f → (f.outboundStep now).result? = none →
      P (calls ++ f.outboundCalls) (f.outboundStep now).state
  watched {calls : List DuplexCall} {f : Forwarding C} {watch : IdleWatch} :
    P calls f → f.watch.look now = .watching watch → P calls { f with watch := watch }

/-- What steps at a moment have come to: a state with the property, an end in such a state, or such a
state in which the watch is lost. -/
def Came (P : List DuplexCall → Forwarding C → Prop) (now : Instant) (calls : List DuplexCall) :
    Forwarding C × Verdict → Prop
  | (f, .goesOn) => ∃ more, P (calls ++ more) f
  | (f, .ended result) =>
      ∃ more last final, P (calls ++ more) last ∧ last.Concludes now final f result
  | (f, .crashed) => ∃ more, P (calls ++ more) f ∧ f.watch.look now = .lost

/-- What a direction has come to, as a verdict. -/
def verdict : Forwarding C × Option (Except TunnelError Closing) → Forwarding C × Verdict
  | (f, none) => (f, .goesOn)
  | (f, some result) => (f, .ended result)

section Polls

variable {P : List DuplexCall → Forwarding C → Prop} {now : Instant} {calls more : List DuplexCall}
variable {f : Forwarding C} {outcome : Forwarding C × Verdict}

/-- What was come to after some calls was come to after fewer of them. -/
theorem Came.of_append (h : Came P now (calls ++ more) outcome) : Came P now calls outcome := by
  rcases outcome with ⟨g, _ | result | _⟩
  · obtain ⟨later, hlater⟩ := h
    exact ⟨more ++ later, by rwa [← List.append_assoc]⟩
  · obtain ⟨later, last, final, hlater, hends⟩ := h
    exact ⟨more ++ later, last, final, by rwa [← List.append_assoc], hends⟩
  · obtain ⟨later, hlater, hlost⟩ := h
    exact ⟨more ++ later, by rwa [← List.append_assoc], hlost⟩

/-- What has come to have a property has come to have any that follows from it. -/
theorem Came.mono {Q : List DuplexCall → Forwarding C → Prop} (h : Came P now calls outcome)
    (himp : ∀ {calls f}, P calls f → Q calls f) : Came Q now calls outcome := by
  rcases outcome with ⟨g, _ | result | _⟩
  · obtain ⟨more, hmore⟩ := h
    exact ⟨more, himp hmore⟩
  · obtain ⟨more, last, final, hlast, hends⟩ := h
    exact ⟨more, last, final, himp hlast, hends⟩
  · obtain ⟨more, hmore, hlost⟩ := h
    exact ⟨more, himp hmore, hlost⟩

/-- Forwarding that ends in a state with the property has come to it. -/
theorem Came.of_concludes {g : Forwarding C} {result : Except TunnelError Closing} (h : P calls f)
    {final : List DuplexCall} (hends : f.Concludes now final g result) :
    Came P now calls (g, .ended result) :=
  ⟨[], f, final, by rwa [List.append_nil], hends⟩

namespace Kept

/-- The inbound direction keeps such a property. -/
theorem runInbound (hkept : Kept now P) (h : P calls f) :
    Came P now calls (verdict (f.runInbound now)) := by
  fun_induction Forwarding.runInbound now f generalizing calls with
  | case1 f g hon ih =>
    have hnext := hkept.inbound h (by rw [hon]; rfl)
    rw [hon] at hnext
    exact (ih hnext).of_append
  | case2 f g hwaiting =>
    have hnext := hkept.inbound h (by rw [hwaiting]; rfl)
    rw [hwaiting] at hnext
    exact ⟨_, hnext⟩
  | case3 f g result hdone => exact .of_concludes h (.inbound hdone)

/-- So does the outbound direction. -/
theorem runOutbound (hkept : Kept now P) (h : P calls f) :
    Came P now calls (verdict (f.runOutbound now)) := by
  fun_induction Forwarding.runOutbound now f generalizing calls with
  | case1 f g hon ih =>
    have hnext := hkept.outbound h (by rw [hon]; rfl)
    rw [hon] at hnext
    exact (ih hnext).of_append
  | case2 f g hwaiting =>
    have hnext := hkept.outbound h (by rw [hwaiting]; rfl)
    rw [hwaiting] at hnext
    exact ⟨_, hnext⟩
  | case3 f g result hdone => exact .of_concludes h (.outbound hdone)

/-- So does a look at the watch. -/
theorem checkIdle (hkept : Kept now P) (h : P calls f) : Came P now calls (f.checkIdle now) := by
  rw [Forwarding.checkIdle]
  cases hlook : f.watch.look now with
  | watching watch =>
    have hwatched := hkept.watched h hlook
    exact ⟨[], by rwa [List.append_nil]⟩
  | expired => exact .of_concludes h (.silent hlook)
  | lost => exact ⟨[], by rwa [List.append_nil], hlook⟩

/-- Polling is made of inbound steps, then outbound steps, then a look at the watch, up to the first
of them that ends forwarding. -/
theorem poll (hkept : Kept now P) (h : P calls f) : Came P now calls (f.poll now) := by
  have hinbound := hkept.runInbound h
  rw [Forwarding.poll]
  rcases hin : f.runInbound now with ⟨g, _ | result⟩
  · rw [hin] at hinbound
    obtain ⟨before, hg⟩ := hinbound
    have houtbound := hkept.runOutbound hg
    dsimp only
    rcases hout : g.runOutbound now with ⟨g', _ | result⟩
    · rw [hout] at houtbound
      obtain ⟨behind, hg'⟩ := houtbound
      exact (hkept.checkIdle hg').of_append.of_append
    · rw [hout] at houtbound
      exact houtbound.of_append
  · rw [hin] at hinbound
    exact hinbound

end Kept

end Polls

/-! ## Runs -/

section Runs

variable (wires : Wires) (first : Bytes) (idle : Duration) (begin_ : Instant)

/-- The states of forwarding that has not ended, with the calls it has made to the duplex and the
octets that have been carried away from the relay's connection. -/
inductive Running : List DuplexCall → Bytes → Forwarding C → Prop where
  | start : Running [] [] (.start wires first idle begin_)
  /-- The far ends do something. What was written to the relay is carried away from the front. -/
  | farEnds {calls : List DuplexCall} {carried : Bytes} {f : Forwarding C} (taken : Bytes) (w : Wires) :
      Running calls carried f → f.relay.outgoing = taken ++ w.relay.outgoing →
      Running calls (carried ++ taken) { f with toWires := w }
  | inbound {calls : List DuplexCall} {carried : Bytes} {f : Forwarding C} (now : Instant) :
      Running calls carried f → (f.inboundStep now).result? = none →
      Running (calls ++ f.inboundCalls) carried (f.inboundStep now).state
  | outbound {calls : List DuplexCall} {carried : Bytes} {f : Forwarding C} (now : Instant) :
      Running calls carried f → (f.outboundStep now).result? = none →
      Running (calls ++ f.outboundCalls) carried (f.outboundStep now).state
  | watched {calls : List DuplexCall} {carried : Bytes} {f : Forwarding C} {watch : IdleWatch}
      (now : Instant) :
      Running calls carried f → f.watch.look now = .watching watch →
      Running calls carried { f with watch := watch }

/-- The states in which forwarding ends, with how it ends. -/
inductive Ended : List DuplexCall → Bytes → Forwarding C → Except TunnelError Closing → Prop where
  | inbound {calls : List DuplexCall} {carried : Bytes} {f : Forwarding C}
      {result : Except TunnelError Closing} (now : Instant) :
      Running wires first idle begin_ calls carried f →
      (f.inboundStep now).result? = some result →
      Ended (calls ++ f.inboundCalls) carried (f.inboundStep now).state result
  | outbound {calls : List DuplexCall} {carried : Bytes} {f : Forwarding C}
      {result : Except TunnelError Closing} (now : Instant) :
      Running wires first idle begin_ calls carried f →
      (f.outboundStep now).result? = some result →
      Ended (calls ++ f.outboundCalls) carried (f.outboundStep now).state result
  | silent {calls : List DuplexCall} {carried : Bytes} {f : Forwarding C} (now : Instant) :
      Running wires first idle begin_ calls carried f → f.watch.look now = .expired →
      Ended calls carried f (.error (.destinationTimeout f.watch.idle))

/-- What a stretch of forwarding has come to. -/
def Reached (calls : List DuplexCall) (carried : Bytes) : Forwarding C × Verdict → Prop
  | (f, .goesOn) => Running wires first idle begin_ calls carried f
  | (f, .ended result) => Ended wires first idle begin_ calls carried f result
  | (f, .crashed) => Running wires first idle begin_ calls carried f

variable {wires first idle begin_}
variable {calls : List DuplexCall} {carried : Bytes} {f : Forwarding C} (now : Instant)

/-- The states of running forwarding are kept by the steps. -/
theorem kept_running :
    Kept now fun calls (f : Forwarding C) => Running wires first idle begin_ calls carried f where
  inbound h hgoes := h.inbound now hgoes
  outbound h hgoes := h.outbound now hgoes
  watched h hlook := h.watched now hlook

/-- Forwarding that runs and ends has run to its end. -/
theorem Running.ended {final : List DuplexCall} {g : Forwarding C}
    {result : Except TunnelError Closing} (h : Running wires first idle begin_ calls carried f)
    (hends : f.Concludes now final g result) :
    Ended wires first idle begin_ (calls ++ final) carried g result := by
  cases hends with
  | inbound hdone =>
    have hend := Ended.inbound now h (by rw [hdone]; rfl)
    rwa [hdone] at hend
  | outbound hdone =>
    have hend := Ended.outbound now h (by rw [hdone]; rfl)
    rwa [hdone] at hend
  | silent hexpired =>
    rw [List.append_nil]
    exact .silent now h hexpired

/-- Whatever can be done at a moment belongs to a run, or ends it. -/
theorem Running.poll (h : Running wires first idle begin_ calls carried f) :
    ∃ more, Reached wires first idle begin_ (calls ++ more) carried (f.poll now) := by
  have hcame := (kept_running now).poll h
  rcases hpoll : f.poll now with ⟨g, _ | result | _⟩ <;> rw [hpoll] at hcame
  · exact hcame
  · obtain ⟨more, last, final, hlast, hends⟩ := hcame
    have hend := hlast.ended now hends
    rw [List.append_assoc] at hend
    exact ⟨more ++ final, hend⟩
  · obtain ⟨more, hg, -⟩ := hcame
    exact ⟨more, hg⟩

end Runs

end Forwarding

end RelayTunnel
