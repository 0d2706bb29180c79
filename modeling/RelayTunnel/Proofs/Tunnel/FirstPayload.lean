import RelayTunnel.Proofs.Tunnel.Lifecycle

/-!
# The first payload of a session

A tunnel that its relay has accepted looks at the first payload to see whether the relay has ended the
session in its place. The first payload is what the first read behind the answer's head gives, so it may be
any front piece of what the relay sends there.

Every life is one in which no payload has been taken yet (`Unpaid`) or one with a certain first payload
(`Paid`). In the latter a dismissal is seen exactly if the mark of one, the five octets `HTTP/`, is in that
piece (`first_payload_decides`). A cut within the mark makes the tunnel take the dismissal for payload: it
reports activity and turns to its destination (`cut_mark_is_missed`).
-/

set_option autoImplicit false

namespace RelayTunnel

open Compression (BodyCompressor Compressor)
open Http (takeResponse)
open Transcode (DuplexCall)

namespace Dismissal

/-- Payload is taken for a dismissal exactly if the mark stands in front of it. -/
theorem isSome_ofPayload? (payload : Bytes) :
    (ofPayload? payload).isSome = mark.isPrefixOf payload := by
  rw [ofPayload?]
  cases mark.isPrefixOf payload with
  | false => rfl
  | true =>
    rw [if_pos rfl]
    split <;> rfl

/-- A front piece of something marked is marked exactly if the mark fits into it. -/
theorem isSome_iff_length {payload whole : Bytes} (hpayload : payload <+: whole)
    (hmark : mark <+: whole) : (ofPayload? payload).isSome = true ↔ 5 ≤ payload.length := by
  have hlength : mark.length = 5 := by decide
  rw [isSome_ofPayload?, List.isPrefixOf_iff_prefix, ← hlength]
  constructor
  · exact List.IsPrefix.length_le
  · exact List.prefix_of_prefix_length_le hmark hpayload

end Dismissal

/-- The stages in which a tunnel has turned to its destination. -/
def Stage.isTurned {C : Type} : Stage C → Bool
  | .dialingDestination .. | .forwarding _ | .crashed => true
  | _ => false

namespace Tunnel

variable {C : Type} [BodyCompressor C]
variable {relay : Endpoint} {options : TunnelOptions} {p p' : Passage} {t t' : Tunnel C}
variable {calls : List DuplexCall} {error : Option TunnelError} {payload : Bytes}

/-! ## Before the first payload -/

/-- No payload has been taken: the tunnel has reported no activity, and it has not turned to its
destination. -/
structure Unpaid (p : Passage) (t : Tunnel C) : Prop where
  unturned : t.stage.isTurned = false
  quiet : .activity ∉ reported p t
  untouched : Untouched (p.given .destination) p.calls t

/-- The reason for which a payload ends its tunnel, if it does. -/
def reasons (payload : Bytes) : List (Option TunnelError) :=
  ((Dismissal.ofPayload? payload).map fun dismissal => some (.serverDisconnect dismissal.status)).toList

/-- A life in which this was the first payload. -/
inductive Paid (relay : Endpoint) (options : TunnelOptions) (payload : Bytes) :
    Passage → Tunnel C → Prop where
  | taken {p : Passage} {t t' : Tunnel C} {destination : Endpoint} :
      Reachable relay options p t → Unpaid p t → FirstPayload t destination payload t' →
      Paid relay options payload (p.work [] (reasons payload)) (t'.takePayload destination payload)
  | step {p p' : Passage} {t t' : Tunnel C} :
      Paid relay options payload p t → Step p t p' t' → Paid relay options payload p' t'

/-- To take the first payload is a step. -/
theorem FirstPayload.step {destination : Endpoint} (h : FirstPayload t destination payload t') (p : Passage) :
    Step p t (p.work [] (reasons payload)) (t'.takePayload destination payload) := by
  rw [reasons, takePayload]
  cases hdismissal : Dismissal.ofPayload? payload with
  | none => exact .moved (.paid h hdismissal)
  | some dismissal => exact .stopped (.dismissed h hdismissal)

/-- A life with a first payload is a life. -/
theorem Paid.reachable (h : Paid relay options payload p t) : Reachable relay options p t := by
  induction h with
  | taken hreach _ hfirst => exact hreach.step (hfirst.step _)
  | step _ hstep ih => exact ih.step hstep

namespace Unpaid

omit [BodyCompressor C] in
/-- What does not reach the payload leaves it untaken. -/
theorem of_same (h : Unpaid p t) (hturned : t'.stage.isTurned = false)
    (hquiet : .activity ∉ reported p' t') (hcalls : p'.calls = p.calls)
    (hgiven : p'.given .destination ++ t'.wires.destination.outgoing =
      p.given .destination ++ t.wires.destination.outgoing) : Unpaid p' t' := by
  refine ⟨hturned, hquiet, ?_, ?_⟩
  · rw [hcalls]
    exact h.untouched.1
  · rw [hgiven]
    exact h.untouched.2

omit [BodyCompressor C] in
/-- To be accepted leaves the payload untaken. -/
theorem accept (h : Unpaid p t) (link : Link) (destination : Endpoint) :
    Unpaid (p.work [] []) (t.accept link destination) := by
  refine h.of_same rfl ?_ (List.append_nil _) rfl
  have hquiet := h.quiet
  show .activity ∉ p.told ++ (t.wires.notices ++ [.connected])
  rw [← List.append_assoc]
  simpa [reported] using hquiet

/-- A move leaves the payload untaken or takes it. -/
theorem move (h : Unpaid p t) (hmove : Move t calls t') :
    Unpaid (p.work calls []) t' ∨
      ∃ destination payload t₁, FirstPayload t destination payload t₁ ∧
        calls = [] ∧ reasons payload = [] ∧ t' = t₁.takePayload destination payload := by
  have hquiet := h.quiet
  cases hmove with
  | begun _ | reached _ _ _ | waited _ _ =>
    exact .inl (h.of_same rfl hquiet (List.append_nil _) rfl)
  | accepted _ _ _ _ => exact .inl (h.accept _ _)
  | paid hfirst hnone =>
    refine .inr ⟨_, _, _, hfirst, rfl, ?_, ?_⟩
    · rw [reasons, hnone]
      rfl
    · rw [takePayload, hnone]
  | joined _ _ hstage _ | inbound _ hstage _ | outbound _ hstage _ | watched _ hstage _ =>
    -- only a tunnel that has turned to its destination moves in this way
    have hturned := h.unturned
    rw [hstage] at hturned
    cases hturned

/-- So does a tunnel that ends by itself. -/
theorem stop (h : Unpaid p t) (hstop : Stop t calls t' error) :
    Unpaid (p.work calls []) t' ∨
      ∃ destination payload t₁, FirstPayload t destination payload t₁ ∧
        calls = [] ∧ reasons payload = [error] ∧
        t'.destroy error = t₁.takePayload destination payload := by
  have hquiet := h.quiet
  cases hstop with
  | refused _ _ | relayUnusable _ _ _ | unopened _ _ | rejected _ _ _ | unpaid _ _
  | unreadable _ _ =>
    exact .inl (h.of_same h.unturned hquiet (List.append_nil _) rfl)
  | dismissed hfirst hsome =>
    refine .inr ⟨_, _, _, hfirst, rfl, ?_, ?_⟩
    · rw [reasons, hsome]
      rfl
    · rw [takePayload, hsome]
      rfl
  | destinationUnusable _ hstage _ | concluded _ hstage _ =>
    have hturned := h.unturned
    rw [hstage] at hturned
    cases hturned

omit [BodyCompressor C] in
/-- A tunnel that is told to end has not taken its payload. -/
theorem destroy (h : Unpaid p t) (error : Option TunnelError) :
    Unpaid (p.work [] [error]) (t.destroy error) := by
  have hquiet := h.quiet
  by_cases hgone : t.state = .destroyed
  · rw [destroy_of_destroyed hgone]
    exact h.of_same h.unturned hquiet (List.append_nil _) rfl
  · rw [destroy_of_live hgone]
    refine h.of_same rfl ?_ (List.append_nil _) rfl
    show .activity ∉ p.told ++ (t.wires.notices ++ [.destroyed error])
    rw [← List.append_assoc]
    simpa [reported] using hquiet

/-- A tunnel that is connected and has taken no payload waits for it. -/
theorem awaiting (h : Unpaid p t) (hreach : Reachable relay options p t)
    (hconnected : t.state = .connected) : ∃ destination, t.stage = .awaitingPayload destination := by
  have hstate := hreach.state_eq
  have hturned := h.unturned
  rw [hconnected] at hstate
  generalize t.stage = stage at hstate hturned ⊢
  cases stage with
  | awaitingPayload destination => exact ⟨destination, rfl⟩
  | dialingDestination _ _ | forwarding _ | crashed => cases hturned
  | _ => cases hstate

/-- Whatever happens before the first payload is taken, either it is taken then or it is not. -/
theorem step (h : Unpaid p t) (hreach : Reachable relay options p t) (hstep : Step p t p' t') :
    Unpaid p' t' ∨ ∃ payload, Paid relay options payload p' t' := by
  cases hstep with
  | moved hmove =>
    rcases h.move hmove with hunpaid | ⟨destination, payload, t₁, hfirst, rfl, hreasons, rfl⟩
    · exact .inl hunpaid
    · refine .inr ⟨payload, ?_⟩
      rw [← hreasons]
      exact .taken hreach h hfirst
  | @stopped calls t' error hstop =>
    rcases h.stop hstop with hunpaid | ⟨destination, payload, t₁, hfirst, rfl, hreasons, htaken⟩
    · have hgone := hunpaid.destroy error
      rw [Passage.work_work, List.append_nil, List.nil_append] at hgone
      exact .inl hgone
    · refine .inr ⟨payload, ?_⟩
      rw [← hreasons, htaken]
      exact .taken hreach h hfirst
  | destroyed error => exact .inl (h.destroy error)
  | crashed now hstage _ =>
    have hturned := h.unturned
    rw [hstage] at hturned
    cases hturned
  | farEnds sent taken links _ _ houtgoing _ =>
    refine .inl (h.of_same h.unturned h.quiet rfl ?_)
    show p.given .destination ++ taken .destination ++ (links .destination).outgoing = _
    rw [List.append_assoc]
    exact congrArg (p.given .destination ++ ·) (houtgoing .destination).symm
  | collected =>
    refine .inl (h.of_same h.unturned ?_ rfl rfl)
    show .activity ∉ p.told ++ t.wires.notices ++ []
    rw [List.append_nil]
    exact h.quiet

end Unpaid

/-- In every life, the first payload has been taken or not. -/
theorem Reachable.unpaid_or_paid (h : Reachable relay options p t) :
    Unpaid p t ∨ ∃ payload, Paid relay options payload p t := by
  induction h with
  | spawned => exact .inl ⟨rfl, nofun, rfl, rfl⟩
  | step hreach hstep ih =>
    rcases ih with hunpaid | ⟨payload, hpaid⟩
    · exact hunpaid.step hreach hstep
    · exact .inr ⟨payload, hpaid.step hstep⟩

/-! ## Behind the first payload -/

/-- When the first payload is taken, the tunnel has reported that it is connected and nothing else. -/
theorem FirstPayload.reported_eq {destination : Endpoint} (h : FirstPayload t destination payload t')
    (hreach : Reachable relay options p t) (hunpaid : Unpaid p t) : reported p t' = [.connected] := by
  have hstate := hreach.state_eq
  cases h with
  | behindAnswer hstage _ _ _ =>
    rw [hstage] at hstate
    have hlively := (hreach.told.lively (by rw [hstate]; exact nofun)).1
    rw [hstate] at hlively
    generalize hreported : reported p t = notices at hlively
    cases hlively
    show p.told ++ (t.wires.notices ++ [.connected]) = [.connected]
    rw [← List.append_assoc]
    exact congrArg (· ++ [.connected]) hreported
  | read hstage _ =>
    rw [hstage] at hstate
    have hlively := (hreach.told.lively (by rw [hstate]; exact nofun)).1
    have hquiet := hunpaid.quiet
    show reported p t = [.connected]
    rw [hstate] at hlively
    generalize reported p t = notices at hlively hquiet ⊢
    cases hlively with
    | connected activities _ =>
      cases activities with
      | zero => rfl
      | succ n => simp at hquiet

/-- A tunnel that takes its first payload is alive. -/
theorem FirstPayload.live {destination : Endpoint} (h : FirstPayload t destination payload t')
    (hreach : Reachable relay options p t) : t'.state ≠ .destroyed := by
  rw [h.state_eq hreach.state_eq]
  exact nofun

omit [BodyCompressor C] in
/-- A dismissal ends the tunnel at once. -/
theorem takePayload_of_dismissal (hlive : t.state ≠ .destroyed) {dismissal : Dismissal}
    (hsome : Dismissal.ofPayload? payload = some dismissal) (destination : Endpoint) :
    t.takePayload destination payload =
      { t with
        state := .destroyed
        stage := .over
        wires := (t.wires.count payload.length).close.report
          (.destroyed (some (.serverDisconnect dismissal.status))) } := by
  have hcounted : { t with wires := t.wires.count payload.length }.state ≠ .destroyed := hlive
  rw [takePayload, hsome]
  exact destroy_of_live hcounted _

/-- What has been reported is never taken back. -/
theorem Step.reported_prefix (h : Step p t p' t') (hstate : t.state = t.stage.state) :
    reported p t <+: reported p' t' := by
  have hreports : ∀ {t₁ : Tunnel C}, Reports t t₁ → t.wires.notices <+: t₁.wires.notices := by
    intro t₁ hreports
    cases hreports with
    | nothing _ hnotices => exact hnotices ▸ List.prefix_rfl
    | activity _ _ hnotices => exact hnotices ▸ List.prefix_append _ _
    | connected _ _ _ _ _ hnotices => exact hnotices ▸ List.prefix_append _ _
  have hdestroy : ∀ (t₁ : Tunnel C) (error : Option TunnelError),
      t₁.wires.notices <+: (t₁.destroy error).wires.notices := by
    intro t₁ error
    by_cases hgone : t₁.state = .destroyed
    · simp [destroy_of_destroyed hgone]
    · rw [destroy_of_live hgone]
      exact List.prefix_append _ _
  cases h with
  | moved hmove => exact (List.prefix_append_right_inj p.told).mpr (hreports (hmove.reports hstate))
  | stopped hstop =>
    exact (List.prefix_append_right_inj p.told).mpr
      ((hreports (hstop.reports hstate)).trans (hdestroy _ _))
  | destroyed error => exact (List.prefix_append_right_inj p.told).mpr (hdestroy t error)
  | crashed _ _ _ | farEnds _ _ _ _ _ _ _ => exact List.prefix_rfl
  | collected => exact List.prefix_append _ _

/-- The tunnel has ended because of a dismissal. It has reported nothing else since it was connected, and
nothing has gone to a destination or ever will. -/
structure Dismissed (p : Passage) (t : Tunnel C) (status : Option Nat) : Prop where
  reported_eq : reported p t = [.connected, .destroyed (some (.serverDisconnect status))]
  destroyed : t.state = .destroyed
  untouched : Untouched (p.given .destination) p.calls t

/-- A tunnel that was dismissed stays so, whatever happens. -/
theorem Dismissed.step {status : Option Nat} (h : Dismissed p t status)
    (hreach : Reachable relay options p t) (hstep : Step p t p' t') : Dismissed p' t' status := by
  have hstate := hreach.state_eq
  have hreported := h.reported_eq
  have hidle : ∀ {t₁ : Tunnel C}, Reports t t₁ → t₁.state = .destroyed := by
    intro t₁ hreports
    have hto := hreports.to hstate
    rw [h.destroyed] at hto
    generalize t₁.state = after at hto
    cases hto <;> rfl
  cases hstep with
  | moved hmove => exact absurd (hidle (hmove.reports hstate)) (hmove.live hstate)
  | stopped hstop => exact absurd (hidle (hstop.reports hstate)) (hstop.live hstate)
  | destroyed error =>
    rw [destroy_of_destroyed h.destroyed]
    exact ⟨hreported, h.destroyed, (List.append_nil _).trans h.untouched.1, h.untouched.2⟩
  | crashed _ hstage _ =>
    rw [hstage, h.destroyed] at hstate
    cases hstate
  | farEnds sent taken links _ _ houtgoing _ =>
    refine ⟨hreported, h.destroyed, h.untouched.1, ?_⟩
    show p.given .destination ++ taken .destination ++ (links .destination).outgoing = []
    rw [List.append_assoc]
    have hout : t.wires.destination.outgoing = _ := houtgoing .destination
    rw [← hout]
    exact h.untouched.2
  | collected =>
    exact ⟨(List.append_nil _).trans hreported, h.destroyed, h.untouched⟩

namespace Paid

/-- The first payload is not empty, and stands behind the head of the answer. -/
theorem piece (h : Paid relay options payload p t) :
    payload ≠ [] ∧ payload <+: behindHead (p.sent .relay) := by
  induction h with
  | @taken p t t' destination hreach _ hfirst =>
    have hheaded := (hreach.streaming.firstPayload hfirst).1
    refine ⟨?_, ?_⟩
    · cases hfirst with
      | behindAnswer _ _ _ hsome => exact hsome
      | read _ hread => exact Link.ne_nil_of_read (by decide) hread
    · show payload <+: behindHead (p.sent .relay)
      rw [hheaded.behindHead_eq]
      exact List.prefix_append _ _
  | @step p p' t t' _ hstep ih =>
    refine ⟨ih.1, ih.2.trans ?_⟩
    cases hstep with
    | farEnds sent taken links _ _ _ _ => exact prefix_behindHead _ _
    | moved _ | stopped _ | destroyed _ | crashed _ _ _ | collected => exact List.prefix_rfl

/-- A payload that is a dismissal has ended the tunnel. -/
theorem dismissed (h : Paid relay options payload p t) {dismissal : Dismissal}
    (hsome : Dismissal.ofPayload? payload = some dismissal) : Dismissed p t dismissal.status := by
  induction h with
  | @taken p t t' destination hreach hunpaid hfirst =>
    have hreported := hfirst.reported_eq hreach hunpaid
    have huntouched := (hreach.streaming.firstPayload hfirst).2
    rw [takePayload_of_dismissal (hfirst.live hreach) hsome]
    refine ⟨?_, rfl, (List.append_nil _).trans huntouched.1, huntouched.2⟩
    show p.told ++ (t'.wires.notices ++ [_]) = _
    rw [← List.append_assoc]
    exact congrArg (· ++ [_]) hreported
  | step hpaid hstep ih => exact ih.step hpaid.reachable hstep

/-- Any other payload has made the tunnel report activity, right after the connection. -/
theorem reported_prefix (h : Paid relay options payload p t)
    (hnone : Dismissal.ofPayload? payload = none) : [.connected, .activity] <+: reported p t := by
  induction h with
  | @taken p t t' destination hreach hunpaid hfirst =>
    have hreported := hfirst.reported_eq hreach hunpaid
    have htold : reported p t' ++ [.activity] =
        reported (p.work [] (reasons payload)) (t'.takePayload destination payload) := by
      rw [takePayload, hnone]
      exact List.append_assoc _ _ _
    exact htold ▸ hreported ▸ List.prefix_rfl
  | step hpaid hstep ih => exact ih.trans (hstep.reported_prefix hpaid.reachable.state_eq)

end Paid

/-! ## Every life -/

/-- Something has arrived behind the answer of a relay that accepts the session, and the tunnel has not
gone past the answer. -/
def Payable (p : Passage) (t : Tunnel C) : Prop :=
  behindHead (p.sent .relay) ≠ [] ∧
    ((∃ destination, t.stage = .awaitingPayload destination) ∨
      ∃ opened destination, t.OpensWith (.ok opened) ∧ destinationOf opened.head = .ok destination)

/-- What comes of working is a life with a first payload. -/
def Pays (relay : Endpoint) (options : TunnelOptions) (p : Passage) (t : Tunnel C) : Prop :=
  ∃ payload ends, Paid relay options payload (p.work [] ends) t

/-- A tunnel that waits for its payload takes it once something has arrived. -/
theorem Unpaid.pollPayload (h : Unpaid p t) (hreach : Reachable relay options p t)
    {destination : Endpoint} (hstage : t.stage = .awaitingPayload destination)
    (hsent : behindHead (p.sent .relay) ≠ []) :
    Pays relay options p (t.pollPayload destination) := by
  have hstreaming := hreach.streaming
  rw [Streaming, hstage] at hstreaming
  rw [hstreaming.1.behindHead_eq] at hsent
  obtain ⟨payload, link, hread⟩ := Link.exists_read hsent payloadLimit
  rw [Tunnel.pollPayload, hread]
  exact ⟨payload, _, .taken hreach h (.read hstage hread)⟩

/-- A tunnel that can take its first payload does so when it is polled. -/
theorem Unpaid.poll (h : Unpaid p t) (hreach : Reachable relay options p t) (hpayable : Payable p t)
    (now : Instant) : Pays relay options p (t.poll now) := by
  obtain ⟨hsent, ⟨destination, hstage⟩ | ⟨opened, destination, hopens, hdestination⟩⟩ := hpayable
  · rw [Tunnel.poll, hstage]
    exact h.pollPayload hreach hstage hsent
  · obtain ⟨opening, link, hstage, hpoll⟩ := hopens
    rw [Tunnel.poll, hstage]
    dsimp only
    rw [Tunnel.pollOpening, hpoll]
    dsimp only
    rw [takeAnswer, hdestination]
    dsimp only
    split
    · next hempty =>
      have haccepted := (Reachable.lasting relay options).move hreach
        (.accepted hstage hpoll hdestination (List.isEmpty_iff.mp hempty))
      obtain ⟨payload, ends, hpaid⟩ := (h.accept link destination).pollPayload haccepted rfl hsent
      rw [Passage.work_work] at hpaid
      exact ⟨payload, _, hpaid⟩
    · next hsome =>
      have hfirst : FirstPayload t destination opened.leftover (t.accept link destination) :=
        .behindAnswer hstage hpoll hdestination fun hnone => hsome (List.isEmpty_iff.mpr hnone)
      exact ⟨opened.leftover, _, .taken hreach h hfirst⟩

/-- The first payload decides whether a dismissal is seen. In every life either no payload has been taken,
and then the tunnel takes one as soon as it is polled with something to take, or there is a first payload,
and it is a front piece of what the relay has sent behind its answer. If the relay sends a dismissal there,
it ends the tunnel, without activity and with nothing given to a destination, exactly if the first payload
is long enough to hold the mark. Otherwise the tunnel reports activity. -/
theorem first_payload_decides (C : Type) [BodyCompressor C] (relay : Endpoint)
    (options : TunnelOptions) :
    (∀ p, ∀ t : Tunnel C, Reachable relay options p t →
      (Unpaid p t ∧ (Payable p t → ∀ now, Pays relay options p (t.poll now))) ∨
        ∃ payload, Paid relay options payload p t) ∧
    ∀ payload p, ∀ t : Tunnel C, Paid relay options payload p t →
      payload ≠ [] ∧ payload <+: behindHead (p.sent .relay) ∧
      ∀ later, Dismissal.mark <+: behindHead (p.sent .relay ++ later) →
        (5 ≤ payload.length → Inert t ∧ ∃ dismissal,
          Dismissal.ofPayload? payload = some dismissal ∧ Dismissed p t dismissal.status) ∧
        (payload.length < 5 → [.connected, .activity] <+: reported p t) := by
  constructor
  · intro p t hreach
    rcases hreach.unpaid_or_paid with hunpaid | hpaid
    · exact .inl ⟨hunpaid, hunpaid.poll hreach⟩
    · exact .inr hpaid
  · intro payload p t hpaid
    obtain ⟨hsome, hpiece⟩ := hpaid.piece
    refine ⟨hsome, hpiece, fun later hmark => ?_⟩
    have hseen := Dismissal.isSome_iff_length (hpiece.trans (prefix_behindHead _ later)) hmark
    constructor
    · intro hlong
      obtain ⟨dismissal, hdismissal⟩ := Option.isSome_iff_exists.mp (hseen.mpr hlong)
      have hdismissed := hpaid.dismissed hdismissal
      exact ⟨hpaid.reachable.inert hdismissed.destroyed, dismissal, hdismissal, hdismissed⟩
    · intro hshort
      refine hpaid.reported_prefix (Option.not_isSome_iff_eq_none.mp fun hisSome => ?_)
      exact absurd (hseen.mp hisSome) (Nat.not_le.mpr hshort)

/-- A tunnel to which its relay has sent something more. -/
def hearing (t : Tunnel C) (octets : Bytes) : Tunnel C :=
  { t with wires := t.wires.modifyLink .relay (·.deliver octets) }

/-- A relay may go on sending while it has a far end. -/
theorem Reachable.hearing (h : Reachable relay options p t) (hfarEnd : t.hasFarEnd .relay = true)
    (octets : Bytes) :
    Reachable relay options (p.exchange (Side.relay.only octets) (Side.relay.only []))
      (t.hearing octets) :=
  h.modifyLink .relay (fun hnone => absurd (hfarEnd.symm.trans hnone) nofun) rfl
    (List.nil_append _).symm rfl

/-- The answer of a relay that accepts. -/
def accepting : Bytes := Ascii.bytes "HTTP/1.1 200 OK\r\nX-RV-Host: http://[::1]:8080/\r\n\r\n"

/-- A dismissal. -/
def dismissing : Bytes := Ascii.bytes "HTTP/1.1 410 Gone\r\n\r\n"

/-- The dismissal begins with the mark. -/
theorem mark_dismissing : Dismissal.mark <+: dismissing := by decide

/-- A tunnel that its relay has accepted. -/
def welcomed : Tunnel := (asking.hearing accepting).poll .zero

/-- That tunnel can be reached. -/
theorem reachable_welcomed :
    ∃ p, Reachable ⟨"[::1]", 80, false, false, "/abc"⟩ ⟨.ofSeconds 30, []⟩ p welcomed ∧
      p.sent .relay = accepting ∧ p.told = [] := by
  have hspawned : Reachable _ _ _
      (spawn ⟨"[::1]", 80, false, false, "/abc"⟩ ⟨.ofSeconds 30, []⟩ : Tunnel) := .spawned
  obtain ⟨_, _, hdialing⟩ := hspawned.poll .zero
  obtain ⟨_, _, hasking⟩ := hdialing.connected .zero .completed
  have hfarEnd : asking.hasFarEnd .relay = true := by decide +kernel
  obtain ⟨_, _, hwelcomed⟩ := (hasking.hearing hfarEnd accepting).poll .zero
  exact ⟨_, hwelcomed, List.nil_append _, rfl⟩

/-- The same tunnel with a dismissal in one piece. -/
def warned : Tunnel := welcomed.hearing dismissing

/-- The tunnel that is dismissed in one piece can be reached. -/
theorem reachable_warned :
    ∃ p, Reachable ⟨"[::1]", 80, false, false, "/abc"⟩ ⟨.ofSeconds 30, []⟩ p warned ∧
      behindHead (p.sent .relay) = dismissing ∧ p.told = [] := by
  obtain ⟨p, hwelcomed, hsent, hquiet⟩ := reachable_welcomed
  have hfarEnd : welcomed.hasFarEnd .relay = true := by decide +kernel
  refine ⟨_, hwelcomed.hearing hfarEnd dismissing, ?_, hquiet⟩
  show behindHead (p.sent .relay ++ dismissing) = dismissing
  rw [hsent]
  decide +kernel

/-- A tunnel that is dismissed in one piece ends. -/
theorem warned_is_dismissed :
    ∃ payload p status, Paid ⟨"[::1]", 80, false, false, "/abc"⟩ ⟨.ofSeconds 30, []⟩ payload p
        (warned.poll .zero) ∧
      behindHead (p.sent .relay) = dismissing ∧ Dismissed p (warned.poll .zero) status := by
  obtain ⟨hlives, hpayloads⟩ :=
    first_payload_decides Compressor ⟨"[::1]", 80, false, false, "/abc"⟩ ⟨.ofSeconds 30, []⟩
  obtain ⟨p, hwarned, hbehind, hquiet⟩ := reachable_warned
  have hmark : Dismissal.mark <+: behindHead (p.sent .relay ++ []) := by
    rw [List.append_nil, hbehind]
    exact mark_dismissing
  rcases hlives p warned hwarned with ⟨hunpaid, hpoll⟩ | ⟨payload, hpaid⟩
  · have hwaiting := hunpaid.awaiting hwarned (by decide +kernel)
    have hsome : behindHead (p.sent .relay) ≠ [] := by
      rw [hbehind]
      decide
    have hquieter : ¬ [.connected, .activity] <+: (warned.poll .zero).wires.notices := by
      decide +kernel
    obtain ⟨payload, ends, hpaid⟩ := hpoll ⟨hsome, .inl hwaiting⟩ .zero
    obtain ⟨_, _, hsees⟩ := hpayloads _ _ _ hpaid
    obtain ⟨hlong, hshort⟩ := hsees [] hmark
    by_cases hlength : 5 ≤ payload.length
    · obtain ⟨_, dismissal, _, hdismissed⟩ := hlong hlength
      exact ⟨payload, _, dismissal.status, hpaid, hbehind, hdismissed⟩
    · have hmore : _ <+: p.told ++ _ := hshort (Nat.not_le.mp hlength)
      rw [hquiet] at hmore
      exact absurd hmore hquieter
  · -- a tunnel that has taken a payload has reported more than that it is connected
    have hreported : reported p warned = [.connected] := by
      have hnotices : warned.wires.notices = [.connected] := by decide +kernel
      rw [reported, hquiet, hnotices, List.nil_append]
    obtain ⟨_, _, hsees⟩ := hpayloads payload p warned hpaid
    obtain ⟨hlong, hshort⟩ := hsees [] hmark
    by_cases hlength : 5 ≤ payload.length
    · obtain ⟨_, dismissal, _, hdismissed⟩ := hlong hlength
      have hmore := hdismissed.reported_eq
      rw [hreported] at hmore
      cases hmore
    · have hmore := hshort (Nat.not_le.mp hlength)
      rw [hreported] at hmore
      exact absurd hmore (by decide)

/-- A tunnel to which the same dismissal is sent in two pieces, and that is polled behind the first. -/
def misled : Tunnel :=
  ((welcomed.hearing (Ascii.bytes "HTTP")).poll .zero).hearing
    (Ascii.bytes "/1.1 410 Gone\r\n\r\n")

/-- The tunnel that is dismissed in two pieces can be reached. -/
theorem reachable_misled :
    ∃ p, Reachable ⟨"[::1]", 80, false, false, "/abc"⟩ ⟨.ofSeconds 30, []⟩ p misled ∧
      p.sent .relay = accepting ++ dismissing ∧ p.told = [] := by
  obtain ⟨p, hwelcomed, hsent, hquiet⟩ := reachable_welcomed
  obtain ⟨_, _, hpaid⟩ := (hwelcomed.hearing (by decide +kernel) (Ascii.bytes "HTTP")).poll .zero
  have hmisled := hpaid.hearing (by decide +kernel) (Ascii.bytes "/1.1 410 Gone\r\n\r\n")
  have hpieces : accepting ++ Ascii.bytes "HTTP" ++ Ascii.bytes "/1.1 410 Gone\r\n\r\n" =
      accepting ++ dismissing := by
    decide +kernel
  refine ⟨_, hmisled, ?_, hquiet⟩
  show p.sent .relay ++ Ascii.bytes "HTTP" ++ Ascii.bytes "/1.1 410 Gone\r\n\r\n" = _
  rw [hsent, hpieces]

/-- A dismissal that is cut within its mark is taken for payload. -/
theorem cut_mark_is_missed :
    ∃ p, Reachable ⟨"[::1]", 80, false, false, "/abc"⟩ ⟨.ofSeconds 30, []⟩ p misled ∧
      Accepted (p.sent .relay) ∧ Dismissal.mark <+: behindHead (p.sent .relay) ∧
      (∃ taken, takeResponse (behindHead (p.sent .relay)) = .ok (some taken) ∧
        taken.head.status.code = 410) ∧
      reported p misled = [.connected, .activity] ∧ misled.dial?.isSome = true := by
  obtain ⟨p, hmisled, hsent, hquiet⟩ := reachable_misled
  have hbehind : behindHead (p.sent .relay) = dismissing := by
    rw [hsent]
    decide +kernel
  have hnotices : misled.wires.notices = [.connected, .activity] := by decide +kernel
  have hconnected : misled.state = .connected := by decide +kernel
  have hlively := (hmisled.told.lively (by rw [hconnected]; exact nofun)).1
  have htake : ∃ taken, takeResponse dismissing = .ok (some taken) ∧
      taken.head.status.code = 410 := by
    have hstatus : ((takeResponse dismissing).toOption.bind id).map (·.head.status.code) =
        some 410 := by
      decide +kernel
    rcases htaken : takeResponse dismissing with error | _ | taken
    · rw [htaken] at hstatus; cases hstatus
    · rw [htaken] at hstatus; cases hstatus
    · rw [htaken] at hstatus
      exact ⟨taken, rfl, Option.some.inj hstatus⟩
  refine ⟨p, hmisled, ?_, hbehind ▸ mark_dismissing, hbehind ▸ htake, ?_, by decide +kernel⟩
  · rw [hconnected] at hlively
    exact hlively.accepted
  · rw [reported, hquiet, hnotices, List.nil_append]

end Tunnel

end RelayTunnel
