import RelayTunnel.Proofs.Http.Stability
import RelayTunnel.Proofs.Tunnel.Links
import RelayTunnel.Tunnel.Opening

/-!
# The relay's answer, however it is cut

A tunnel reads the relay's answer in pieces and looks at all it has after each of them.
`poll_answers` says what comes of that in terms of everything that the relay has sent, read or not:
the head and what stands behind it, the failure because of an early close and the failure because of
a malformed head are those of `takeResponse` on the whole stream. Only whether a stream is refused
for its size, and with which size, depends on where it was cut. `Verdict.agree` compares two tunnels
to which the same stream came in different pieces.
-/

set_option autoImplicit false

namespace RelayTunnel

open Http (takeResponse takeResponse_append takeResponse_append_error)

namespace Opening

/-! ## One tunnel -/

/-- An error that depends on how a stream is cut. -/
def IsSizeError (error : Http.MessageError) : Prop :=
  ∃ size, error = .headTooLarge size Http.maxHeadSize

/-- What comes of an opening is right for everything that the relay has sent. The connection is left
with what follows the answer. Nothing of the answer is read before the request has been written and
flushed. -/
def Answers (stream : Bytes) (link : Link) : Outcome Opening Opened → Prop
  | .waiting later =>
      stream = later.received ++ link.incoming ∧ takeResponse later.received = .ok none ∧
        (later.unsent = [] → link.isFlushed = true → takeResponse stream = .ok none)
  | .done (.ok opened) =>
      takeResponse stream = .ok (some ⟨opened.head, opened.leftover ++ link.incoming⟩)
  | .done (.error .openingClosed) => takeResponse stream = .ok none
  | .done (.error (.malformedAnswer error)) =>
      ∃ later, takeResponse stream = .error later ∧ (later = error ∨ IsSizeError error)
  | .done (.error error) => ∃ reason, error = .io reason

/-- What comes of reading the answer is right for everything that the relay has sent. -/
theorem receive_answers (received : Bytes) (link : Link) :
    Answers (received ++ link.incoming) (receive received link).2 (receive received link).1 := by
  fun_induction receive received link with
  | case1 received link error htake => exact takeResponse_append_error htake link.incoming
  | case2 received link taken htake => exact takeResponse_append htake link.incoming
  | case3 received link htake link' hread =>
    obtain ⟨rfl, hnone⟩ := Link.eq_of_read hread nofun
    refine ⟨rfl, htake, fun _ _ => ?_⟩
    rwa [hnone, List.append_nil]
  | case4 received link htake link' hread =>
    obtain ⟨-, hnone⟩ := Link.eq_of_read hread nofun
    show takeResponse _ = _
    rwa [hnone, List.append_nil]
  | case5 received link htake reason link' hread => exact ⟨reason, rfl⟩
  | case6 received link htake octets link' hread ih =>
    rwa [← Link.incoming_of_read hread, ← List.append_assoc]

/-- What comes of polling an opening that has no head yet. -/
theorem poll_answers {opening : Opening} (h : takeResponse opening.received = .ok none)
    {link link' : Link} {outcome : Outcome Opening Opened}
    (hpoll : opening.poll link = (outcome, link')) :
    Answers (opening.received ++ link.incoming) link' outcome := by
  rw [poll] at hpoll
  rcases hwrite : link.write opening.unsent with ⟨rest | reason, written⟩
  · have hincoming := Link.incoming_of_write hwrite
    rw [hwrite] at hpoll
    cases rest with
    | nil =>
      dsimp only at hpoll
      rcases hflush : written.flush with ⟨_ | _ | reason, flushed⟩ <;> rw [hflush] at hpoll
      · have hsame := (Link.readable_of_flush hflush).1.trans hincoming
        have hreceive := receive_answers opening.received flushed
        rwa [show receive opening.received flushed = (outcome, link') from hpoll, hsame]
          at hreceive
      · obtain ⟨rfl, hunflushed, -⟩ := Link.eq_of_flush_ne_done hflush nofun
        obtain ⟨rfl, rfl⟩ := Prod.mk.inj hpoll
        rw [← hincoming]
        exact ⟨rfl, h, fun _ hflushed => absurd (hunflushed.symm.trans hflushed) nofun⟩
      · obtain ⟨rfl, rfl⟩ := Prod.mk.inj hpoll
        exact ⟨reason, rfl⟩
    | cons b rest =>
      obtain ⟨rfl, rfl⟩ := Prod.mk.inj hpoll
      rw [← hincoming]
      exact ⟨rfl, h, nofun⟩
  · rw [hwrite] at hpoll
    obtain ⟨rfl, rfl⟩ := Prod.mk.inj hpoll
    exact ⟨reason, rfl⟩

/-! ## Two tunnels -/

/-- Results of two openings that may be those of one stream. A connection that fails proves nothing
about the stream. -/
def Agree : Except TunnelError Opened → Except TunnelError Opened → Prop
  | .error (.io _), _ | _, .error (.io _) => True
  | .ok opened, .ok opened' => opened.head = opened'.head
  | .error .openingClosed, .error .openingClosed => True
  | .error (.malformedAnswer error), .error (.malformedAnswer error') =>
      error = error' ∨ IsSizeError error ∨ IsSizeError error'
  | _, _ => False

/-- What `takeResponse` finds in a stream of which the relay sends no more than that. -/
inductive Verdict (stream : Bytes) : Except TunnelError Opened → Prop where
  | opened {opened : Opened} {rest : Bytes} :
      takeResponse stream = .ok (some ⟨opened.head, rest⟩) → Verdict stream (.ok opened)
  | closed : takeResponse stream = .ok none → Verdict stream (.error .openingClosed)
  | malformed {error later : Http.MessageError} :
      takeResponse stream = .error later → later = error ∨ IsSizeError error →
      Verdict stream (.error (.malformedAnswer error))
  | failed (reason : String) : Verdict stream (.error (.io reason))

/-- The result of an opening fits the whole stream, of which `behind` had not come yet. -/
theorem Answers.verdict {sent behind : Bytes} {link : Link} {result : Except TunnelError Opened}
    (h : Answers sent link (.done result))
    (hclosed : result = .error .openingClosed → behind = []) :
    Verdict (sent ++ behind) result := by
  cases result with
  | ok opened => exact .opened (takeResponse_append h behind)
  | error error =>
    cases error with
    | openingClosed =>
      rw [hclosed rfl, List.append_nil]
      exact .closed h
    | malformedAnswer error =>
      obtain ⟨first, hfirst, hsame⟩ := h
      obtain ⟨later, hlater, hsame'⟩ := takeResponse_append_error hfirst behind
      refine .malformed hlater ?_
      rcases hsame with rfl | hsize
      · exact hsame'
      · exact Or.inr hsize
    | io reason => exact .failed reason
    | forbidden _ | serverDisconnect _ | serverUnreachable _ | invalidDestination _
    | invalidServerName _ | destinationTimeout _ =>
      obtain ⟨_, hio⟩ := h
      cases hio

/-- What an opening comes to does not depend on how the stream was cut, but for the kind and the
size of a size error. -/
theorem Verdict.agree {stream : Bytes} {result result' : Except TunnelError Opened}
    (h : Verdict stream result) (h' : Verdict stream result') : Agree result result' := by
  cases h with
  | failed reason => trivial
  | opened htake =>
    cases h' with
    | failed reason => trivial
    | opened htake' =>
      rw [htake] at htake'
      exact congrArg Http.Taken.head (Option.some.inj (Except.ok.inj htake'))
    | closed htake' | malformed htake' _ => rw [htake] at htake'; cases htake'
  | closed htake =>
    cases h' with
    | failed reason => trivial
    | closed _ => trivial
    | opened htake' | malformed htake' _ => rw [htake] at htake'; cases htake'
  | malformed htake hsame =>
    cases h' with
    | failed reason => trivial
    | opened htake' | closed htake' => rw [htake] at htake'; cases htake'
    | malformed htake' hsame' =>
      rw [htake] at htake'
      obtain rfl := Except.error.inj htake'
      rcases hsame with rfl | hsize
      · exact hsame'.imp id Or.inr
      · exact Or.inr (Or.inl hsize)

end Opening

end RelayTunnel
