import RelayTunnel.Endpoint
import RelayTunnel.Http.HeadBuffer
import RelayTunnel.Link
import RelayTunnel.Tunnel.Error

/-!
# Opening a session

A tunnel opens its session with a `CONNECT` request for the path of the relay's url and waits for the
head of the relay's answer. What follows the head in the same reads belongs to the session.
-/

set_option autoImplicit false

namespace RelayTunnel

/-- A line of the opening request with an extra field. -/
def openingLine (field : String × String) : Bytes :=
  Text.Utf8.ofString (field.1 ++ ": " ++ field.2) ++ Ascii.crlf

/-- The request that opens a session on the relay. -/
def openingRequest (relay : Endpoint) (headers : List (String × String)) : Bytes :=
  Text.Utf8.ofString ("CONNECT " ++ relay.path ++ " HTTP/1.1") ++ Ascii.crlf
    ++ Text.Utf8.ofString ("Host: " ++ relay.hostField) ++ Ascii.crlf
    ++ headers.flatMap openingLine ++ Ascii.crlf

/-- How far a session has been opened. -/
structure Opening where
  /-- What has not been written of the request. -/
  unsent : Bytes
  /-- What has been read of the answer. -/
  received : Bytes
  deriving DecidableEq

/-- The head of the relay's answer and what came behind it. -/
structure Opened where
  head : Http.ResponseHead
  leftover : Bytes

/-- What has come of a step that may have to wait. -/
inductive Outcome (σ α : Type) where
  | waiting (state : σ)
  | done (result : Except TunnelError α)

namespace Opening

/-- A session whose request has still to be written. -/
def start (relay : Endpoint) (headers : List (String × String)) : Opening :=
  ⟨openingRequest relay headers, []⟩

/-- How much is read at once behind what is held already: as much as fits a buffer of 1024 octets
that doubles whenever it is full. -/
def readLimit (held : Nat) : Nat := Nat.pow 2 (max 10 (held.log2 + 1)) - held

/-- There is always room to read something. -/
theorem readLimit_pos (held : Nat) : 0 < readLimit held := by
  have h : held < Nat.pow 2 (held.log2 + 1) := Nat.lt_log2_self
  have g : Nat.pow 2 (held.log2 + 1) ≤ Nat.pow 2 (max 10 (held.log2 + 1)) :=
    Nat.pow_le_pow_right (by omega) (Nat.le_max_right _ _)
  unfold readLimit
  omega

/-- Reads the answer until its head is complete. -/
def receive (received : Bytes) (link : Link) : Outcome Opening Opened × Link :=
  match Http.takeResponse received with
  | .error error => (.done (.error (.malformedAnswer error)), link)
  | .ok (some taken) => (.done (.ok ⟨taken.head, taken.rest⟩), link)
  | .ok none =>
      match _h : link.read (readLimit received.length) with
      | (.waiting, link) => (.waiting ⟨[], received⟩, link)
      | (.ended, link) => (.done (.error .openingClosed), link)
      | (.failed reason, link) => (.done (.error (.io reason)), link)
      | (.data octets, link) => receive (received ++ octets) link
  termination_by link.incoming.length
  decreasing_by exact Link.length_incoming_of_read (readLimit_pos _) _h

/-- Writes and flushes the request and reads the answer, as far as the connection allows. -/
def poll (opening : Opening) (link : Link) : Outcome Opening Opened × Link :=
  match link.write opening.unsent with
  | (.failed reason, link) => (.done (.error (.io reason)), link)
  | (.left [], link) =>
      match link.flush with
      | (.failed reason, link) => (.done (.error (.io reason)), link)
      | (.waiting, link) => (.waiting ⟨[], opening.received⟩, link)
      | (.done, link) => receive opening.received link
  | (.left unsent, link) => (.waiting ⟨unsent, opening.received⟩, link)

end Opening

end RelayTunnel
