import RelayTunnel.Crew

/-!
# Rehearsals

A rehearsal lets a company work without a network: connections are made, refused or left hanging as a
script says, a script also sends and closes at the far ends, and time passes only when the script says
so. Nobody at the far ends encrypts anything, so every handshake fails. After each step of the script
everything that can happen at that instant has happened.
-/

set_option autoImplicit false

namespace RelayTunnel

/-- What becomes of a connection that is asked for. -/
inductive Policy where
  | accept
  | refuse
  /-- Neither is ever answered. -/
  | hang
  deriving DecidableEq

/-- A connection that was asked for. -/
structure Call where
  id : Nat
  side : Side
  host : String
  port : Nat
  policy : Policy
  /-- Whether the far end has stopped sending. -/
  isFinished : Bool
  /-- Whether it has been told of. -/
  isAnnounced : Bool
  /-- Whether its closing has been told of. -/
  isCloseAnnounced : Bool

/-- What has become of a connection in one step. -/
structure CallNews where
  /-- Connections are numbered in the order of being asked for, from 0 on. -/
  number : Nat
  /-- Host, port and policy of a connection that has been asked for in this step. -/
  asked : Option (String × Nat × Policy)
  /-- What the far end has received. -/
  received : Bytes
  /-- Whether the connection has been closed at our end. -/
  isClosed : Bool

/-- A company at work on a scripted network. -/
structure Rehearsal (σ M : Type) where
  company : Company σ M
  now : Instant
  /-- What becomes of the next connections. -/
  policies : List Policy
  /-- What becomes of the connections after them. -/
  otherwise : Policy
  calls : List Call

namespace Rehearsal

variable {σ M : Type}

/-- A company that has not done anything. -/
def start (owner : σ) (crew : Crew M) (policies : List Policy) (otherwise : Policy) :
    Rehearsal σ M :=
  ⟨⟨owner, crew⟩, .zero, policies, otherwise, []⟩

/-- What is said of a connection that is refused. -/
def refusal : String := "Connection refused (os error 111)"

/-- What comes of every handshake. -/
def handshake : Handshake := .failed "encrypted connections are not supported"

/-- More steps than a company ever takes at one instant, and more instants than it lives through. -/
def stepLimit : Nat := 1000000

variable [Owner σ M] [Member M]

def modifyCrew (r : Rehearsal σ M) (f : Crew M → Crew M) : Rehearsal σ M :=
  { r with company := { r.company with crew := f r.company.crew } }

/-- Decides on a connection that is asked for, and lets the one who asked go on at once. -/
def answer (r : Rehearsal σ M) (dial : Dial) : Rehearsal σ M :=
  let policy := r.policies.head?.getD r.otherwise
  let call : Call :=
    ⟨dial.id, dial.side, dial.endpoint.host, dial.endpoint.port, policy, false, false, false⟩
  let r := { r with policies := r.policies.drop 1, calls := r.calls ++ [call] }
  r.modifyCrew fun crew => crew.update dial.id fun m =>
    match policy with
    | .accept => Member.connected m r.now handshake
    | .refuse => Member.refused m refusal
    | .hang => m

/-- Lets everyone work until nobody has anything to do. -/
def settleWithin (r : Rehearsal σ M) : Nat → Rehearsal σ M
  | 0 => r
  | limit + 1 =>
      match r.company.crew.dials with
      | dial :: dials =>
          ((r.modifyCrew fun crew => { crew with dials := dials }).answer dial).settleWithin limit
      | [] =>
          match r.company.runNext? r.now with
          | some company => settleWithin { r with company := company } limit
          | none => r

/-- Lets everyone work until nobody has anything to do. -/
def settle (r : Rehearsal σ M) : Rehearsal σ M := r.settleWithin stepLimit

/-- Lets time pass until the given instant, stopping at each moment that someone waits for. -/
def passWithin (target : Instant) (r : Rehearsal σ M) : Nat → Rehearsal σ M
  | 0 => r
  | limit + 1 =>
      match r.company.crew.nextAlarm? with
      | some moment =>
          if moment.notAfter target then
            let now := r.now.latest moment
            let r := { r with now := now }.modifyCrew fun crew => crew.wakeDue now
            r.settle.passWithin target limit
          else { r with now := target }
      | none => { r with now := target }

def pass (r : Rehearsal σ M) (d : Duration) : Rehearsal σ M :=
  r.passWithin (r.now.after d) stepLimit

/-- Whether a connection is open at our end. -/
def isOpen (r : Rehearsal σ M) (call : Call) : Bool :=
  call.policy = .accept && match r.company.crew.member? call.id with
    | some m => ((Member.wires m).link call.side).isOpen
    | none => false

/-- The far end of a connection sends octets, if the connection is open and the far end has not
finished. Says whether it is. -/
def send (r : Rehearsal σ M) (number : Nat) (octets : Bytes) : Bool × Rehearsal σ M :=
  match r.calls[number]? with
  | none => (false, r)
  | some call =>
      if r.isOpen call && !call.isFinished then
        (true, (r.modifyCrew fun crew => crew.touch call.id call.side (·.deliver octets)).settle)
      else (false, r)

/-- The far end of a connection stops sending. -/
def finish (r : Rehearsal σ M) (number : Nat) : Rehearsal σ M :=
  match r.calls[number]? with
  | none => r
  | some call =>
      if r.isOpen call then
        let r := { r with calls := r.calls.set number { call with isFinished := true } }
        (r.modifyCrew fun crew => crew.touch call.id call.side Link.finish).settle
      else r

/-- What has become of one connection since the last time, and the connection as told of. -/
def callNews (r : Rehearsal σ M) (number : Nat) (call : Call) : CallNews × Call × Rehearsal σ M :=
  let isClosed := call.policy = .accept && !r.isOpen call
  let news : CallNews :=
    { number := number
      asked := if call.isAnnounced then none else some (call.host, call.port, call.policy)
      received := match r.company.crew.member? call.id with
        | some m => ((Member.wires m).link call.side).outgoing
        | none => []
      isClosed := isClosed && !call.isCloseAnnounced }
  let r := r.modifyCrew fun crew =>
    match crew.member? call.id with
    | some m =>
        crew.set call.id (Member.setWires m ((Member.wires m).modifyLink call.side
          fun link => link.carryAway.2))
    | none => crew
  (news, { call with isAnnounced := true, isCloseAnnounced := isClosed }, r)

/-- What has become of all connections since the last time, in order of their numbers. -/
def takeNews (r : Rehearsal σ M) : List CallNews × Rehearsal σ M :=
  let (news, calls, r) := (List.range r.calls.length).foldl
    (fun (state : List CallNews × List Call × Rehearsal σ M) number =>
      let (news, calls, r) := state
      match r.calls[number]? with
      | some call =>
          let (n, call, r) := r.callNews number call
          (news ++ [n], calls ++ [call], r)
      | none => (news, calls, r))
    ([], [], r)
  (news, { r with calls := calls })

end Rehearsal

end RelayTunnel
