import RelayTunnel.Crew

/-!
# Switchboards

A switchboard stands between a company and the network. It is told what happens at the connections and
says what is to be done at them: which to ask for, where to read, what to write and what to close. At
each connection it lets at most one read and one write be under way, it reads only when everything
that has arrived has been taken, and it closes a connection only when what was written has been sent.
-/

set_option autoImplicit false

namespace RelayTunnel

/-- A connection of a member. -/
structure Line where
  id : Nat
  side : Side
  deriving DecidableEq

/-- What happens at a connection. -/
inductive LineEvent where
  /-- It has been made, and the handshake that may encrypt it has come to an end. -/
  | made (handshake : Handshake)
  /-- It cannot be made. -/
  | refused (reason : String)
  | arrived (octets : Bytes)
  /-- The far end sends nothing more. -/
  | ended
  | readFailed (reason : String)
  /-- What was to be written has been sent. -/
  | sent
  | writeFailed (reason : String)
  deriving DecidableEq

/-- What is to be done at a connection. -/
inductive LineOrder where
  | dial (endpoint : Endpoint)
  | read
  | write (octets : Bytes)
  | close
  deriving DecidableEq

/-- A connection that has been made. -/
structure OpenLine where
  line : Line
  /-- Whether a read is under way. -/
  isReading : Bool
  /-- Whether a write is under way. -/
  isWriting : Bool

/-- A company and its connections. -/
structure Switchboard (σ M : Type) where
  company : Company σ M
  lines : List OpenLine

namespace Switchboard

variable {σ M : Type}

/-- How many octets a connection holds before a write has to wait. -/
def window : Nat := 65536

def modifyCrew (s : Switchboard σ M) (f : Crew M → Crew M) : Switchboard σ M :=
  { s with company := { s.company with crew := f s.company.crew } }

/-- Changes what is known of a connection that has been made. -/
def modifyLine (s : Switchboard σ M) (line : Line) (f : OpenLine → OpenLine) : Switchboard σ M :=
  { s with lines := s.lines.map fun l => if l.line = line then f l else l }

/-- Makes room for as much as a connection may still hold. -/
def makeRoom (link : Link) : Link := { link with room := some (window - link.outgoing.length) }

variable [Member M]

/-- The company's end of a connection, if it has one. -/
def link? (s : Switchboard σ M) (line : Line) : Option Link :=
  (s.company.crew.member? line.id).map fun m => (Member.wires m).link line.side

/-- Changes the company's end of a connection; the member has something to do then. -/
def touch (s : Switchboard σ M) (line : Line) (f : Link → Link) : Switchboard σ M :=
  s.modifyCrew fun crew => crew.touch line.id line.side f

/-- Is told what has happened at a connection. -/
def hear (s : Switchboard σ M) (now : Instant) (line : Line) : LineEvent → Switchboard σ M
  | .made handshake =>
      let s := { s with lines := s.lines ++ [OpenLine.mk line false false] }
      let s := s.modifyCrew fun crew => crew.update line.id fun m => Member.connected m now handshake
      s.touch line makeRoom
  | .refused reason => s.modifyCrew fun crew => crew.update line.id fun m => Member.refused m reason
  | .arrived octets =>
      (s.modifyLine line fun l => { l with isReading := false }).touch line (·.deliver octets)
  | .ended => (s.modifyLine line fun l => { l with isReading := false }).touch line (·.finish)
  | .readFailed reason =>
      (s.modifyLine line fun l => { l with isReading := false }).touch line fun link =>
        { link with ending := some (.failed reason) }
  | .sent => (s.modifyLine line fun l => { l with isWriting := false }).touch line makeRoom
  | .writeFailed reason =>
      (s.modifyLine line fun l => { l with isWriting := false }).touch line fun link =>
        { link with outgoing := [], writeFault := some reason }

/-- Takes what is to be written at a connection. -/
def carryAway (s : Switchboard σ M) (line : Line) : Switchboard σ M :=
  s.modifyCrew fun crew =>
    match crew.member? line.id with
    | some m =>
        crew.set line.id (Member.setWires m ((Member.wires m).modifyLink line.side (·.carryAway.2)))
    | none => crew

/-- Says what is to be done at a connection that has been made. -/
def serve (s : Switchboard σ M) (l : OpenLine) : List (Line × LineOrder) × Switchboard σ M :=
  let link := (s.link? l.line).getD .unmade
  let writes := !link.outgoing.isEmpty && !l.isWriting
  let reads := link.isOpen && !l.isReading && link.incoming.isEmpty && link.ending.isNone
  if !link.isOpen && !l.isWriting && !writes then ([(l.line, .close)], s)
  else
    let l := { l with isReading := l.isReading || reads, isWriting := l.isWriting || writes }
    let kept := { s with lines := s.lines ++ [l] }
    ((if writes then [(l.line, .write link.outgoing)] else [])
        ++ if reads then [(l.line, .read)] else [],
      if writes then kept.carryAway l.line else kept)

/-- Says what is to be done at the connections that have been made. -/
def serveAll (s : Switchboard σ M) : List (Line × LineOrder) × Switchboard σ M :=
  s.lines.foldl
    (fun (state : List (Line × LineOrder) × Switchboard σ M) l =>
      let (orders, s) := state.2.serve l
      (state.1 ++ orders, s))
    ([], { s with lines := [] })

def placeCalls (s : Switchboard σ M) : List (Line × LineOrder) × Switchboard σ M :=
  (s.company.crew.dials.map fun d => ((⟨d.id, d.side⟩ : Line), LineOrder.dial d.endpoint),
    s.modifyCrew fun crew => { crew with dials := [] })

/-- Lets go of the members that have no connection and ask for none. -/
def dismissIdle (s : Switchboard σ M) : Switchboard σ M :=
  s.modifyCrew fun crew => { crew with
    members := crew.members.filter fun (id, m) =>
      (Member.dial? m).isSome || s.lines.any (·.line.id == id) }

variable [Owner σ M]

/-- Lets everyone work until nobody has anything to do, and says what is to be done then. -/
def work (s : Switchboard σ M) (now : Instant) : List (Line × LineOrder) × Switchboard σ M :=
  let s := { s with company := s.company.runAll now }
  let (calls, s) := s.placeCalls
  let (orders, s) := s.serveAll
  (calls ++ orders, s.dismissIdle)

end Switchboard

end RelayTunnel
