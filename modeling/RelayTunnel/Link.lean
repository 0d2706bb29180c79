import RelayTunnel.Ascii

/-!
# Connections

A link is our end of a connection: what has arrived and not been read, what follows it, what has been
written and not been carried away, and how much more may be written before a write has to wait. Its
owner on the far side of the code delivers octets and carries them away; the code reads and writes.
Nothing is lost: a read gives octets in the order in which they arrived, and the end of the stream
only behind them. What has been written may be held back on the way until it is flushed, and a flush may
have to wait or fail like a write.
-/

set_option autoImplicit false

namespace RelayTunnel

/-- What follows the octets that have arrived. -/
inductive StreamEnd where
  /-- The far end sends nothing more. -/
  | closed
  | failed (reason : String)
  deriving DecidableEq

/-- What comes of a flush. -/
inductive FlushOutcome where
  | done
  /-- Not everything has been passed on yet. -/
  | waiting
  | failed (reason : String)
  deriving DecidableEq

/-- Our end of a connection. -/
structure Link where
  /-- What has arrived and not been read. -/
  incoming : Bytes
  /-- What follows it; none while more may arrive. -/
  ending : Option StreamEnd
  /-- What has been written and not been carried away. -/
  outgoing : Bytes
  /-- How many more octets can be written now; none if there is no limit. -/
  room : Option Nat
  /-- Why writing fails, once it does. -/
  writeFault : Option String
  /-- Whether a flush has been done since the last octet was written. -/
  isFlushed : Bool
  /-- What comes of a flush now, if there is something to flush. -/
  flushing : FlushOutcome
  /-- Whether we have not closed it. -/
  isOpen : Bool
  deriving DecidableEq

/-- The outcome of a read. -/
inductive ReadOutcome where
  | data (octets : Bytes)
  /-- The far end has closed. -/
  | ended
  | failed (reason : String)
  /-- Nothing has arrived yet. -/
  | waiting
  deriving DecidableEq

/-- The outcome of a write: the octets that are left, or why writing fails. -/
inductive WriteOutcome where
  | left (octets : Bytes)
  | failed (reason : String)
  deriving DecidableEq

namespace Link

/-- A connection that has not been made. -/
def unmade : Link := ⟨[], none, [], none, none, true, .done, false⟩

/-- A connection that has just been made. -/
def fresh : Link := { unmade with isOpen := true }

def read (link : Link) (limit : Nat) : ReadOutcome × Link :=
  match link.incoming with
  | [] =>
      match link.ending with
      | none => (.waiting, link)
      | some .closed => (.ended, link)
      | some (.failed reason) => (.failed reason, link)
  | b :: rest => (.data ((b :: rest).take limit), { link with incoming := (b :: rest).drop limit })

/-- A read that gives octets leaves fewer of them. -/
theorem length_incoming_of_read {link rest : Link} {limit : Nat} {octets : Bytes}
    (hlimit : 0 < limit) (h : link.read limit = (.data octets, rest)) :
    rest.incoming.length < link.incoming.length := by
  unfold read at h
  split at h
  · split at h <;> simp at h
  next b tail heq =>
    obtain ⟨-, rfl⟩ := Prod.mk.inj h
    simp [heq]
    omega

/-- Appends octets to what has been written. They have to be flushed. -/
def append (link : Link) (octets : Bytes) : Link :=
  { link with
    outgoing := link.outgoing ++ octets
    isFlushed := link.isFlushed && octets.isEmpty }

/-- Writes as many octets as there is room for. -/
def write (link : Link) (octets : Bytes) : WriteOutcome × Link :=
  match link.writeFault with
  | some reason => if octets.isEmpty then (.left [], link) else (.failed reason, link)
  | none =>
      match link.room with
      | none => (.left [], link.append octets)
      | some room =>
          (.left (octets.drop room),
            { link.append (octets.take room) with room := some (room - octets.length) })

/-- Sees to it that everything that has been written is passed on. -/
def flush (link : Link) : FlushOutcome × Link :=
  if link.isFlushed then (.done, link)
  else
    match link.flushing with
    | .done => (.done, { link with isFlushed := true })
    | outcome => (outcome, link)

def close (link : Link) : Link := { link with isOpen := false }

/-! ### The far side -/

def deliver (link : Link) (octets : Bytes) : Link :=
  { link with incoming := link.incoming ++ octets }

def finish (link : Link) : Link :=
  { link with ending := some (link.ending.getD .closed) }

def carryAway (link : Link) : Bytes × Link := (link.outgoing, { link with outgoing := [] })

end Link

end RelayTunnel
