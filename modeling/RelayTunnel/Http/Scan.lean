import RelayTunnel.Http.Error

/-!
# Scanning a growing buffer

A head arrives in pieces, so a scanner has three outcomes: it has read a value, it needs more
octets, or no continuation of what it saw can be accepted. A scanner built from the pieces of
this module never takes an answer back: once it has a value or a fault, more octets behind the
input change neither.
-/

set_option autoImplicit false

namespace RelayTunnel.Http

/-- What a scanner makes of the octets it was given. -/
inductive Scanned (ε α : Type) where
  /-- A value, and the octets behind it. -/
  | found (value : α) (rest : Bytes)
  /-- The octets are the beginning of something; more are needed. -/
  | more
  /-- No continuation is acceptable. -/
  | refused (fault : ε)

/-- A scanner of values of type `α` whose faults have type `ε`. -/
def Scan (ε α : Type) : Type := Bytes → Scanned ε α

namespace Scan

variable {ε α β : Type}

def pure (value : α) : Scan ε α := fun input => .found value input

/-- Reads with `first`, then goes on behind it. -/
def bind (first : Scan ε α) (next : α → Scan ε β) : Scan ε β := fun input =>
  match first input with
  | .found value rest => next value rest
  | .more => .more
  | .refused fault => .refused fault

instance : Monad (Scan ε) where
  pure := Scan.pure
  bind := Scan.bind

def refuse (fault : ε) : Scan ε α := fun _ => .refused fault

def octet : Scan ε UInt8
  | [] => .more
  | b :: rest => .found b rest

def expect (p : UInt8 → Bool) (fault : ε) : Scan ε UInt8 := do
  let b ← octet
  if p b then pure b else refuse fault

/-- Reads the longest run of octets that satisfy `p`. The run ends at the first octet that does
not, so an input that holds no such octet needs more. -/
def run (p : UInt8 → Bool) : Scan ε Bytes
  | [] => .more
  | b :: rest =>
      if p b then
        match run p rest with
        | .found bs rest' => .found (b :: bs) rest'
        | .more => .more
        | .refused fault => .refused fault
      else .found [] (b :: rest)

end Scan

end RelayTunnel.Http
