import RelayTunnel.Time

/-!
# Watching for silence

An idle watch expires when nothing has touched it for a given time. It remembers the last touch in
whole milliseconds since it was started.
-/

set_option autoImplicit false

namespace RelayTunnel

/-- A watch over a connection that must not stay silent for too long. -/
structure IdleWatch where
  started : Instant
  /-- The last touch, in milliseconds since the start. -/
  touched : Nat
  /-- How long the silence may last. -/
  idle : Duration
  /-- When the watch is looked at again, once that has been settled. -/
  alarm : Option Instant
  deriving DecidableEq

/-- What a look at a watch comes to. -/
inductive Look where
  /-- It goes on, and it is settled when to look again. -/
  | watching (watch : IdleWatch)
  | expired
  /-- The clock cannot show when it would expire. -/
  | lost
  deriving DecidableEq

namespace IdleWatch

/-- A watch that starts now; the start counts as a touch. -/
def start (now : Instant) (idle : Duration) : IdleWatch := ⟨now, 0, idle, none⟩

def touch (w : IdleWatch) (now : Instant) : IdleWatch :=
  { w with touched := (now.since w.started).wholeMillis }

/-- When the watch expires unless it is touched; none if the clock cannot show it. -/
def deadline? (w : IdleWatch) : Option Instant :=
  (w.started.after? (.ofMillis w.touched)).bind (·.after? w.idle)

/-- Whether it is settled when to look again, and that is still to come. -/
def isAsleep (w : IdleWatch) (now : Instant) : Bool :=
  match w.alarm with
  | some alarm => !alarm.notAfter now
  | none => false

/-- Looks whether the silence has lasted too long, unless the moment to do so is still to come. -/
def look (w : IdleWatch) (now : Instant) : Look :=
  if w.isAsleep now then .watching w
  else
    match w.deadline? with
    | none => .lost
    | some deadline =>
        if deadline.notAfter now then .expired else .watching { w with alarm := some deadline }

end IdleWatch

end RelayTunnel
