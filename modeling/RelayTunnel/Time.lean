/-!
# Durations and instants

Durations have nanosecond precision and no upper bound; files and messages speak of whole
milliseconds. Instants count from the start of the clock, which can show as many of them as fit into
63 bits of seconds: an instant behind these cannot be computed (`Instant.after?`), and who asks for one
crashes.
-/

set_option autoImplicit false

namespace RelayTunnel

/-- A span of time. -/
structure Duration where
  nanos : Nat
  deriving DecidableEq

namespace Duration

def ofMicros (n : Nat) : Duration := ⟨n * 1000⟩

def ofMillis (n : Nat) : Duration := ⟨n * 1000000⟩

def ofSeconds (n : Nat) : Duration := ⟨n * 1000000000⟩

def wholeMillis (d : Duration) : Nat := d.nanos / 1000000

end Duration

/-- A point in time. -/
structure Instant where
  nanos : Nat
  deriving DecidableEq

namespace Instant

def zero : Instant := ⟨0⟩

def after (t : Instant) (d : Duration) : Instant := ⟨t.nanos + d.nanos⟩

/-- The nanoseconds that the clock can show: its seconds have 63 bits. -/
def limit : Nat := UInt64.size / 2 * 1000000000

/-- Whether the clock can show an instant. -/
def isShown (t : Instant) : Bool := t.nanos < limit

/-- The instant a span of time later; none if the clock cannot show it. -/
def after? (t : Instant) (d : Duration) : Option Instant :=
  if (t.after d).isShown then some (t.after d) else none

/-- An instant can be computed exactly if the clock can show it. -/
theorem after?_eq_some_iff {t u : Instant} {d : Duration} :
    t.after? d = some u ↔ t.after d = u ∧ u.isShown = true := by
  rw [after?]
  split
  · next hshown =>
    refine ⟨fun h => ?_, fun h => congrArg some h.1⟩
    obtain rfl := Option.some.inj h
    exact ⟨rfl, hshown⟩
  · next hhidden =>
    refine ⟨nofun, fun h => ?_⟩
    obtain ⟨rfl, hshown⟩ := h
    exact absurd hshown hhidden

/-- Otherwise there is none. -/
theorem after?_eq_none_iff {t : Instant} {d : Duration} :
    t.after? d = none ↔ (t.after d).isShown = false := by
  rw [after?]
  split
  · next hshown => simp [hshown]
  · next hhidden => simpa using hhidden

/-- Whether an instant is at or before another. -/
def notAfter (t u : Instant) : Bool := t.nanos ≤ u.nanos

/-- Every instant is at or before itself. -/
theorem notAfter_refl (t : Instant) : t.notAfter t = true := decide_eq_true (Nat.le_refl _)

/-- What is at or before an instant is at or before all that follows. -/
theorem notAfter_trans {t u v : Instant} (h : t.notAfter u = true) (h' : u.notAfter v = true) :
    t.notAfter v = true :=
  decide_eq_true (Nat.le_trans (of_decide_eq_true h) (of_decide_eq_true h'))

/-- A span of time keeps the order of instants. -/
theorem after_notAfter {t u : Instant} (h : t.notAfter u = true) (d : Duration) :
    (t.after d).notAfter (u.after d) = true :=
  decide_eq_true (Nat.add_le_add_right (of_decide_eq_true h) d.nanos)

/-- The clock shows all instants up to one that it shows. -/
theorem isShown_of_le {t u : Instant} (h : u.isShown = true) (hle : t.nanos ≤ u.nanos) :
    t.isShown = true :=
  decide_eq_true (Nat.lt_of_le_of_lt hle (of_decide_eq_true h))

def latest (t u : Instant) : Instant := ⟨max t.nanos u.nanos⟩

def earliest (t u : Instant) : Instant := ⟨min t.nanos u.nanos⟩

/-- The time from an earlier instant to this one. -/
def since (t start : Instant) : Duration := ⟨t.nanos - start.nanos⟩

/-- The whole milliseconds since the first instant. -/
def wholeMillis (t : Instant) : Nat := t.nanos / 1000000

end Instant

end RelayTunnel
