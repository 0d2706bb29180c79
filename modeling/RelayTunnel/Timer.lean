import RelayTunnel.Time

/-!
# One-shot timers

A timer is armed for one expiry, can be stopped, and can be armed again. It does nothing by itself:
its owner asks whether it is due and takes the expiry, which stops the timer. So each arming expires
at most once, and never before its deadline. It cannot be armed for a deadline that the clock cannot
show (`start?`, `restart?`); who tries crashes.
-/

set_option autoImplicit false

namespace RelayTunnel

/-- A timer that expires a fixed delay after it is armed. -/
structure Timer where
  delay : Duration
  /-- The instant it expires; none while it is stopped. -/
  deadline : Option Instant
  deriving DecidableEq

namespace Timer

/-- A timer that has not been armed. -/
def stopped (delay : Duration) : Timer := ⟨delay, none⟩

def isRunning (t : Timer) : Bool := t.deadline.isSome

/-- The timer armed unless it is running. -/
def start (t : Timer) (now : Instant) : Timer :=
  match t.deadline with
  | some _ => t
  | none => { t with deadline := some (now.after t.delay) }

def stop (t : Timer) : Timer := { t with deadline := none }

/-- The timer armed with the full delay from now on, even if it is running. -/
def restart (t : Timer) (now : Instant) : Timer := { t with deadline := some (now.after t.delay) }

/-- Arms the timer with the full delay from now on, even if it is running; none if the clock cannot show
the deadline. -/
def restart? (t : Timer) (now : Instant) : Option Timer :=
  (now.after? t.delay).map fun deadline => { t with deadline := some deadline }

/-- Arms the timer unless it is running; none if the clock cannot show the deadline. -/
def start? (t : Timer) (now : Instant) : Option Timer :=
  match t.deadline with
  | some _ => some t
  | none => t.restart? now

/-- A timer is armed exactly if the clock can show its deadline. -/
theorem restart?_eq (t : Timer) (now : Instant) :
    t.restart? now = if (now.after t.delay).isShown then some (t.restart now) else none := by
  rw [restart?, Instant.after?]
  split <;> rfl

/-- Whether the timer is running and its deadline has come. -/
def isDue (t : Timer) (now : Instant) : Bool :=
  match t.deadline with
  | some deadline => deadline.notAfter now
  | none => false

/-- Takes the expiry that is waited for between two instants: when it happens, if it does, and the
timer afterwards. A deadline that has already passed expires at once. -/
def expireBetween (t : Timer) (begin_ end_ : Instant) : Option Instant × Timer :=
  match t.deadline with
  | some deadline =>
      let at_ := begin_.latest deadline
      if at_.notAfter end_ then (some at_, t.stop) else (none, t)
  | none => (none, t)

end Timer

end RelayTunnel
