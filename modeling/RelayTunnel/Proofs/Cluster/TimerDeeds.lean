import Mathlib.Data.List.Induction
import RelayTunnel.Proofs.Cluster.Run

/-!
# What a turn does to the timers

A timer is armed, it is stopped, or its expiry is taken. `Cluster.deeds` lists what a turn does to one of the
two timers, in order and with the moments, and `timer_turn` says that this accounts for the timer after the
turn, even if the cluster crashes: a turn that does nothing to a timer leaves it as it was. The expiry of a
timer is taken in the turns that are taken for it, and in no others.

A log of such deeds tells what has become of a timer: it runs if it was armed last, with the deadline of that
arming (`Timer.replay_eq`).
-/

set_option autoImplicit false

namespace RelayTunnel

/-- What is done to a timer. -/
inductive TimerDeed where
  /-- It is armed with its full delay, running or not. -/
  | armed
  | stopped
  /-- Its expiry is taken, which stops it. -/
  | expired
  deriving DecidableEq

/-- A deed, with the moment it was done at. -/
structure TimerEntry where
  moment : Instant
  deed : TimerDeed
  deriving DecidableEq

/-- What goes into the log for deeds that are done at one moment. -/
def noted (now : Instant) (deeds : List TimerDeed) : List TimerEntry := deeds.map fun deed => ⟨now, deed⟩

/-- No deeds leave no entries. -/
@[simp] theorem noted_nil (now : Instant) : noted now [] = [] := rfl

/-- Deeds are noted in their order. -/
theorem noted_append (now : Instant) (front behind : List TimerDeed) :
    noted now (front ++ behind) = noted now front ++ noted now behind := List.map_append

/-- The deadline of a timer with this delay once the deed has been done. -/
def TimerEntry.deadline? (delay : Duration) (e : TimerEntry) : Option Instant :=
  match e.deed with
  | .armed => some (e.moment.after delay)
  | .stopped | .expired => none

namespace Timer

/-- The timer after something has been done to it. -/
def apply (t : Timer) (e : TimerEntry) : Timer :=
  match e.deed with
  | .armed => t.restart e.moment
  | .stopped | .expired => t.stop

/-- The timer after all that stands in a log. -/
def replay (t : Timer) (log : List TimerEntry) : Timer := log.foldl apply t

/-- Nothing has been done to the timer. -/
@[simp] theorem replay_nil (t : Timer) : t.replay [] = t := rfl

/-- A log may be replayed in two parts. -/
theorem replay_append (t : Timer) (front behind : List TimerEntry) :
    t.replay (front ++ behind) = (t.replay front).replay behind := List.foldl_append

/-- A deed decides when the timer expires and keeps its delay. -/
theorem apply_eq (t : Timer) (e : TimerEntry) : t.apply e = ⟨t.delay, e.deadline? t.delay⟩ := by
  unfold apply TimerEntry.deadline?
  cases e.deed <;> rfl

/-- The last deed decides, and the delay stays. -/
theorem replay_eq (delay : Duration) (log : List TimerEntry) :
    (stopped delay).replay log = ⟨delay, log.getLast?.bind (·.deadline? delay)⟩ := by
  induction log using List.reverseRecOn with
  | nil => rfl
  | append_singleton front e ih =>
    rw [replay_append, ih]
    simp only [replay, List.foldl_cons, List.foldl_nil, apply_eq, List.getLast?_concat, Option.bind_some]

end Timer

/-- The two timers of a cluster. -/
inductive Clock where
  /-- The timer that ends the active state. -/
  | idle
  /-- The timer that tries the relay again. -/
  | retry
  deriving DecidableEq

/-- What a cluster does a turn for when the timer expires. -/
def Clock.expiry : Clock → Trigger
  | .idle => .idleExpired
  | .retry => .retryExpired

def Clock.delay (config : Config) : Clock → Duration
  | .idle => config.idleTimeout
  | .retry => config.retryDelay

namespace Cluster

def timer (c : Cluster) : Clock → Timer
  | .idle => c.idleTimer
  | .retry => c.retryTimer

/-! ## The deeds -/

/-- What arming a timer comes to: a deadline that the clock cannot show leaves it as it is. -/
def armDeeds (t : Timer) (now : Instant) : List TimerDeed :=
  if (now.after t.delay).isShown then [.armed] else []

/-- What the end of a cluster does to either timer. -/
def endDeeds (c : Cluster) : List TimerDeed := if c.state = .destroyed then [] else [.stopped]

/-- What the failure of a tunnel does. -/
def failureDeeds (c : Cluster) (now : Instant) (error : TunnelError) : Clock → List TimerDeed
  | .idle => if c.isFatal error then c.endDeeds else []
  | .retry => if c.isFatal error then .stopped :: c.endDeeds else armDeeds c.retryTimer now

/-- What a report does. -/
def noticeDeeds (c : Cluster) (now : Instant) (id : TunnelId) (n : Notice) (k : Clock) : List TimerDeed :=
  if id ∉ c.pool then []
  else
    match n, k with
    | .connected, .retry => [.stopped]
    | .activity, .idle => armDeeds c.idleTimer now
    | .destroyed (some error), k => c.failureDeeds now error k
    | _, _ => []

/-- What reports do, one after the other, up to one at which the cluster crashes. -/
def hearDeeds (k : Clock) : Cluster → List Report → List TimerEntry
  | _, [] => []
  | c, report :: reports =>
      noted report.moment (c.noticeDeeds report.moment report.id report.notice k) ++
        if (c.heed report).isCrashed then [] else hearDeeds k (c.heed report) reports

/-- What another attempt does. The retry timer is not armed if the idle timer could not be. -/
def attemptDeeds (t : Clock → Timer) (now : Instant) : Clock → List TimerDeed
  | .idle => armDeeds (t .idle) now
  | .retry => if (now.after (t .idle).delay).isShown then armDeeds (t .retry) now else []

/-- What a retry does. -/
def retryDeeds (c : Cluster) (now : Instant) (k : Clock) : List TimerDeed :=
  if !c.pool.isEmpty ∨ c.state = .destroyed then []
  else if c.attempts < c.rules.retryCount then attemptDeeds c.timer now k
  else c.endDeeds

/-- What a turn does to a timer, in order. -/
def deeds (c : Cluster) (now : Instant) (trigger : Trigger) (k : Clock) : List TimerEntry :=
  match trigger with
  | .endRequested _ | .abandoned => noted now c.endDeeds
  | .noticed reports => hearDeeds k c reports
  | .idleExpired => noted now (if k = .idle then [.expired] else [])
  | .retryExpired => noted now ((if k = .retry then [.expired] else []) ++ c.retryDeeds now k)

section Accounts

variable (c : Cluster) (now : Instant) (k : Clock)

/-- The end of a cluster stops both timers, unless it is gone already. -/
theorem timer_destroy (error : Option TunnelError) :
    (c.destroy error).timer k = (c.timer k).replay (noted now c.endDeeds) := by
  unfold endDeeds
  split
  · next hgone => rw [destroy_of_destroyed hgone, noted_nil, Timer.replay_nil]
  · next hlive =>
    rw [destroy_of_live hlive]
    cases k <;> rfl

/-- A change between idle and active touches no timer. -/
theorem timer_enter (state : ClusterState) : (c.enter state).timer k = c.timer k := by
  unfold enter
  split
  · rfl
  · split
    · rw [shrink_eq]
      cases k <;> rfl
    · cases k <;> rfl

/-- A cluster that arms its idle timer goes on if the clock can show the deadline, and keeps both timers
otherwise. -/
theorem timer_rearmIdle {goOn : Cluster → Cluster} (hkept : ∀ c, (goOn c).timer k = c.timer k) :
    (c.rearmIdle now goOn).timer k =
      (c.timer k).replay (noted now (if k = .idle then armDeeds c.idleTimer now else [])) := by
  cases hshown : (now.after c.idleTimer.delay).isShown with
  | true =>
    rw [rearmIdle_of_shown hshown, hkept, armDeeds, if_pos hshown]
    cases k <;> rfl
  | false =>
    rw [rearmIdle_of_hidden hshown, armDeeds, if_neg (ne_true_of_eq_false hshown)]
    cases k <;> rfl

/-- So does one that arms its retry timer. -/
theorem timer_rearmRetry {goOn : Cluster → Cluster} (hkept : ∀ c, (goOn c).timer k = c.timer k) :
    (c.rearmRetry now goOn).timer k =
      (c.timer k).replay (noted now (if k = .retry then armDeeds c.retryTimer now else [])) := by
  cases hshown : (now.after c.retryTimer.delay).isShown with
  | true =>
    rw [rearmRetry_of_shown hshown, hkept, armDeeds, if_pos hshown]
    cases k <;> rfl
  | false =>
    rw [rearmRetry_of_hidden hshown, armDeeds, if_neg (ne_true_of_eq_false hshown)]
    cases k <;> rfl

/-- The failure of a tunnel does to a timer what its deeds say. -/
theorem timer_tunnelFailed (error : TunnelError) (wasOpened : Bool) :
    (c.tunnelFailed error wasOpened now).timer k =
      (c.timer k).replay (noted now (c.failureDeeds now error k)) := by
  cases hfatal : c.isFatal error with
  | true =>
    rw [tunnelFailed_of_fatal _ _ hfatal, timer_destroy _ now]
    cases k with
    | idle =>
      simp only [failureDeeds, hfatal, if_true]
      rfl
    | retry =>
      simp only [failureDeeds, hfatal, if_true]
      rfl
  | false =>
    have hlog : ¬ (c.log error).isFatal error = true := by
      rw [Bool.not_eq_true]
      exact hfatal
    rw [tunnelFailed, if_neg hlog]
    refine (timer_rearmRetry (c.log error) now k ?_).trans ?_
    · intro c'
      split
      · cases k <;> rfl
      · rfl
    · cases k with
      | idle =>
        simp only [failureDeeds, hfatal]
        rfl
      | retry =>
        simp only [failureDeeds, hfatal]
        rfl

/-- A report does to a timer what its deeds say, also if the cluster crashes over it. -/
theorem timer_notice (id : TunnelId) (n : Notice) :
    (c.notice now id n).timer k = (c.timer k).replay (noted now (c.noticeDeeds now id n k)) := by
  unfold noticeDeeds
  by_cases hmem : id ∈ c.pool
  · rw [if_neg (not_not_intro hmem)]
    cases n with
    | connected =>
      rw [notice_connected now hmem]
      cases k <;> rfl
    | activity =>
      rw [notice, if_neg (not_not_intro hmem)]
      refine (timer_rearmIdle (c.emit (.activity id)) now k ?_).trans ?_
      · intro c'
        have henter := timer_enter c' k .active
        cases k <;> exact henter
      · cases k <;> rfl
    | destroyed error =>
      cases error with
      | none =>
        rw [notice_ended now hmem]
        cases k <;> rfl
      | some error =>
        rw [notice_failed now error hmem, timer_tunnelFailed]
        cases k <;> rfl
  · rw [if_pos hmem, notice_of_not_mem now n hmem, noted_nil, Timer.replay_nil]

/-- So do all reports of a batch, up to a crash. -/
theorem timer_hear (reports : List Report) :
    (c.hear reports).timer k = (c.timer k).replay (hearDeeds k c reports) := by
  induction reports generalizing c with
  | nil => rfl
  | cons report reports ih =>
    have hfirst : (c.heed report).timer k = (c.timer k).replay
        (noted report.moment (c.noticeDeeds report.moment report.id report.notice k)) :=
      timer_notice c report.moment k report.id report.notice
    rw [hearDeeds, Timer.replay_append, ← hfirst]
    cases hcrashed : (c.heed report).isCrashed with
    | true => rw [hear_cons_of_crashed hcrashed, if_pos rfl, Timer.replay_nil]
    | false => rw [hear_cons hcrashed, ih, if_neg Bool.false_ne_true]

/-- Another attempt arms the idle timer and then the retry timer. -/
theorem timer_attempt :
    (c.rearmIdle now fun c =>
      { c.emit (.reconnect c.attempts) with fillPending := true }.rearmRetry now fun c => c).timer k =
      (c.timer k).replay (noted now (attemptDeeds c.timer now k)) := by
  cases hshown : (now.after c.idleTimer.delay).isShown with
  | true =>
    rw [rearmIdle_of_shown hshown]
    refine (timer_rearmRetry _ now k fun _ => rfl).trans ?_
    cases k with
    | idle =>
      have hdeeds : attemptDeeds c.timer now .idle = [.armed] := if_pos hshown
      rw [hdeeds]
      rfl
    | retry =>
      have hdeeds : attemptDeeds c.timer now .retry = armDeeds c.retryTimer now := if_pos hshown
      rw [hdeeds]
      rfl
  | false =>
    have hnone : attemptDeeds c.timer now k = [] := by
      cases k <;> exact if_neg (ne_true_of_eq_false hshown)
    rw [rearmIdle_of_hidden hshown, hnone]
    cases k <;> rfl

/-- A retry does to a timer what its deeds say. -/
theorem timer_retryExpired :
    (c.retryExpired now).timer k = (c.timer k).replay (noted now (c.retryDeeds now k)) := by
  unfold retryExpired retryDeeds
  split
  · rw [noted_nil, Timer.replay_nil]
  · split
    · -- the attempt is counted before the timers are armed, which touches neither
      have hcounted : ({ c with attempts := c.attempts + 1, changed := true }.enter .idle).timer =
          c.timer := by
        funext k'
        rw [timer_enter]
        cases k' <;> rfl
      rw [← hcounted]
      exact timer_attempt _ now k
    · exact timer_destroy _ now k _

/-- The end of a turn touches no timer. -/
theorem timer_settle : c.settle.timer k = c.timer k := by
  obtain ⟨_, _, _, _, hsettle⟩ := c.settle_keeps
  rw [hsettle]
  cases k <;> rfl

/-- What the reaction of a turn does to a timer accounts for the timer afterwards. -/
theorem timer_react (trigger : Trigger) :
    (c.react now trigger).timer k = (c.timer k).replay (c.deeds now trigger k) := by
  cases trigger with
  | endRequested error =>
    have hdestroy := timer_destroy c now k error
    rw [react, publish_eq]
    cases k <;> exact hdestroy
  | abandoned => exact timer_destroy c now k none
  | noticed reports => exact timer_hear c k reports
  | idleExpired =>
    have hkept : (idleExpired { c with idleTimer := c.idleTimer.stop }).timer k =
        timer { c with idleTimer := c.idleTimer.stop } k := by
      unfold idleExpired
      split
      · exact timer_enter _ k .idle
      · rfl
    refine hkept.trans ?_
    cases k <;> rfl
  | retryExpired =>
    refine (timer_retryExpired { c with retryTimer := c.retryTimer.stop } now k).trans ?_
    rw [deeds, noted_append, Timer.replay_append]
    cases k <;> rfl

/-- What a turn does to a timer accounts for the timer afterwards. -/
theorem timer_turn (trigger : Trigger) :
    (c.turn now trigger).timer k = (c.timer k).replay (c.deeds now trigger k) := by
  rw [← timer_react, turn]
  split
  · rfl
  · exact timer_settle _ k

end Accounts

/-! ## Expiries -/

/-- Whether some of these entries say that an expiry was taken. -/
def Expired (log : List TimerEntry) : Prop := ∃ e ∈ log, e.deed = .expired

section Expiries

variable (c : Cluster) (now : Instant) (k : Clock)

/-- No expiry is noted if none is among the deeds. -/
theorem not_expired_noted {deeds : List TimerDeed} (hnone : .expired ∉ deeds) :
    ¬ Expired (noted now deeds) := by
  rintro ⟨e, hmem, hexpired⟩
  obtain ⟨deed, hdeed, rfl⟩ := List.mem_map.mp hmem
  obtain rfl : deed = .expired := hexpired
  exact hnone hdeed

/-- Arming is no expiry. -/
theorem expired_not_mem_armDeeds (t : Timer) : .expired ∉ armDeeds t now := by
  unfold armDeeds
  split <;> simp

/-- The end of a cluster takes no expiry. -/
theorem expired_not_mem_endDeeds : .expired ∉ c.endDeeds := by
  unfold endDeeds
  split <;> simp

/-- Nor does the failure of a tunnel. -/
theorem expired_not_mem_failureDeeds (error : TunnelError) : .expired ∉ c.failureDeeds now error k := by
  cases k with
  | idle =>
    rw [failureDeeds]
    split
    · exact c.expired_not_mem_endDeeds
    · simp
  | retry =>
    rw [failureDeeds]
    split
    · simp [c.expired_not_mem_endDeeds]
    · exact expired_not_mem_armDeeds now c.retryTimer

/-- Nor does any report. -/
theorem expired_not_mem_noticeDeeds (id : TunnelId) (n : Notice) :
    .expired ∉ c.noticeDeeds now id n k := by
  unfold noticeDeeds
  split
  · simp
  · split
    · simp
    · exact expired_not_mem_armDeeds now c.idleTimer
    · exact c.expired_not_mem_failureDeeds now k _
    · simp

/-- Nor do the reports of a batch. -/
theorem not_expired_hearDeeds (reports : List Report) : ¬ Expired (hearDeeds k c reports) := by
  induction reports generalizing c with
  | nil =>
    rintro ⟨_, hmem, _⟩
    cases hmem
  | cons report reports ih =>
    rintro ⟨e, hmem, hexpired⟩
    rw [hearDeeds, List.mem_append] at hmem
    rcases hmem with hfirst | hrest
    · exact not_expired_noted report.moment
        (c.expired_not_mem_noticeDeeds report.moment k report.id report.notice) ⟨e, hfirst, hexpired⟩
    · split at hrest
      · cases hrest
      · exact ih _ ⟨e, hrest, hexpired⟩

/-- Nor does a retry, apart from the expiry it is taken for. -/
theorem expired_not_mem_retryDeeds : .expired ∉ c.retryDeeds now k := by
  unfold retryDeeds
  split
  · simp
  · split
    · cases k with
      | idle => exact expired_not_mem_armDeeds now c.idleTimer
      | retry =>
        rw [attemptDeeds]
        split
        · exact expired_not_mem_armDeeds now c.retryTimer
        · simp
    · exact c.expired_not_mem_endDeeds

/-- A turn that is taken for the expiry of a timer takes the expiry first, and once. -/
theorem deeds_expiry :
    ∃ more, c.deeds now k.expiry k = ⟨now, .expired⟩ :: more ∧ ¬ Expired more := by
  cases k with
  | idle => exact ⟨[], rfl, not_expired_noted now List.not_mem_nil⟩
  | retry =>
    exact ⟨noted now (c.retryDeeds now .retry), rfl,
      not_expired_noted now (c.expired_not_mem_retryDeeds now .retry)⟩

/-- No other turn takes it. -/
theorem not_expired_deeds {trigger : Trigger} (h : trigger ≠ k.expiry) :
    ¬ Expired (c.deeds now trigger k) := by
  cases trigger with
  | endRequested error => exact not_expired_noted now c.expired_not_mem_endDeeds
  | abandoned => exact not_expired_noted now c.expired_not_mem_endDeeds
  | noticed reports => exact c.not_expired_hearDeeds k reports
  | idleExpired =>
    cases k with
    | idle => exact absurd rfl h
    | retry => exact not_expired_noted now List.not_mem_nil
  | retryExpired =>
    cases k with
    | idle => exact not_expired_noted now (c.expired_not_mem_retryDeeds now .idle)
    | retry => exact absurd rfl h

/-- The turns that take the expiry of a timer are those that are taken for it. -/
theorem expired_deeds_iff {trigger : Trigger} :
    Expired (c.deeds now trigger k) ↔ trigger = k.expiry := by
  constructor
  · intro hexpired
    by_contra hother
    exact c.not_expired_deeds now k hother hexpired
  · rintro rfl
    obtain ⟨more, hdeeds, -⟩ := c.deeds_expiry now k
    rw [hdeeds]
    exact ⟨_, List.mem_cons_self, rfl⟩

end Expiries

end Cluster

end RelayTunnel
