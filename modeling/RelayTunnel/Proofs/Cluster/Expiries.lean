import RelayTunnel.Proofs.Cluster.Chronicle
import RelayTunnel.Proofs.Cluster.Crashes
import RelayTunnel.Proofs.Cluster.TimerDeeds
import RelayTunnel.Proofs.Cluster.Timers

/-!
# Expiries of the timers

The loop of a cluster asks its branches for something to do: the requests to end, the reports, and the two
timers. Several may have something to offer, and which of them the loop turns to depends on the order in which
it asks them. `Clocked` is a run in which the order is another one in every turn, with a log of what is done
to one of the timers.

No expiry is lost and none is taken twice (`clocked_expiries`): the entry in front of an expiry is the arming
it belongs to, and as long as nothing is done to a timer that was armed, it stays due from its deadline on.
-/

set_option autoImplicit false

namespace RelayTunnel

namespace Timer

variable (t : Timer)

/-- A timer is due when its deadline has come. -/
theorem isDue_iff (now : Instant) :
    t.isDue now = true ↔ ∃ deadline, t.deadline = some deadline ∧ deadline.notAfter now = true := by
  unfold isDue
  cases t.deadline <;> simp

/-- To start a running timer changes nothing, and the clock is not asked for a deadline. -/
theorem start_of_running {t : Timer} (h : t.isRunning = true) (now : Instant) :
    t.start now = t ∧ t.start? now = some t := by
  obtain ⟨deadline, hdeadline⟩ := Option.isSome_iff_exists.mp h
  unfold start start?
  rw [hdeadline]
  exact ⟨rfl, rfl⟩

/-- To wait for a timer changes nothing if it does not expire meanwhile. If it does, it was due then, and it
is stopped. -/
theorem expireBetween_cases {begin_ end_ : Instant} (h : begin_.notAfter end_ = true) :
    (t.expireBetween begin_ end_ = (none, t) ∧ t.isDue end_ = false) ∨
      ∃ moment, t.expireBetween begin_ end_ = (some moment, t.stop) ∧ t.isDue moment = true ∧
        begin_.notAfter moment = true ∧ moment.notAfter end_ = true := by
  unfold expireBetween isDue
  cases t.deadline with
  | none => exact Or.inl ⟨rfl, rfl⟩
  | some deadline =>
    have hlatest : (begin_.latest deadline).notAfter end_ = deadline.notAfter end_ := by
      unfold Instant.notAfter Instant.latest
      rw [decide_eq_decide, Nat.max_le]
      exact and_iff_right (of_decide_eq_true h)
    dsimp only
    rw [hlatest]
    cases hcome : deadline.notAfter end_ with
    | false => exact Or.inl ⟨rfl, rfl⟩
    | true =>
      refine Or.inr ⟨begin_.latest deadline, rfl, ?_, ?_, hlatest.trans hcome⟩
      · exact decide_eq_true (Nat.le_max_right _ _)
      · exact decide_eq_true (Nat.le_max_left _ _)

end Timer

/-! ## Logs of a timer -/

/-- By this moment, a timer with this log expires: it was armed last, and its deadline has come. -/
def Expires (delay : Duration) (log : List TimerEntry) (now : Instant) : Prop :=
  ∃ front armed, log = front ++ [⟨armed, .armed⟩] ∧ (armed.after delay).notAfter now = true

/-- Every expiry in the log is that of the arming right in front of it, and it was not taken before the
deadline. -/
def Punctual (delay : Duration) (log : List TimerEntry) : Prop :=
  ∀ before moment after, log = before ++ ⟨moment, .expired⟩ :: after → Expires delay before moment

section Logs

variable {delay : Duration} {log : List TimerEntry}

/-- A timer runs if it was armed last. -/
theorem deadline_replay_iff (deadline : Instant) :
    ((Timer.stopped delay).replay log).deadline = some deadline ↔
      ∃ front armed, log = front ++ [⟨armed, .armed⟩] ∧ deadline = armed.after delay := by
  rw [Timer.replay_eq]
  rcases List.eq_nil_or_concat log with rfl | ⟨front, ⟨moment, deed⟩, rfl⟩
  · simp
  · cases deed <;> simp [TimerEntry.deadline?, eq_comm]

/-- A timer is due exactly when its log says that it expires. -/
theorem isDue_replay_iff (now : Instant) :
    ((Timer.stopped delay).replay log).isDue now = true ↔ Expires delay log now := by
  rw [Timer.isDue_iff]
  constructor
  · rintro ⟨deadline, hdeadline, hcome⟩
    obtain ⟨front, armed, hlog, rfl⟩ := (deadline_replay_iff deadline).mp hdeadline
    exact ⟨front, armed, hlog, hcome⟩
  · rintro ⟨front, armed, hlog, hcome⟩
    exact ⟨_, (deadline_replay_iff _).mpr ⟨front, armed, hlog, rfl⟩, hcome⟩

/-- An expiry may be added that belongs to the arming in front of it and is not early. -/
theorem Punctual.concat (h : Punctual delay log) {e : TimerEntry}
    (he : e.deed = .expired → Expires delay log e.moment) : Punctual delay (log ++ [e]) := by
  intro before moment after hsplit
  rcases Cluster.split_concat hsplit with ⟨rfl, rfl⟩ | ⟨mid, hmid⟩
  · exact he rfl
  · exact h before moment mid hmid

/-- Entries that are no expiries may be added. -/
theorem Punctual.append (h : Punctual delay log) {more : List TimerEntry} (hnone : ¬ Cluster.Expired more) :
    Punctual delay (log ++ more) := by
  induction more using List.reverseRecOn with
  | nil => rwa [List.append_nil]
  | append_singleton front e ih =>
    rw [← List.append_assoc]
    refine (ih fun ⟨e', hmem, hexpired⟩ => ?_).concat fun hexpired => ?_
    · exact hnone ⟨e', List.mem_append_left _ hmem, hexpired⟩
    · exact absurd ⟨e, List.mem_append_right _ List.mem_cons_self, hexpired⟩ hnone

end Logs

namespace Cluster

/-! ## The branches of the loop -/

/-- What the loop of a cluster waits for. -/
inductive Branch where
  | requests
  | reports
  | timer (k : Clock)
  deriving DecidableEq

/-- What a branch has to offer, if anything, and what is left waiting behind it. -/
def offer? (c : Cluster) (now : Instant) (p : Pending) : Branch → Option (Trigger × Pending)
  | .requests =>
      match p.requests with
      | error :: requests => some (.endRequested error, { p with requests := requests })
      | [] => if p.isAbandoned then some (.abandoned, p) else none
  | .reports => if p.reports.isEmpty then none else some (.noticed p.reports, { p with reports := [] })
  | .timer k => if (c.timer k).isDue now then some (k.expiry, p) else none

/-- What a cluster turns to if it asks its branches in this order. -/
def select? (c : Cluster) (now : Instant) (p : Pending) (order : List Branch) : Option (Trigger × Pending) :=
  if c.isGone then none else order.findSome? (c.offer? now p)

section Selection

variable {c : Cluster} {now : Instant} {p p' : Pending} {trigger : Trigger} {order : List Branch} {k : Clock}

/-- `next?` asks in one of the orders. -/
theorem select?_eq_next? (c : Cluster) (now : Instant) (p : Pending) :
    c.select? now p [.requests, .reports, .timer .idle, .timer .retry] = c.next? now p := by
  obtain ⟨requests, isAbandoned, reports⟩ := p
  unfold select? next?
  split
  · rfl
  · simp only [List.findSome?_cons, List.findSome?_nil, offer?, timer, Clock.expiry]
    cases requests with
    | cons error requests => rfl
    | nil =>
      cases isAbandoned with
      | true => rfl
      | false =>
        cases reports with
        | cons report reports => rfl
        | nil =>
          by_cases hidle : c.idleTimer.isDue now = true
          · simp [hidle]
          · by_cases hretry : c.retryTimer.isDue now = true <;> simp [hidle, hretry]

/-- The expiry of a timer can be taken when the timer is due. -/
theorem admits_expiry : c.Admits now k.expiry ↔ (c.timer k).isDue now = true := by
  cases k <;> exact Iff.rfl

/-- Then its branch offers the expiry. -/
theorem offer?_of_due (hdue : c.Admits now k.expiry) (p : Pending) :
    c.offer? now p (.timer k) = some (k.expiry, p) := by
  rw [offer?, if_pos (admits_expiry.mp hdue)]

/-- Whatever a branch has to offer, the cluster can react to. -/
theorem admits_of_offer? {b : Branch} (hturn : InTurn now p.reports)
    (h : c.offer? now p b = some (trigger, p')) : c.Admits now trigger := by
  cases b with
  | requests =>
    simp only [offer?] at h
    split at h
    · cases h
      trivial
    · split at h
      · cases h
        trivial
      · cases h
  | reports =>
    simp only [offer?] at h
    split at h
    · cases h
    · next hreports =>
      cases h
      exact ⟨by simpa using hreports, hturn⟩
  | timer k =>
    simp only [offer?] at h
    split at h
    · next hdue =>
      cases h
      exact admits_expiry.mpr hdue
    · cases h

/-- Whatever a cluster turns to, in whatever order it asks, is something that it can react to. -/
theorem admits_of_select? (hturn : InTurn now p.reports)
    (h : c.select? now p order = some (trigger, p')) : c.Admits now trigger := by
  unfold select? at h
  split at h
  · cases h
  · obtain ⟨b, -, hoffer⟩ := List.exists_of_findSome?_eq_some h
    exact admits_of_offer? hturn hoffer

/-- A cluster that is gone turns to nothing. -/
theorem live_of_select? (h : c.select? now p order = some (trigger, p')) : c.state ≠ .destroyed := by
  cases hgone : c.isGone with
  | false => exact (isGone_eq_false_iff.mp hgone).2
  | true =>
    rw [select?, if_pos hgone] at h
    cases h

/-- While a timer is due, the loop does not wait. -/
theorem isSome_select?_of_due (hthere : c.isGone = false) (hdue : c.Admits now k.expiry)
    (hmem : .timer k ∈ order) : (c.select? now p order).isSome = true := by
  rw [select?, if_neg (ne_true_of_eq_false hthere), List.findSome?_isSome_iff]
  exact ⟨_, hmem, by simp [offer?_of_due hdue]⟩

/-- Its expiry is taken if all branches that are asked before it have nothing to offer. -/
theorem select?_of_due (hthere : c.isGone = false) (hdue : c.Admits now k.expiry)
    (before after : List Branch) (hnone : ∀ b ∈ before, c.offer? now p b = none) :
    c.select? now p (before ++ .timer k :: after) = some (k.expiry, p) := by
  rw [select?, if_neg (ne_true_of_eq_false hthere), List.findSome?_append, List.findSome?_eq_none_iff.mpr hnone,
    List.findSome?_cons, offer?_of_due hdue]
  rfl

/-- A cluster that asks one branch only turns to what that branch offers. -/
theorem select?_singleton (hthere : c.isGone = false) (b : Branch) :
    c.select? now p [b] = c.offer? now p b := by
  rw [select?, if_neg (ne_true_of_eq_false hthere), List.findSome?_cons]
  cases c.offer? now p b <;> rfl

/-- Whatever a cluster can react to, it turns to if that is all there is. -/
theorem exists_select? (hthere : c.isGone = false) (hadmits : c.Admits now trigger) :
    ∃ p order p', c.select? now p order = some (trigger, p') := by
  suffices h : ∃ p b p', c.offer? now p b = some (trigger, p') by
    obtain ⟨p, b, p', hoffer⟩ := h
    exact ⟨p, [b], p', (select?_singleton hthere b).trans hoffer⟩
  cases trigger with
  | endRequested error => exact ⟨⟨[error], false, []⟩, .requests, _, rfl⟩
  | abandoned => exact ⟨⟨[], true, []⟩, .requests, _, rfl⟩
  | noticed reports =>
    cases reports with
    | nil => exact absurd rfl hadmits.1
    | cons report reports => exact ⟨⟨[], false, report :: reports⟩, .reports, _, rfl⟩
  | idleExpired => exact ⟨⟨[], false, []⟩, .timer .idle, _, offer?_of_due (k := .idle) hadmits _⟩
  | retryExpired => exact ⟨⟨[], false, []⟩, .timer .retry, _, offer?_of_due (k := .retry) hadmits _⟩

end Selection

/-! ## Runs -/

/-- What the start of a cluster does to a timer. -/
def openingDeeds : Clock → List TimerDeed
  | .idle => [.armed]
  | .retry => []

/-- A run in which the branches are asked in any order in any turn, whatever has come up by then, with a log
of what was done to one of the timers. Its turns come to their end. -/
inductive Clocked (config : Config) (k : Clock) : List TimerEntry → Instant → Cluster → Prop where
  | start (now : Instant) : ((ofConfig config).start now).isCrashed = false →
      Clocked config k (noted now (openingDeeds k)) now ((ofConfig config).start now)
  | turn {log : List TimerEntry} {now : Instant} {c : Cluster} {later : Instant} {p p' : Pending}
      {order : List Branch} {trigger : Trigger} :
      Clocked config k log now c → now.notAfter later = true →
      c.select? later p order = some (trigger, p') → c.Takes later trigger →
      Clocked config k (log ++ c.deeds later trigger k) (trigger.ends later) (c.turn later trigger)

namespace Clocked

variable {config : Config} {k : Clock} {log : List TimerEntry} {now : Instant} {c : Cluster}

/-- Such a run is a run. -/
theorem reachable (h : Clocked config k log now c) : Reachable config now c := by
  induction h with
  | start now hdone => exact .start now hdone
  | turn _ hlater hselect htakes ih => exact .turn _ _ ih (live_of_select? hselect) hlater htakes

/-- The log accounts for the timer. -/
theorem timer_eq (h : Clocked config k log now c) :
    c.timer k = (Timer.stopped (k.delay config)).replay log := by
  induction h with
  | start now hdone =>
    rw [start_eq hdone, publish_eq]
    cases k <;> rfl
  | turn _ _ _ _ ih => rw [timer_turn, ih, Timer.replay_append]

/-- An expiry can be taken exactly when the log says so. -/
theorem admits_expiry_iff (h : Clocked config k log now c) (later : Instant) :
    c.Admits later k.expiry ↔ Expires (k.delay config) log later := by
  rw [admits_expiry, h.timer_eq, isDue_replay_iff]

/-- No expiry of a run is taken early, and each belongs to the arming in front of it. -/
theorem punctual (h : Clocked config k log now c) : Punctual (k.delay config) log := by
  induction h with
  | start now =>
    have hopening : ¬ Expired (noted now (openingDeeds k)) := by
      refine not_expired_noted now ?_
      cases k <;> simp [openingDeeds]
    have hnothing : Punctual (k.delay config) [] := by
      intro before moment after hsplit
      simp at hsplit
    exact hnothing.append hopening
  | @turn log _ c later _ _ _ trigger hrun _ _ htakes ih =>
    by_cases hexpiry : trigger = k.expiry
    · obtain rfl := hexpiry
      -- the expiry is noted first, and what its handler does comes behind it
      obtain ⟨more, hdeeds, hnone⟩ := c.deeds_expiry later k
      rw [hdeeds]
      have htaken : Punctual (k.delay config) (log ++ [⟨later, .expired⟩]) :=
        ih.concat fun _ => (hrun.admits_expiry_iff later).mp htakes.admits
      have hbehind : Punctual (k.delay config) (log ++ [⟨later, .expired⟩] ++ more) :=
        htaken.append hnone
      rwa [List.append_assoc] at hbehind
    · exact ih.append (c.not_expired_deeds later k hexpiry)

end Clocked

/-- What the program turns to by itself goes on with such a run, as long as the clock can show the deadlines
of the timers. -/
theorem Clocked.next {config : Config} {k : Clock} {log : List TimerEntry} {now later : Instant} {c : Cluster}
    {p p' : Pending} {trigger : Trigger} (h : Clocked config k log now c) (hlater : now.notAfter later = true)
    (hturn : InTurn later p.reports) (hnext : c.next? later p = some (trigger, p'))
    (hfits : Fitting config (trigger.ends later)) :
    Clocked config k (log ++ c.deeds later trigger k) (trigger.ends later) (c.turn later trigger) := by
  rw [← select?_eq_next?] at hnext
  have hadmits := admits_of_select? hturn hnext
  exact .turn h hlater hnext (h.reachable.takes (live_of_select? hnext) hadmits hfits)

/-- Every run can be clocked. -/
theorem Reachable.clocked {config : Config} {now : Instant} {c : Cluster} (k : Clock)
    (h : Reachable config now c) : ∃ log, Clocked config k log now c := by
  induction h with
  | start now hdone => exact ⟨_, .start now hdone⟩
  | turn later trigger hrun hlive hlater htakes ih =>
    obtain ⟨log, hlog⟩ := ih
    have hthere := isGone_eq_false_iff.mpr ⟨hrun.intact, hlive⟩
    obtain ⟨p, order, p', hselect⟩ := exists_select? hthere htakes.admits
    exact ⟨_, .turn hlog hlater hselect htakes⟩

/-- No expiry is lost and none is taken twice, in any run of the loop, for either timer.

The expiries in the log are each that of the arming right in front of it, and not earlier than its deadline.
The timer runs with the deadline of the last arming, as long as nothing has been done to it since, and from
the deadline on its branch can be taken. To wait for it, even in vain, and to start it once more changes
nothing, and a turn that does nothing to it leaves it as it was. The expiry is taken in the turns that the
branch has won, and in no others: from the deadline on the loop waits no more, and the branch wins if those
that are asked before it have nothing to offer. -/
theorem clocked_expiries {config : Config} {k : Clock} {log : List TimerEntry} {now : Instant} {c : Cluster}
    (hrun : Clocked config k log now c) :
    Punctual (k.delay config) log ∧
    (∀ deadline, (c.timer k).deadline = some deadline ↔
      ∃ front armed, log = front ++ [⟨armed, .armed⟩] ∧ deadline = armed.after (k.delay config)) ∧
    (∀ later, c.Admits later k.expiry ↔ Expires (k.delay config) log later) ∧
    (∀ later, now.notAfter later = true →
      ((c.timer k).expireBetween now later = (none, c.timer k) ∧ ¬ Expires (k.delay config) log later) ∨
      ∃ moment, (c.timer k).expireBetween now later = (some moment, (c.timer k).stop) ∧
        Expires (k.delay config) log moment ∧ now.notAfter moment = true ∧ moment.notAfter later = true) ∧
    (∀ later, (c.timer k).isRunning = true →
      (c.timer k).start later = c.timer k ∧ (c.timer k).start? later = some (c.timer k)) ∧
    (∀ later trigger, (Expired (c.deeds later trigger k) ↔ trigger = k.expiry) ∧
      (c.deeds later trigger k = [] → (c.turn later trigger).timer k = c.timer k)) ∧
    (∀ later, c.state ≠ .destroyed → Expires (k.delay config) log later →
      (∀ p order, .timer k ∈ order → (c.select? later p order).isSome = true) ∧
      ∀ p before after, (∀ b ∈ before, c.offer? later p b = none) →
        c.select? later p (before ++ .timer k :: after) = some (k.expiry, p)) := by
  have hdue := hrun.admits_expiry_iff
  refine ⟨hrun.punctual, ?_, hdue, ?_, ?_, ?_, ?_⟩
  · intro deadline
    rw [hrun.timer_eq, deadline_replay_iff]
  · intro later hlater
    have hexpires : ∀ moment, (c.timer k).isDue moment = true ↔ Expires (k.delay config) log moment :=
      fun moment => admits_expiry.symm.trans (hdue moment)
    rcases (c.timer k).expireBetween_cases hlater with ⟨hvain, hwaits⟩ | ⟨moment, htaken, hcome, hspan⟩
    · refine Or.inl ⟨hvain, fun hlog => ?_⟩
      rw [(hexpires later).mpr hlog] at hwaits
      cases hwaits
    · exact Or.inr ⟨moment, htaken, (hexpires moment).mp hcome, hspan⟩
  · intro later hrunning
    exact Timer.start_of_running hrunning later
  · intro later trigger
    refine ⟨c.expired_deeds_iff later k, fun hnothing => ?_⟩
    rw [timer_turn, hnothing, Timer.replay_nil]
  · intro later hlive hlog
    have hadmits := (hdue later).mpr hlog
    have hthere := isGone_eq_false_iff.mpr ⟨hrun.reachable.intact, hlive⟩
    exact ⟨fun p order => isSome_select?_of_due hthere hadmits,
      fun p before after => select?_of_due hthere hadmits before after⟩

/-- A cluster that has tried the relay again. Its only tunnel had failed before it opened its session. -/
def retriedCluster : Cluster :=
  (((ofConfig loopbackConfig).start ⟨1⟩).turn ⟨2⟩
    (.noticed [⟨⟨2⟩, 1, .destroyed (some .openingClosed)⟩])).turn ⟨1000000002⟩ .retryExpired

/-- The retry timer was armed for the failure, it expired after its delay, though there was a report, too, and
it is armed for the next retry. -/
theorem retriedCluster_expiries :
    Clocked loopbackConfig .retry
      [⟨⟨2⟩, .armed⟩, ⟨⟨1000000002⟩, .expired⟩, ⟨⟨1000000002⟩, .armed⟩] ⟨1000000002⟩ retriedCluster ∧
    Expires loopbackConfig.retryDelay [⟨⟨2⟩, .armed⟩] ⟨1000000002⟩ ∧
    ¬ retriedCluster.Admits ⟨2000000001⟩ .retryExpired ∧
    retriedCluster.Admits ⟨2000000002⟩ .retryExpired := by
  have hreport : ((ofConfig loopbackConfig).start ⟨1⟩).select? ⟨2⟩
      ⟨[], false, [⟨⟨2⟩, 1, .destroyed (some .openingClosed)⟩]⟩ [.timer .idle, .reports] =
      some (.noticed [⟨⟨2⟩, 1, .destroyed (some .openingClosed)⟩], ⟨[], false, []⟩) := by
    rfl
  have hfailed := (Clocked.start ⟨1⟩ (by decide +kernel) : Clocked loopbackConfig .retry _ _ _).turn
    (by decide) hreport ⟨⟨List.cons_ne_nil _ _, by decide, trivial⟩, by decide +kernel⟩
  have hexpiry : (((ofConfig loopbackConfig).start ⟨1⟩).turn ⟨2⟩
      (.noticed [⟨⟨2⟩, 1, .destroyed (some .openingClosed)⟩])).select? ⟨1000000002⟩
      ⟨[], false, [⟨⟨1000000002⟩, 7, .activity⟩]⟩ [.timer .retry, .reports] =
      some (.retryExpired, ⟨[], false, [⟨⟨1000000002⟩, 7, .activity⟩]⟩) := by
    rfl
  have hrun : Clocked loopbackConfig .retry
      [⟨⟨2⟩, .armed⟩, ⟨⟨1000000002⟩, .expired⟩, ⟨⟨1000000002⟩, .armed⟩] ⟨1000000002⟩ retriedCluster :=
    hfailed.turn (by decide) hexpiry
      ⟨(admits_expiry (k := .retry)).mpr (by decide +kernel), by decide +kernel⟩
  obtain ⟨hpunctual, -, hdue, -⟩ := clocked_expiries hrun
  refine ⟨hrun, hpunctual [⟨⟨2⟩, .armed⟩] _ _ rfl, ?_, ?_⟩
  · intro hearly
    obtain ⟨front, armed, hlog, hcome⟩ := (hdue _).mp hearly
    have hlast : (⟨1000000002⟩ : Instant) = armed := by simpa using congrArg List.getLast? hlog
    subst hlast
    exact absurd hcome (by decide)
  · exact (hdue _).mpr ⟨[⟨⟨2⟩, .armed⟩, ⟨⟨1000000002⟩, .expired⟩], ⟨1000000002⟩, rfl, by decide⟩

end Cluster

end RelayTunnel
