import RelayTunnel.Proofs.Cluster.Endings
import RelayTunnel.Proofs.Cluster.Handover
import RelayTunnel.Proofs.Cluster.Timers

/-!
# When a cluster becomes idle

The idle timer of an active cluster runs out when the idle timeout has passed since a tunnel of its
pool was last active. `Watched` holds that against the chronicle, and so a cluster does not become
idle earlier by itself. The only other way is a retry, which finds the pool empty.

Reports are heard before the timer is asked, so activity that has been reported by the moment of the
expiry arms the timer once more, for the idle timeout after the moment at which it is heard
(`chronicle_calms`).
-/

set_option autoImplicit false

namespace RelayTunnel

namespace Timer

variable {t : Timer} {now : Instant}

/-- A timer that does not run is never due. -/
theorem isDue_of_not_running (h : t.isRunning = false) : t.isDue now = false := by
  obtain ⟨delay, deadline⟩ := t
  cases deadline with
  | none => rfl
  | some _ => cases h

end Timer

namespace Cluster

/-! ## Activity in a chronicle -/

def Record.isActivity (r : Record) : Bool :=
  match r.event with
  | .activity _ => true
  | _ => false

/-- When a tunnel of the pool was last active. -/
def lastActivity? (log : List Record) : Option Instant :=
  (log.filter (·.isActivity)).getLast?.map (·.moment)

/-- A cluster becomes idle when its timer expires, the idle timeout after the last activity at the
earliest, or when the relay is tried again. -/
def CalmedBy (config : Config) (before : List Record) (r : Record) : Prop :=
  (r.trigger = .idleExpired ∧ ∃ last, lastActivity? before = some last ∧
    (last.after config.idleTimeout).notAfter r.moment = true) ∨
  r.trigger = .retryExpired

/-- Whenever a cluster became idle, there was cause for it. -/
def Calm (config : Config) (log : List Record) : Prop :=
  ∀ before r after, log = before ++ r :: after → r.event = .state .idle → CalmedBy config before r

section Activity

variable {config : Config} {log more : List Record} {r : Record} {now : Instant} {trigger : Trigger}

/-- Activity that is noted is the last activity. -/
theorem lastActivity?_concat (h : r.isActivity = true) :
    lastActivity? (log ++ [r]) = some r.moment := by
  simp [lastActivity?, h]

/-- Anything else that is noted leaves the last activity as it was. -/
theorem lastActivity?_append (h : ∀ r ∈ more, r.isActivity = false) :
    lastActivity? (log ++ more) = lastActivity? log := by
  have hnone : more.filter (·.isActivity) = [] := by simpa using h
  rw [lastActivity?, List.filter_append, hnone, List.append_nil, lastActivity?]

/-- Letting go of tunnels is no activity. -/
theorem isActivity_releases (ids : List TunnelId) :
    ∀ r ∈ records now trigger (releases ids), r.isActivity = false := by
  simp [records, Record.isActivity]

/-- Letting go of tunnels announces no state. -/
theorem state_not_mem_releases (ids : List TunnelId) (state : ClusterState) :
    .state state ∉ events (releases ids) := by
  simp

/-- A record may be added that has a cause if it says that the cluster became idle. -/
theorem Calm.concat (h : Calm config log) (hr : r.event = .state .idle → CalmedBy config log r) :
    Calm config (log ++ [r]) := by
  intro before s after hsplit hs
  rcases split_concat hsplit with ⟨rfl, rfl⟩ | ⟨mid, hmid⟩
  · exact hr hs
  · exact h before s mid hmid hs

/-- Records may be added, among which a cluster becomes idle only for a retry. -/
theorem Calm.append (h : Calm config log) {events : List ClusterEvent}
    (hnew : .state .idle ∈ events → trigger = .retryExpired) :
    Calm config (log ++ events.map fun event => ⟨now, trigger, event⟩) := by
  induction events using List.reverseRecOn with
  | nil => rwa [List.map_nil, List.append_nil]
  | append_singleton front event ih =>
    have hfront := ih fun hmem => hnew (List.mem_append_left _ hmem)
    rw [List.map_append, ← List.append_assoc]
    refine hfront.concat fun hevent => Or.inr (hnew ?_)
    have hlast : event = .state .idle := hevent
    simp [hlast]

end Activity

/-! ## The idle timer and the chronicle -/

/-- The idle timer of an active cluster runs out when the idle timeout has passed since the last
activity, and the cluster never became idle without cause. -/
structure Watched (config : Config) (log : List Record) (c : Cluster) : Prop where
  delay : c.idleTimer.delay = config.idleTimeout
  armed : c.state = .active → ∃ last, lastActivity? log = some last ∧
    c.idleTimer.deadline = some (last.after config.idleTimeout)
  calm : Calm config log

namespace Watched

variable {config : Config} {log : List Record} {now : Instant} {trigger : Trigger} {c c' : Cluster}

/-- A change in which no tunnel is active, and through which the cluster does not become active. -/
theorem aside (h : Watched config log c) {events : List ClusterEvent}
    (hquiet : ∀ event ∈ events, Record.isActivity ⟨now, trigger, event⟩ = false)
    (hcalm : .state .idle ∈ events → trigger = .retryExpired)
    (hdelay : c'.idleTimer.delay = c.idleTimer.delay)
    (hactive : c'.state = .active → c.state = .active ∧ c'.idleTimer = c.idleTimer) :
    Watched config (log ++ events.map fun event => ⟨now, trigger, event⟩) c' := by
  refine ⟨hdelay.trans h.delay, fun hnow => ?_, h.calm.append hcalm⟩
  obtain ⟨hbefore, htimer⟩ := hactive hnow
  have hlast : ∀ r ∈ events.map fun event => (⟨now, trigger, event⟩ : Record),
      r.isActivity = false := by
    simpa using hquiet
  rw [lastActivity?_append hlast, htimer]
  exact h.armed hbefore

/-- Activity arms the timer anew. What else is reported with it is the new state. -/
theorem stirred (h : Watched config log c) {id : TunnelId} {events : List ClusterEvent}
    (hevents : events = [] ∨ events = [.state .active])
    (htimer : c'.idleTimer = c.idleTimer.restart now) :
    Watched config (log ++ (.activity id :: events).map fun event => ⟨now, trigger, event⟩) c' := by
  have hquiet : ∀ r ∈ events.map fun event => (⟨now, trigger, event⟩ : Record),
      r.isActivity = false := by
    rcases hevents with rfl | rfl <;> simp [Record.isActivity]
  have hcalm : .state .idle ∉ .activity id :: events := by
    rcases hevents with rfl | rfl <;> simp
  refine ⟨?_, fun _ => ⟨now, ?_, ?_⟩, h.calm.append fun hmem => absurd hmem hcalm⟩
  · rw [htimer]
    exact h.delay
  · rw [List.map_cons, List.append_cons, lastActivity?_append hquiet, lastActivity?_concat rfl]
  · rw [htimer, ← h.delay]
    rfl

/-- Every move keeps the watch on the idle timer. -/
theorem move {added : List ClusterAction} (h : Watched config log c)
    (hmove : Move now trigger c added c') : Watched config (log ++ records now trigger added) c' := by
  cases hmove with
  | woken => exact h.stirred (Or.inr rfl) rfl
  | stirred => exact h.stirred (Or.inl rfl) rfl
  | connected | closed | failed | condemned | filled | published | acknowledged | spared =>
    exact h.aside (by simp [Record.isActivity]) (by simp) rfl fun hactive => ⟨hactive, rfl⟩
  | ended | surrendered =>
    refine h.aside ?_ ?_ rfl fun hactive => ClusterState.noConfusion hactive
    · simp [events_farewell, or_imp, forall_and, Record.isActivity]
    · simp [events_farewell]
  | dozed hidle =>
    exact h.aside (by simp) (by simp) rfl fun hactive =>
      ClusterState.noConfusion (hidle.symm.trans hactive)
  | retried =>
    refine h.aside ?_ (fun _ => rfl) rfl fun hactive => ClusterState.noConfusion hactive
    split <;> simp [Record.isActivity]
  | calmed hactive hdue =>
    obtain ⟨last, hlast, hdeadline⟩ := h.armed hactive
    have hcome : (last.after config.idleTimeout).notAfter now = true := by
      simpa [Timer.isDue, hdeadline] using hdue
    -- the closings come first, and then the state
    have hfront : Calm config (log ++ records now .idleExpired (releases (c.pool.drop 1).reverse)) :=
      h.calm.append fun hmem => absurd hmem (state_not_mem_releases _ _)
    rw [records_append, ← List.append_assoc]
    refine ⟨h.delay, fun hidle => ClusterState.noConfusion hidle, hfront.concat fun _ => ?_⟩
    refine Or.inl ⟨rfl, last, ?_, hcome⟩
    rw [lastActivity?_append (isActivity_releases _), hlast]

end Watched

/-- A cluster that has just been started has seen no activity. -/
theorem watched_start {config : Config} (now : Instant)
    (hdone : ((ofConfig config).start now).isCrashed = false) :
    Watched config [] ((ofConfig config).start now) := by
  rw [start_eq hdone, publish_eq]
  refine ⟨rfl, fun hactive => ClusterState.noConfusion hactive, fun before r after hsplit => ?_⟩
  simp at hsplit

/-- In every run, the idle timer is watched. -/
theorem Chronicle.watched {config : Config} {log : List Record} {now : Instant} {c : Cluster}
    (h : Chronicle config log now c) : Watched config log c :=
  h.keeps (I := fun log _ c => Watched config log c) watched_start
    (fun _ _ _ _ _ h => h) fun _ _ _ _ _ _ hmove h => h.move hmove

/-! ## What makes a cluster idle -/

/-- Only an expiry makes a cluster idle, and that of the retry timer comes with a retry. -/
def Calming (trigger : Trigger) (events : List ClusterEvent) : Prop :=
  trigger = .idleExpired ∨ trigger = .retryExpired ∧ ∃ n, .reconnect n ∈ events

/-- A move by which a cluster becomes idle is one in which no tunnel is active. -/
theorem Move.calming {now : Instant} {trigger : Trigger} {c c' : Cluster}
    {added : List ClusterAction} (h : Move now trigger c added c')
    (hmem : .state .idle ∈ events added) : Calming trigger (events added) := by
  cases h with
  | calmed | dozed => exact Or.inl rfl
  | retried => exact Or.inr ⟨rfl, c.attempts + 1, by simp⟩
  | ended | surrendered => simp [events_farewell] at hmem
  | connected | woken | stirred | closed | failed | condemned | spared | filled | published
  | acknowledged => simp at hmem

/-- So is a sequence of moves by which it becomes idle. -/
theorem Moves.calming {trigger : Trigger} {begin_ now : Instant} {c c' : Cluster} {new : List Record}
    {added : List ClusterAction} (h : Moves trigger begin_ c new added now c')
    (hmem : .state .idle ∈ events added) : Calming trigger (events added) := by
  obtain ⟨_, _, _, _, hmove, hin, hsubset⟩ := h.move_of_mem hmem
  refine (hmove.calming hin).imp_right fun ⟨htrigger, n, hn⟩ => ?_
  exact ⟨htrigger, n, hsubset hn⟩

/-- The idle timer does not stir a cluster that is idle. -/
theorem turn_idleExpired_of_idle {c : Cluster} (hintact : c.isCrashed = false) (hidle : c.state = .idle)
    (hpending : c.fillPending = false) (hchanged : c.changed = false) (now : Instant) :
    c.turn now .idleExpired = { c with idleTimer := c.idleTimer.stop } := by
  have hreact : c.react now .idleExpired = { c with idleTimer := c.idleTimer.stop } :=
    idleExpired_of_not_active (by simp [hidle])
  rw [turn_eq_settle (by rw [hreact]; exact hintact), hreact, settle_of_not_pending (by exact hpending),
    publish_of_unchanged (by exact hchanged)]

/-- A turn makes a cluster idle when its idle timer expires while it is active, or when it tries the
relay again, for which the pool has to be empty. -/
theorem Reachable.calming_turn {config : Config} {now later : Instant} {c : Cluster}
    {trigger : Trigger} {added : List ClusterAction} (h : Reachable config now c)
    (hlive : c.state ≠ .destroyed) (htakes : c.Takes later trigger)
    (hout : (c.turn later trigger).outbox = c.outbox ++ added) (hmem : .state .idle ∈ events added) :
    (trigger = .idleExpired ∧ c.state = .active) ∨
      (trigger = .retryExpired ∧ c.pool = [] ∧ ∃ n, .reconnect n ∈ events added) := by
  -- a turn that only stops a timer emits nothing, so the cluster was not in the state for that
  have hquiet : (c.turn later trigger).outbox ≠ c.outbox := by
    intro hsame
    rw [List.self_eq_append_right.mp (hsame.symm.trans hout)] at hmem
    exact List.not_mem_nil hmem
  rcases (moves_of_outbox hlive htakes hout).calming hmem with rfl | ⟨rfl, hagain⟩
  · refine Or.inl ⟨rfl, (idle_or_active hlive).resolve_left fun hidle => hquiet ?_⟩
    rw [turn_idleExpired_of_idle h.intact hidle h.fillPending h.changed]
  · refine Or.inr ⟨rfl, by_contra fun hpool => hquiet ?_, hagain⟩
    rw [turn_retryExpired_of_pool h.intact hpool h.fillPending h.changed]

/-! ## Activity at the moment of the expiry -/

/-- The idle timer does not run out before the idle timeout has passed since a moment. -/
structure Rested (config : Config) (heard : Instant) (c : Cluster) : Prop where
  delay : c.idleTimer.delay = config.idleTimeout
  waiting : ∀ deadline, c.idleTimer.deadline = some deadline →
    (heard.after config.idleTimeout).notAfter deadline = true

namespace Rested

variable {config : Config} {heard : Instant} {c : Cluster}

/-- Until then it is not due. -/
theorem not_due (h : Rested config heard c) {moment : Instant}
    (hearly : (heard.after config.idleTimeout).notAfter moment = false) :
    c.idleTimer.isDue moment = false := by
  cases hdeadline : c.idleTimer.deadline with
  | none => rw [Timer.isDue, hdeadline]
  | some deadline =>
    have hlate := h.waiting deadline hdeadline
    rw [Timer.isDue, hdeadline]
    simp only [Instant.notAfter, decide_eq_true_eq, decide_eq_false_iff_not] at hearly hlate ⊢
    omega

/-- To arm the timer at a later moment does not make it run out earlier. -/
theorem restart (h : Rested config heard c) {now : Instant} (hlater : heard.notAfter now = true)
    {c' : Cluster} (htimer : c'.idleTimer = c.idleTimer.restart now) : Rested config heard c' := by
  refine ⟨htimer ▸ h.delay, fun deadline hdeadline => ?_⟩
  rw [htimer] at hdeadline
  rw [← Option.some.inj hdeadline, h.delay]
  exact Instant.after_notAfter hlater _

end Rested

/-- A move leaves the idle timer alone, stops it, or arms it with the full delay. -/
theorem Move.idleTimer {now : Instant} {trigger : Trigger} {c c' : Cluster}
    {added : List ClusterAction} (h : Move now trigger c added c') :
    c'.idleTimer = c.idleTimer ∨ c'.idleTimer = c.idleTimer.stop ∨
      c'.idleTimer = c.idleTimer.restart now := by
  cases h with
  | woken | stirred | retried => exact Or.inr (Or.inr rfl)
  | ended | surrendered | calmed | dozed => exact Or.inr (Or.inl rfl)
  | connected | closed | failed | condemned | spared | filled | published | acknowledged =>
    exact Or.inl rfl

/-- Whatever moves follow a moment, the idle timer is not armed for less than the delay from that moment
on. -/
theorem Moves.rested {config : Config} {trigger : Trigger} {heard begin_ now : Instant} {c c' : Cluster}
    {new : List Record} {added : List ClusterAction} (h : Moves trigger begin_ c new added now c')
    (hlater : heard.notAfter begin_ = true) (hc : Rested config heard c) :
    heard.notAfter now = true ∧ Rested config heard c' := by
  induction h with
  | none => exact ⟨hlater, hc⟩
  | wait _ hwait ih => exact ⟨Instant.notAfter_trans ih.1 hwait, ih.2⟩
  | next _ hmove ih =>
    refine ⟨ih.1, ?_⟩
    rcases hmove.idleTimer with htimer | htimer | htimer
    · exact ⟨htimer ▸ ih.2.delay, htimer ▸ ih.2.waiting⟩
    · exact ⟨htimer ▸ ih.2.delay, fun _ hdeadline => by rw [htimer] at hdeadline; cases hdeadline⟩
    · exact ih.2.restart ih.1 htimer

/-- Activity in the pool puts the expiry off. -/
theorem rested_of_activity {config : Config} {c : Cluster} {report : Report}
    (hdelayed : Delayed config c) (hactivity : report.notice = .activity) (hmem : report.id ∈ c.pool)
    (hdone : (c.heed report).isCrashed = false) : Rested config report.moment (c.heed report) := by
  have htimer : (c.heed report).idleTimer = c.idleTimer.restart report.moment := by
    refine notice_cases (P := fun c' => c'.idleTimer = c.idleTimer.restart report.moment)
      hdone ?_ ?_ ?_ ?_ ?_ ?_
    · exact fun hleft => absurd hmem hleft
    · exact fun _ hother => Notice.noConfusion (hactivity.symm.trans hother)
    · exact fun _ _ => Armed.idleTimer_enter_active _
    · exact fun _ hother => Notice.noConfusion (hactivity.symm.trans hother)
    · exact fun _ _ hother _ => Notice.noConfusion (hactivity.symm.trans hother)
    · exact fun _ _ hother _ => Notice.noConfusion (hactivity.symm.trans hother)
  refine ⟨htimer ▸ hdelayed.idle, fun deadline hdeadline => ?_⟩
  rw [htimer] at hdeadline
  rw [← Option.some.inj hdeadline, hdelayed.idle]
  exact Instant.notAfter_refl _

/-- What is heard behind a report is heard after it. -/
theorem InTurn.behind {begin_ : Instant} {front back : List Report} {report : Report}
    (h : InTurn begin_ (front ++ report :: back)) : InTurn report.moment back := by
  induction front generalizing begin_ with
  | nil => exact h.2
  | cons _ front ih => exact ih h.2

/-- No report is heard before the turn begins. -/
theorem InTurn.from_start {begin_ : Instant} {front back : List Report} {report : Report}
    (h : InTurn begin_ (front ++ report :: back)) : begin_.notAfter report.moment = true := by
  induction front generalizing begin_ with
  | nil => exact h.1
  | cons _ front ih => exact Instant.notAfter_trans h.1 (ih h.2)

/-- However many reports come in a batch, activity of a tunnel that is in the pool when it is heard
puts the expiry off. -/
theorem Reachable.rested_of_activity {config : Config} {now later : Instant} {c : Cluster}
    (hrun : Reachable config now c) {front back : List Report} {report : Report}
    (htakes : c.Takes later (.noticed (front ++ report :: back))) (hactivity : report.notice = .activity)
    (hmem : report.id ∈ (c.hear front).pool) :
    Rested config report.moment (c.turn later (.noticed (front ++ report :: back))) := by
  have hfront : (c.hear front).isCrashed = false := by
    rw [← Bool.not_eq_true]
    intro hcrashed
    have hall : (c.hear (front ++ report :: back)).isCrashed = false := htakes.react
    rw [hear_append_of_crashed hrun.intact hcrashed, hcrashed] at hall
    cases hall
  have hheard : c.react later (.noticed (front ++ report :: back)) =
      (c.hear front).hear (report :: back) := hear_append hfront _
  have hback := htakes.react
  rw [hheard] at hback
  have hreport := heed_of_hear hback
  rw [hear_cons hreport] at hback
  have hrested := Cluster.rested_of_activity (hrun.delayed.hear front) hactivity hmem hreport
  -- the reports behind the activity may arm the timer or stop it, and so may the end of the turn
  have hquiet := quiet_heed (quiet_hear hrun.orderly.quiet hfront) hreport
  obtain ⟨_, hmoves⟩ := moves_hear back hquiet htakes.admits.2.behind hback
  obtain ⟨_, hsettle⟩ := moves_settle (lastMoment report.moment back) (.noticed back)
    (((c.hear front).heed report).hear back)
  rw [htakes.turn_eq, hheard, hear_cons hreport]
  exact ((hmoves.trans hsettle).rested (Instant.notAfter_refl _) hrested).2

/-- What a cluster turns to while reports are waiting: an end that it is asked for, the end because
nobody holds on to it, or the reports. -/
inductive Prevails (p : Pending) : Trigger → Prop
  | requested {error : Option TunnelError} {requests : List (Option TunnelError)}
      (hrequests : p.requests = error :: requests) : Prevails p (.endRequested error)
  | abandoned (hrequests : p.requests = []) (habandoned : p.isAbandoned = true) :
      Prevails p .abandoned
  | noticed (hrequests : p.requests = []) (habandoned : p.isAbandoned = false) :
      Prevails p (.noticed p.reports)

/-- As long as reports are waiting, no timer is asked. -/
theorem next?_of_reports {c : Cluster} (hgoes : c.isGone = false) (now : Instant) {p : Pending}
    (hreports : p.reports ≠ []) :
    ∃ trigger p', c.next? now p = some (trigger, p') ∧ Prevails p trigger := by
  cases hrequests : p.requests with
  | cons error requests =>
    exact ⟨_, { p with requests := requests }, by simp [next?, hgoes, hrequests], .requested hrequests⟩
  | nil =>
    cases habandoned : p.isAbandoned with
    | true =>
      exact ⟨_, p, by simp [next?, hgoes, hrequests, habandoned], .abandoned hrequests habandoned⟩
    | false =>
      exact ⟨_, { p with reports := [] }, by simp [next?, hgoes, hrequests, habandoned, hreports],
        .noticed hrequests habandoned⟩

/-- Nothing that prevails over a timer makes a cluster idle. -/
theorem Prevails.not_calming {p : Pending} {trigger : Trigger} {events : List ClusterEvent}
    (h : Prevails p trigger) : ¬ Calming trigger events := by
  rintro (rfl | ⟨rfl, _⟩) <;> cases h

/-- A turn that ends a cluster leaves no timer due. -/
theorem Reachable.not_due_of_end {config : Config} {now later : Instant} {c : Cluster}
    {trigger : Trigger} {error : Option TunnelError} (h : Reachable config now c)
    (hlive : c.state ≠ .destroyed) (htakes : c.Takes later trigger)
    (hreason : ReasonToEnd config c trigger error) (moment : Instant) :
    (c.turn later trigger).idleTimer.isDue moment = false := by
  obtain ⟨_, hmoves⟩ := moves_turn hlive htakes
  obtain ⟨_, hend, _⟩ := turn_of_reason hreason h.orderly h.intact h.rules hlive later
  obtain ⟨_, hstopped, _⟩ := (h.orderly.moves hmoves).gone hend
  exact Timer.isDue_of_not_running hstopped

/-- When a cluster becomes idle, in every run of a usable configuration. After every turn that leaves
it active, the idle timer runs out the idle timeout after the last activity in the pool. So it becomes
idle by an expiry of that timer, no earlier than that and while it is active, or else by a retry, which
finds the pool empty. An expiry in an idle cluster only stops the timer. As long as reports are waiting,
a cluster turns to no timer, and what it turns to does not make it idle. Once it has heard of activity
in the pool, the timer is not due until the idle timeout has passed since then, and so not at the moment
at which the cluster turned to the reports. -/
theorem chronicle_calms {config : Config} {relay : Endpoint} (hvalid : config.validate = .ok relay)
    {log : List Record} {now : Instant} {c : Cluster} (hrun : Chronicle config log now c) :
    (c.state = .active → ∃ last, lastActivity? log = some last ∧
      c.idleTimer.deadline = some (last.after config.idleTimeout)) ∧
    (∀ before r after, log = before ++ r :: after → r.event = .state .idle →
      (r.trigger = .idleExpired ∧ ∃ last, lastActivity? before = some last ∧
        (last.after config.idleTimeout).notAfter r.moment = true) ∨
      r.trigger = .retryExpired) ∧
    (c.state ≠ .destroyed → ∀ later trigger added, c.Takes later trigger →
      (c.turn later trigger).outbox = c.outbox ++ added → .state .idle ∈ events added →
      (trigger = .idleExpired ∧ c.state = .active) ∨
      (trigger = .retryExpired ∧ c.pool = [] ∧ ∃ n, .reconnect n ∈ events added)) ∧
    (c.state = .idle → ∀ later,
      c.turn later .idleExpired = { c with idleTimer := c.idleTimer.stop }) ∧
    (c.state ≠ .destroyed → ∀ later p, p.reports ≠ [] → InTurn later p.reports →
      ∃ trigger p', c.next? later p = some (trigger, p') ∧
        (p.requests = [] → p.isAbandoned = false → trigger = .noticed p.reports) ∧
        ((c.turn later trigger).isCrashed = false →
          (∀ added, (c.turn later trigger).outbox = c.outbox ++ added → .state .idle ∉ events added) ∧
          ∀ front report back, p.reports = front ++ report :: back → report.notice = .activity →
            report.id ∈ (c.hear front).pool →
            (report.moment.after config.idleTimeout).notAfter later = false ∧
            ∀ moment, (report.moment.after config.idleTimeout).notAfter moment = false →
              (c.turn later trigger).idleTimer.isDue moment = false)) := by
  have hwatched := hrun.watched
  have hreach := hrun.reachable
  refine ⟨hwatched.armed, hwatched.calm, ?_, ?_, ?_⟩
  · intro hlive later trigger added htakes hout hmem
    exact hreach.calming_turn hlive htakes hout hmem
  · intro hidle later
    exact turn_idleExpired_of_idle hreach.intact hidle hreach.fillPending hreach.changed later
  · intro hlive later p hreports hturn
    have hgoes := isGone_eq_false_iff.mpr ⟨hreach.intact, hlive⟩
    obtain ⟨trigger, p', hnext, hprevails⟩ := next?_of_reports hgoes later hreports
    refine ⟨trigger, p', hnext, ?_, fun hdone => ?_⟩
    · intro hrequests habandoned
      cases hprevails with
      | requested hsome => simp [hrequests] at hsome
      | abandoned _ hyes => simp [habandoned] at hyes
      | noticed => rfl
    have htakes : c.Takes later trigger := ⟨(admits_of_next? hturn hnext).2, hdone⟩
    refine ⟨fun added hout hmem => ?_, fun front report back hsplit hactivity hmem => ⟨?_, ?_⟩⟩
    · exact hprevails.not_calming ((moves_of_outbox hlive htakes hout).calming hmem)
    · have hpos : 0 < config.idleTimeout.nanos :=
        Config.positiveDurations_pos hvalid ("idleTimeout", config.idleTimeout)
          (by simp [Config.positiveDurations])
      have hheard : later.nanos ≤ report.moment.nanos := of_decide_eq_true (hsplit ▸ hturn).from_start
      have hlate : later.nanos < report.moment.nanos + config.idleTimeout.nanos := by omega
      exact decide_eq_false (Nat.not_le.mpr hlate)
    · intro moment hearly
      cases hprevails with
      | requested => exact hreach.not_due_of_end hlive htakes (.requested _) moment
      | abandoned => exact hreach.not_due_of_end hlive htakes .abandoned moment
      | noticed =>
        rw [hsplit] at htakes ⊢
        exact (hreach.rested_of_activity htakes hactivity hmem).not_due hearly

/-- A cluster whose first tunnel has been active. -/
def wokenCluster : Cluster :=
  ((ofConfig loopbackConfig).start ⟨1⟩).turn ⟨2⟩ (.noticed [⟨⟨2⟩, 1, .activity⟩])

/-- That cluster can be reached. -/
theorem reachable_wokenCluster : Reachable loopbackConfig ⟨2⟩ wokenCluster :=
  reachable_loopback.turn ⟨2⟩ (.noticed [⟨⟨2⟩, 1, .activity⟩])
    (by decide +kernel) (by decide) ⟨⟨List.cons_ne_nil _ _, by decide, trivial⟩, by decide +kernel⟩

/-- Activity that is reported when the idle timer of an active cluster is due puts the expiry off, for the
idle timeout after the moment at which it is heard. -/
theorem expiry_put_off :
    Reachable loopbackConfig ⟨2⟩ wokenCluster ∧ wokenCluster.state = .active ∧
      wokenCluster.idleTimer.isDue ⟨5000000002⟩ = true ∧
      wokenCluster.next? ⟨5000000002⟩
          ⟨[], false, [⟨⟨5000000002⟩, 9, .connected⟩, ⟨⟨5000000003⟩, 1, .activity⟩]⟩ =
        some (.noticed [⟨⟨5000000002⟩, 9, .connected⟩, ⟨⟨5000000003⟩, 1, .activity⟩], ⟨[], false, []⟩) ∧
      (wokenCluster.turn ⟨5000000002⟩ (.noticed [⟨⟨5000000002⟩, 9, .connected⟩,
        ⟨⟨5000000003⟩, 1, .activity⟩])).idleTimer.isDue ⟨10000000002⟩ = false ∧
      ∃ log last, Chronicle loopbackConfig log ⟨2⟩ wokenCluster ∧ lastActivity? log = some last ∧
        last.after loopbackConfig.idleTimeout = ⟨5000000002⟩ := by
  have hrun := reachable_wokenCluster
  have hactive : wokenCluster.state = .active := by decide +kernel
  have hlive : wokenCluster.state ≠ .destroyed := by decide +kernel
  have hgoes : wokenCluster.isGone = false := by decide +kernel
  have hdeadline : wokenCluster.idleTimer.deadline = some ⟨5000000002⟩ := by decide +kernel
  have hpooled : 1 ∈ (wokenCluster.hear [⟨⟨5000000002⟩, 9, .connected⟩]).pool := by decide +kernel
  have hnext : wokenCluster.next? ⟨5000000002⟩
        ⟨[], false, [⟨⟨5000000002⟩, 9, .connected⟩, ⟨⟨5000000003⟩, 1, .activity⟩]⟩ =
      some (.noticed [⟨⟨5000000002⟩, 9, .connected⟩, ⟨⟨5000000003⟩, 1, .activity⟩], ⟨[], false, []⟩) := by
    simp [next?, hgoes]
  obtain ⟨log, hlog⟩ := hrun.chronicle
  obtain ⟨harmed, _, _, _, hwaiting⟩ := chronicle_calms validate_loopbackConfig hlog
  obtain ⟨last, hlast, hlasting⟩ := harmed hactive
  obtain ⟨trigger, p', hnext', _, hlater⟩ := hwaiting hlive ⟨5000000002⟩
    ⟨[], false, [⟨⟨5000000002⟩, 9, .connected⟩, ⟨⟨5000000003⟩, 1, .activity⟩]⟩ (List.cons_ne_nil _ _)
    ⟨by decide, by decide, trivial⟩
  obtain ⟨rfl, rfl⟩ := Prod.mk.inj (Option.some.inj (hnext.symm.trans hnext'))
  obtain ⟨_, hstirred⟩ := hlater (by decide +kernel)
  obtain ⟨_, hoff⟩ := hstirred [⟨⟨5000000002⟩, 9, .connected⟩] ⟨⟨5000000003⟩, 1, .activity⟩ [] rfl rfl
    hpooled
  exact ⟨hrun, hactive, by decide +kernel, hnext, hoff ⟨10000000002⟩ (by decide), log, last,
    hlog, hlast, Option.some.inj (hlasting.symm.trans hdeadline)⟩

end Cluster

end RelayTunnel
