import RelayTunnel.Proofs.Cluster.Crashes
import RelayTunnel.Station

/-!
# Clusters whose wishes are carried out

A station empties the outbox of its cluster after each turn, while the outbox of a `Reachable` cluster
is never emptied. The two agree because a cluster only ever adds to its outbox: what has been taken
out of it changes nothing that the cluster does. So the cluster of a station is at any time a reachable
one, or one that has crashed, less what the station has carried out before.
-/

set_option autoImplicit false

namespace RelayTunnel

namespace Cluster

/-! ## The outbox is only added to -/

/-- The cluster with all that was taken out of its outbox back in front. -/
def restoring (sent : List ClusterAction) (c : Cluster) : Cluster :=
  { c with outbox := sent ++ c.outbox }

section Restoring

variable (sent : List ClusterAction) (c : Cluster)

/-- An action is added behind what has been taken out. -/
theorem act_restoring (action : ClusterAction) :
    (c.restoring sent).act action = (c.act action).restoring sent := by
  simp only [act, restoring, List.append_assoc]

/-- So is what comes of letting go of tunnels. -/
theorem shrink_restoring (keep : Nat) :
    (c.restoring sent).shrink keep = (c.shrink keep).restoring sent := by
  simp only [shrink_eq, restoring, List.append_assoc]

/-- What is published does not depend on what has been taken out. -/
theorem publish_restoring : (c.restoring sent).publish = c.publish.restoring sent := by
  simp only [publish_eq, restoring]

/-- Nor does filling. -/
theorem fill_restoring : (c.restoring sent).fill = c.fill.restoring sent := by
  by_cases hstate : c.state = .destroyed
  · rw [fill_of_destroyed hstate, fill_of_destroyed (by exact hstate)]
  · rw [fill_of_live hstate, fill_of_live (by exact hstate)]
    simp only [restoring, desired, List.append_assoc]

/-- Nor does the end. -/
theorem destroy_restoring (error : Option TunnelError) :
    (c.restoring sent).destroy error = (c.destroy error).restoring sent := by
  by_cases hstate : c.state = .destroyed
  · rw [destroy_of_destroyed hstate, destroy_of_destroyed (by exact hstate)]
  · rw [destroy_of_live hstate, destroy_of_live (by exact hstate)]
    simp only [restoring, List.append_assoc]
    rfl

/-- Nor does a change of the state. -/
theorem enter_restoring (state : ClusterState) :
    (c.restoring sent).enter state = (c.enter state).restoring sent := by
  by_cases hstay : c.state = .destroyed ∨ c.state = state
  · rw [enter, if_pos (by exact hstay), enter, if_pos hstay]
  · rw [enter, if_neg (by exact hstay), enter, if_neg hstay]
    split
    · rw [shrink_restoring, emit, emit, ← act_restoring]
      rfl
    · rw [emit, emit, ← act_restoring]
      rfl

/-- Nor does arming the idle timer, if what follows does not. -/
theorem rearmIdle_restoring (goOn : Cluster → Cluster)
    (hgoOn : ∀ c : Cluster, goOn (c.restoring sent) = (goOn c).restoring sent) (now : Instant) :
    (c.restoring sent).rearmIdle now goOn = (c.rearmIdle now goOn).restoring sent := by
  have htimer : (c.restoring sent).idleTimer.restart? now = c.idleTimer.restart? now := rfl
  rw [rearmIdle, rearmIdle, htimer]
  cases c.idleTimer.restart? now with
  | some timer => exact hgoOn { c with idleTimer := timer }
  | none => rfl

/-- Nor does arming the retry timer. -/
theorem rearmRetry_restoring (goOn : Cluster → Cluster)
    (hgoOn : ∀ c : Cluster, goOn (c.restoring sent) = (goOn c).restoring sent) (now : Instant) :
    (c.restoring sent).rearmRetry now goOn = (c.rearmRetry now goOn).restoring sent := by
  have htimer : (c.restoring sent).retryTimer.restart? now = c.retryTimer.restart? now := rfl
  rw [rearmRetry, rearmRetry, htimer]
  cases c.retryTimer.restart? now with
  | some timer => exact hgoOn { c with retryTimer := timer }
  | none => rfl

/-- Nor does the failure of a tunnel. -/
theorem tunnelFailed_restoring (error : TunnelError) (wasOpened : Bool) (now : Instant) :
    (c.restoring sent).tunnelFailed error wasOpened now =
      (c.tunnelFailed error wasOpened now).restoring sent := by
  by_cases hfatal : (c.log error).isFatal error = true
  · rw [tunnelFailed, if_pos (by exact hfatal), tunnelFailed, if_pos hfatal]
    exact destroy_restoring sent { c.log error with retryTimer := c.retryTimer.stop } (some error)
  · rw [tunnelFailed, if_neg (by exact hfatal), tunnelFailed, if_neg hfatal]
    refine rearmRetry_restoring sent (c.log error) _ (fun c => ?_) now
    split <;> rfl

/-- Nor does the loss of a tunnel. -/
theorem withoutTunnel_restoring (id : TunnelId) (error : Option TunnelError) :
    (c.restoring sent).withoutTunnel id error = (c.withoutTunnel id error).restoring sent := by
  simp only [withoutTunnel, restoring, List.append_assoc]

/-- Nor does a report. -/
theorem notice_restoring (now : Instant) (id : TunnelId) (n : Notice) :
    (c.restoring sent).notice now id n = (c.notice now id n).restoring sent := by
  by_cases hmem : id ∈ c.pool
  · have hmem' : id ∈ (c.restoring sent).pool := hmem
    cases n with
    | connected =>
      rw [notice_connected now hmem, notice_connected now hmem']
      simp only [restoring, List.append_assoc]
      rfl
    | activity =>
      rw [notice, if_neg (not_not_intro hmem'), notice, if_neg (not_not_intro hmem), emit, act_restoring]
      refine rearmIdle_restoring sent (c.emit (.activity id)) _ (fun c => ?_) now
      rw [enter_restoring]
      rfl
    | destroyed error =>
      cases error with
      | none =>
        rw [notice_ended now hmem, notice_ended now hmem', withoutTunnel_restoring]
        rfl
      | some error =>
        rw [notice_failed now error hmem, notice_failed now error hmem', withoutTunnel_restoring]
        exact tunnelFailed_restoring sent _ error _ now
  · rw [notice_of_not_mem now n hmem, notice_of_not_mem now n (by exact hmem)]

/-- Nor do all reports of a batch. -/
theorem hear_restoring (reports : List Report) :
    (c.restoring sent).hear reports = (c.hear reports).restoring sent := by
  induction reports generalizing c with
  | nil => rfl
  | cons report reports ih =>
    have hheed : (c.restoring sent).heed report = (c.heed report).restoring sent :=
      notice_restoring sent c report.moment report.id report.notice
    cases hdone : (c.heed report).isCrashed with
    | true => rw [hear_cons_of_crashed hdone, hear_cons_of_crashed (by rw [hheed]; exact hdone), hheed]
    | false => rw [hear_cons hdone, hear_cons (by rw [hheed]; exact hdone), hheed, ih]

/-- Nor does the expiry of the idle timer. -/
theorem idleExpired_restoring :
    (c.restoring sent).idleExpired = c.idleExpired.restoring sent := by
  by_cases hstate : c.state = .active
  · rw [idleExpired_of_active hstate, idleExpired_of_active (by exact hstate), enter_restoring]
  · rw [idleExpired_of_not_active hstate, idleExpired_of_not_active (by exact hstate)]

/-- Nor does a retry. -/
theorem retryExpired_restoring (now : Instant) :
    (c.restoring sent).retryExpired now = (c.retryExpired now).restoring sent := by
  by_cases hstay : !c.pool.isEmpty ∨ c.state = .destroyed
  · rw [retryExpired, if_pos (by exact hstay), retryExpired, if_pos hstay]
  · rw [retryExpired, if_neg (by exact hstay), retryExpired, if_neg hstay]
    by_cases hleft : c.attempts < c.rules.retryCount
    · rw [if_pos (by exact hleft), if_pos hleft]
      have henter := enter_restoring sent { c with attempts := c.attempts + 1, changed := true } .idle
      refine (congrArg (fun c : Cluster => c.rearmIdle now _) henter).trans ?_
      refine rearmIdle_restoring sent _ _ (fun c => ?_) now
      have hemit : (c.restoring sent).emit (.reconnect c.attempts) =
          (c.emit (.reconnect c.attempts)).restoring sent := act_restoring sent c _
      refine (congrArg (fun c : Cluster => { c with fillPending := true }.rearmRetry now fun c => c)
        hemit).trans ?_
      exact rearmRetry_restoring sent { c.emit (.reconnect c.attempts) with fillPending := true }
        (fun c => c) (fun _ => rfl) now
    · rw [if_neg (by exact hleft), if_neg hleft]
      exact destroy_restoring sent (c.log (.serverUnreachable c.attempts))
        (some (.serverUnreachable c.attempts))

/-- Nor does the end of a turn. -/
theorem settle_restoring : (c.restoring sent).settle = c.settle.restoring sent := by
  cases hpending : c.fillPending with
  | true =>
    rw [settle_of_pending hpending, settle_of_pending (by exact hpending), ← publish_restoring,
      ← fill_restoring]
    rfl
  | false =>
    rw [settle_of_not_pending hpending, settle_of_not_pending (by exact hpending), publish_restoring]

/-- A turn does not depend on what has been taken out of the outbox. -/
theorem turn_restoring (now : Instant) (trigger : Trigger) :
    (c.restoring sent).turn now trigger = (c.turn now trigger).restoring sent := by
  have hreact : (c.restoring sent).react now trigger = (c.react now trigger).restoring sent := by
    cases trigger with
    | endRequested error =>
      rw [react, react, destroy_restoring, publish_restoring, act_restoring]
    | abandoned => exact destroy_restoring sent c none
    | noticed reports => exact hear_restoring sent c reports
    | idleExpired => exact idleExpired_restoring sent { c with idleTimer := c.idleTimer.stop }
    | retryExpired => exact retryExpired_restoring sent { c with retryTimer := c.retryTimer.stop } now
  cases hdone : (c.react now trigger).isCrashed with
  | true => rw [turn_of_crashed hdone, turn_of_crashed (by rw [hreact]; exact hdone), hreact]
  | false =>
    rw [turn_eq_settle hdone, turn_eq_settle (by rw [hreact]; exact hdone), hreact, settle_restoring]

end Restoring

/-! ## What a cluster turns to -/

/-- What a cluster turns to is something that it can react to, and it is not gone. -/
theorem admits_of_next? {c : Cluster} {now : Instant} {p p' : Pending} {trigger : Trigger}
    (hturn : InTurn now p.reports) (h : c.next? now p = some (trigger, p')) :
    c.isGone = false ∧ c.Admits now trigger := by
  rw [next?] at h
  split at h
  · cases h
  · next hgoes =>
    refine ⟨Bool.eq_false_iff.mpr hgoes, ?_⟩
    split at h
    · cases h
      trivial
    · split at h
      · cases h
        trivial
      · split at h
        · next hreports =>
          cases h
          exact ⟨by simpa using hreports, hturn⟩
        · split at h
          · next hdue =>
            cases h
            exact hdue
          · split at h
            · next hdue =>
              cases h
              exact hdue
            · cases h

end Cluster

namespace Station

/-! ## Stations -/

/-- The cluster of the station has not begun to work, or it is one that can be reached by `now`, or one that
has crashed, less what the station has carried out. -/
def Follows (config : Config) (now : Instant) (s : Station) : Prop :=
  if s.isStarted then
    ∃ sent, (∃ before, Cluster.Reachable config before (s.cluster.restoring sent) ∧
        before.notAfter now = true) ∨
      (Cluster.Found config (s.cluster.restoring sent) ∧ s.cluster.isCrashed = true)
  else s.cluster = .ofConfig config

/-- A station follows its cluster before it has begun to work. -/
theorem ofConfig_follows (config : Config) (relay : Endpoint) (now : Instant) :
    (ofConfig config relay).Follows config now := rfl

/-- To do what the cluster wants changes neither the cluster nor whether it has begun. -/
theorem carryOut_keeps (crew : Crew Tunnel) (s : Station) (actions : List ClusterAction) :
    (carryOut crew s actions).1.cluster = s.cluster ∧
      (carryOut crew s actions).1.isStarted = s.isStarted := by
  induction actions generalizing crew s with
  | nil => exact ⟨rfl, rfl⟩
  | cons action actions ih =>
    cases action <;> exact ih _ _

/-- What a station carries out joins what has been taken out of the outbox before. -/
theorem flush_follows {config : Config} {now : Instant} {s : Station} (crew : Crew Tunnel)
    (hstarted : s.isStarted = true) (h : s.Follows config now) :
    (s.flush crew).1.isStarted = true ∧ (s.flush crew).1.Follows config now := by
  obtain ⟨hcluster, hkept⟩ :=
    carryOut_keeps crew { s with cluster := { s.cluster with outbox := [] } } s.cluster.outbox
  have hstill : (s.flush crew).1.isStarted = true := hkept.trans hstarted
  refine ⟨hstill, ?_⟩
  rw [Follows, if_pos hstarted] at h
  obtain ⟨sent, hrun⟩ := h
  rw [Follows, if_pos hstill, flush, hcluster]
  refine ⟨sent ++ s.cluster.outbox, ?_⟩
  simpa only [Cluster.restoring, List.append_nil] using hrun

/-- A cluster gets to all reports at the moment at which it works. -/
theorem inTurn_pending (now : Instant) (s : Station) (crew : Crew Tunnel) :
    Cluster.InTurn now (s.pending now crew).reports ∧
      Cluster.lastMoment now (s.pending now crew).reports = now := by
  show Cluster.InTurn now (crew.notices.map _) ∧ Cluster.lastMoment now (crew.notices.map _) = now
  induction crew.notices with
  | nil => exact ⟨trivial, rfl⟩
  | cons notice notices ih => exact ⟨⟨Instant.notAfter_refl _, ih.1⟩, ih.2⟩

/-- So a turn comes to its end at the moment at which it begins. -/
theorem ends_of_next? {now : Instant} {s : Station} {crew : Crew Tunnel} {trigger : Trigger}
    {left : Cluster.Pending} (h : s.cluster.next? now (s.pending now crew) = some (trigger, left)) :
    trigger.ends now = now := by
  rw [Cluster.next?] at h
  split at h
  · cases h
  · split at h
    · cases h
      rfl
    · split at h
      · cases h
        rfl
      · split at h
        · cases h
          exact (inTurn_pending now s crew).2
        · split at h
          · cases h
            rfl
          · split at h
            · cases h
              rfl
            · cases h

/-- A turn that a station lets its cluster take is one of its run, or the cluster crashes in it. -/
theorem turn_follows {config : Config} {now : Instant} {s : Station} {crew : Crew Tunnel}
    {trigger : Trigger} {left : Cluster.Pending} (hstarted : s.isStarted = true)
    (h : s.Follows config now)
    (hnext : s.cluster.next? now (s.pending now crew) = some (trigger, left)) :
    Follows config now
      { s with cluster := s.cluster.turn now trigger, requests := left.requests } := by
  obtain ⟨hgoes, hadmits⟩ := Cluster.admits_of_next? (inTurn_pending now s crew).1 hnext
  obtain ⟨hintact, hlive⟩ := Cluster.isGone_eq_false_iff.mp hgoes
  rw [Follows, if_pos hstarted] at h ⊢
  obtain ⟨sent, ⟨before, hrun, hbefore⟩ | ⟨_, hcrashed⟩⟩ := h
  · have hadmits' : (s.cluster.restoring sent).Admits now trigger := by
      cases trigger <;> exact hadmits
    refine ⟨sent, ?_⟩
    rw [← Cluster.turn_restoring]
    cases hdone : (s.cluster.turn now trigger).isCrashed with
    | true =>
      have hcrashed : ((s.cluster.restoring sent).turn now trigger).isCrashed = true := by
        rw [Cluster.turn_restoring]
        exact hdone
      exact Or.inr ⟨.crashed now trigger hrun hlive hbefore hadmits' hcrashed, rfl⟩
    | false =>
      have htakes : (s.cluster.restoring sent).Takes now trigger :=
        ⟨hadmits', by rw [Cluster.turn_restoring]; exact hdone⟩
      have hturn := hrun.turn now trigger hlive hbefore htakes
      rw [ends_of_next? hnext] at hturn
      exact Or.inl ⟨now, hturn, Instant.notAfter_refl _⟩
  · exact absurd (hintact.symm.trans hcrashed) Bool.false_ne_true

/-- All turns that a station lets its cluster take are turns of one run. -/
theorem react_follows {config : Config} {now : Instant} (limit : Nat) {s : Station}
    (crew : Crew Tunnel) (hstarted : s.isStarted = true) (h : s.Follows config now) :
    (react now limit s crew).1.isStarted = true ∧ (react now limit s crew).1.Follows config now := by
  induction limit generalizing s crew with
  | zero => exact ⟨hstarted, h⟩
  | succ limit ih =>
    rw [react]
    split
    · exact ⟨hstarted, h⟩
    · next trigger left hnext =>
      obtain ⟨hstill, hfollows⟩ := flush_follows
        (s := { s with cluster := s.cluster.turn now trigger, requests := left.requests })
        { crew with notices := left.reports.map fun report => (report.id, report.notice) } hstarted
        (turn_follows hstarted h hnext)
      exact ih _ hstill hfollows

/-- A station that follows a cluster up to a moment does so later. -/
theorem follows_later {config : Config} {before now : Instant} {s : Station}
    (h : s.Follows config before) (hlater : before.notAfter now = true) : s.Follows config now := by
  rw [Follows] at h ⊢
  split
  · next hstarted =>
    rw [if_pos hstarted] at h
    obtain ⟨sent, ⟨first, hrun, hfirst⟩ | hcrashed⟩ := h
    · refine ⟨sent, Or.inl ⟨first, hrun, ?_⟩⟩
      simp only [Instant.notAfter, decide_eq_true_eq] at hfirst hlater ⊢
      exact Nat.le_trans hfirst hlater
    · exact ⟨sent, Or.inr hcrashed⟩
  · next hidle =>
    rwa [if_neg hidle] at h

/-- A cluster that begins to work begins its run, or crashes at once. -/
theorem start_follows {config : Config} {now : Instant} {s : Station} (hidle : s.isStarted = false)
    (h : s.Follows config now) :
    Follows config now { s with cluster := s.cluster.start now, isStarted := true } := by
  rw [Follows, if_neg (by simp [hidle])] at h
  rw [Follows, if_pos rfl, h]
  refine ⟨[], ?_⟩
  cases hdone : ((Cluster.ofConfig config).start now).isCrashed with
  | true => exact Or.inr ⟨.stillborn now hdone, rfl⟩
  | false => exact Or.inl ⟨now, .start now hdone, Instant.notAfter_refl _⟩

/-- Whenever a station works, it takes up the run of its cluster where it left it. -/
theorem act_follows {config : Config} {before now : Instant} {s : Station} (crew : Crew Tunnel)
    (h : s.Follows config before) (hlater : before.notAfter now = true) :
    (s.act crew now).1.Follows config now := by
  have hnow := follows_later h hlater
  rw [act]
  cases hstarted : s.isStarted with
  | false =>
    obtain ⟨hstill, hfollows⟩ := flush_follows
      (s := { s with cluster := s.cluster.start now, isStarted := true }) crew rfl
      (start_follows hstarted hnow)
    exact (react_follows turnLimit _ hstill hfollows).2
  | true =>
    split
    · next hidle => cases hidle
    · split
      · exact (react_follows turnLimit crew hstarted hnow).2
      · exact hnow

end Station

namespace Company

/-- Whoever of the company is next, the station still follows. -/
theorem runNext?_follows {config : Config} {now : Instant} {c c' : Company Station Tunnel}
    (h : c.owner.Follows config now) (hnext : c.runNext? now = some c') :
    c'.owner.Follows config now := by
  rw [runNext?] at hnext
  split at hnext
  · cases hnext
  · next task ready _ =>
    cases task with
    | owner =>
      cases hnext
      exact Station.act_follows { c.crew with ready := ready } h (Instant.notAfter_refl _)
    | member id =>
      cases hnext
      exact h

/-- However long the company goes on, the station still follows. -/
theorem runWithin_follows {config : Config} {now : Instant} (limit : Nat)
    {c : Company Station Tunnel} (h : c.owner.Follows config now) :
    (runWithin now limit c).owner.Follows config now := by
  induction limit generalizing c with
  | zero => exact h
  | succ limit ih =>
    rw [runWithin]
    split
    · next c' hnext => exact ih (runNext?_follows h hnext)
    · exact h

/-- However often a station and its tunnels work, the cluster of the station goes on with its run. -/
theorem runAll_follows {config : Config} {before now : Instant} {c : Company Station Tunnel}
    (h : c.owner.Follows config before) (hlater : before.notAfter now = true) :
    (c.runAll now).owner.Follows config now :=
  runWithin_follows runLimit (Station.follows_later h hlater)

end Company

end RelayTunnel
