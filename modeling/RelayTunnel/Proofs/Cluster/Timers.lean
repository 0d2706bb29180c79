import RelayTunnel.Proofs.Cluster.History
import RelayTunnel.Proofs.Config.Validation

/-!
# What keeps a cluster going

`Fits` bounds the pool by what the state asks for, and `Armed` says which timers run. A turn is not
armed at every point: a report may leave the pool empty and the retry timer stopped, but then a fill
is pending, and a fill leaves no live cluster with an empty pool. So a cluster never waits with
nothing that would wake it (`reachable_wakes`).
-/

set_option autoImplicit false

namespace RelayTunnel.Cluster

/-! ## The size of the pool -/

/-- The pool has at most as many tunnels as its state asks for. -/
def Fits (c : Cluster) : Prop := c.pool.length ≤ c.desired

namespace Fits

variable {c : Cluster}

/-- An empty pool has room in every state. -/
theorem of_destroyed {c' : Cluster} (hpool : c'.pool = []) : Fits c' := by
  simp [Fits, hpool]

/-- The active state leaves room for all tunnels of the pool. -/
theorem enter_active (h : Fits c) (hmax : 0 < c.rules.maxConnections) : Fits (c.enter .active) := by
  cases hstate : c.state with
  | active => rwa [enter_of_same hstate]
  | destroyed => rwa [Cluster.enter, if_pos (Or.inl hstate)]
  | idle =>
    rw [enter_active_of_idle hstate]
    have hone : c.pool.length ≤ 1 := desired_of_idle hstate ▸ h
    show c.pool.length ≤ c.rules.maxConnections
    omega

/-- A cluster that becomes idle has let go of what the idle state has no room for. -/
theorem enter_idle (h : Fits c) : Fits (c.enter .idle) := by
  cases hstate : c.state with
  | idle => rwa [enter_of_same hstate]
  | destroyed => rwa [Cluster.enter, if_pos (Or.inl hstate)]
  | active =>
    rw [enter_idle_of_active hstate, shrink_eq]
    show (c.pool.take 1).length ≤ 1
    rw [List.length_take]
    omega

/-- A cluster that ends has let go of everything. -/
theorem destroy (h : Fits c) (error : Option TunnelError) : Fits (c.destroy error) := by
  by_cases hstate : c.state = .destroyed
  · rwa [destroy_of_destroyed hstate]
  · rw [destroy_of_live hstate]
    exact of_destroyed rfl

/-- A pool stays within its room when it loses a tunnel. -/
theorem withoutTunnel (h : Fits c) (id : TunnelId) (error : Option TunnelError) :
    Fits (c.withoutTunnel id error) :=
  Nat.le_trans List.erase_sublist.length_le h

/-- Reports leave the pool within its room. -/
theorem notice {now : Instant} {id : TunnelId} {n : Notice} (h : Fits c)
    (hmax : 0 < c.rules.maxConnections) (hdone : (c.notice now id n).isCrashed = false) :
    Fits (c.notice now id n) := by
  refine notice_cases (P := Fits) hdone ?_ ?_ ?_ ?_ ?_ ?_
  · intro _
    exact h
  · intro _ _
    exact h
  · intro _ _
    have hreport : Fits { c.emit (.activity id) with idleTimer := c.idleTimer.restart now } := h
    exact hreport.enter_active hmax
  · intro _ _
    exact h.withoutTunnel id none
  · intro error _ _ _
    refine Fits.destroy ?_ _
    exact h.withoutTunnel id (some error)
  · intro error _ _ _
    exact h.withoutTunnel id (some error)

/-- So do all reports of a batch. -/
theorem hear {reports : List Report} (h : Fits c) (hmax : 0 < c.rules.maxConnections)
    (hdone : (c.hear reports).isCrashed = false) : Fits (c.hear reports) := by
  -- the rules are part of the invariant, since a report keeps them
  refine (hear_induction (P := fun c' => Fits c' ∧ c'.rules = c.rules) ?_ hdone ⟨h, rfl⟩).1
  rintro c' report ⟨hfits, hrules⟩ hdone
  exact ⟨hfits.notice (hrules ▸ hmax) hdone, (handled_notice hdone).rules.trans hrules⟩

/-- So does a retry. -/
theorem retryExpired {now : Instant} (h : Fits c) (hdone : (c.retryExpired now).isCrashed = false) :
    Fits (c.retryExpired now) := by
  by_cases hstate : c.state = .destroyed
  · rwa [Cluster.retryExpired, if_pos (Or.inr hstate)]
  · refine retryExpired_cases (P := Fits) hdone hstate ?_ ?_ ?_
    · intro _
      exact h
    · intro hpool _
      exact of_destroyed hpool
    · intro _ _
      exact Fits.destroy (by exact h) _

/-- So does the reaction of a turn. -/
theorem react {now : Instant} {trigger : Trigger} (h : Fits c) (hmax : 0 < c.rules.maxConnections)
    (hdone : (c.react now trigger).isCrashed = false) : Fits (c.react now trigger) := by
  cases trigger with
  | endRequested error =>
    show Fits ((c.destroy error).publish.act .acknowledge)
    rw [publish_eq]
    exact h.destroy error
  | abandoned => exact h.destroy none
  | noticed reports => exact h.hear hmax hdone
  | idleExpired =>
    show Fits (idleExpired _)
    by_cases hstate : c.state = .active
    · rw [idleExpired_of_active (by exact hstate)]
      exact Fits.enter_idle (by exact h)
    · rw [idleExpired_of_not_active (by exact hstate)]
      exact h
  | retryExpired =>
    exact Fits.retryExpired (by exact h) hdone

/-- After a fill, the pool has exactly as many tunnels as its state asks for. -/
theorem length_pool_settle (h : Fits c) (hpending : c.fillPending = true) :
    c.settle.pool.length = c.settle.desired := by
  rw [settle_of_pending hpending, publish_eq]
  exact length_pool_fill (by exact h)

/-- Filling goes as far as there is room. -/
theorem settle (h : Fits c) : Fits c.settle := by
  cases hpending : c.fillPending with
  | true => exact Nat.le_of_eq (h.length_pool_settle hpending)
  | false =>
    rw [settle_of_not_pending hpending, publish_eq]
    exact h

end Fits

/-- A live cluster asks for at least one tunnel. -/
theorem desired_pos {c : Cluster} (hlive : c.state ≠ .destroyed) (hmax : 0 < c.rules.maxConnections) :
    0 < c.desired := by
  cases hstate : c.state with
  | destroyed => exact absurd hstate hlive
  | idle => rw [desired_of_idle hstate]; exact Nat.one_pos
  | active => rwa [desired_of_active hstate]

/-! ## The timers -/

/-- While the cluster is active the idle timer runs. While it is alive and its pool is empty, the
retry timer runs or the pool is about to be filled. -/
structure Armed (c : Cluster) : Prop where
  idle : c.state = .active → c.idleTimer.isRunning = true
  retry : c.state ≠ .destroyed → c.pool = [] → c.retryTimer.isRunning = true ∨ c.fillPending = true

namespace Armed

variable {c : Cluster}

/-- A cluster that is gone needs no timers. -/
theorem of_destroyed {c' : Cluster} (h : c'.state = .destroyed) : Armed c' :=
  ⟨fun hactive => ClusterState.noConfusion (h.symm.trans hactive), fun hlive => absurd h hlive⟩

/-- So does one that ends, since it is gone then. -/
theorem destroy (c : Cluster) (error : Option TunnelError) : Armed (c.destroy error) := by
  by_cases hstate : c.state = .destroyed
  · rw [destroy_of_destroyed hstate]
    exact of_destroyed hstate
  · rw [destroy_of_live hstate]
    exact of_destroyed rfl

/-- Entering the active state keeps the idle timer, which has been armed before. -/
theorem idleTimer_enter_active (c : Cluster) : (c.enter .active).idleTimer = c.idleTimer := by
  obtain ⟨state, changed, outbox, henter⟩ := c.enter_active_eq
  rw [henter]

/-- A report arms the timers that are needed afterwards. -/
theorem notice {now : Instant} {id : TunnelId} {n : Notice} (h : Armed c)
    (hdone : (c.notice now id n).isCrashed = false) : Armed (c.notice now id n) := by
  refine notice_cases (P := Armed) hdone ?_ ?_ ?_ ?_ ?_ ?_
  · intro _
    exact h
  · -- the retry timer stops, but the tunnel that reported is in the pool
    intro hmem _
    exact ⟨h.idle, fun _ hpool => absurd (hpool ▸ hmem) List.not_mem_nil⟩
  · intro _ _
    refine ⟨fun _ => ?_, fun _ _ => Or.inr rfl⟩
    simp only [idleTimer_enter_active]
    rfl
  · intro _ _
    exact ⟨h.idle, fun _ _ => Or.inr rfl⟩
  · intro error _ _ _
    exact Armed.destroy _ _
  · intro error _ _ _
    exact ⟨h.idle, fun _ _ => Or.inl rfl⟩

/-- So do all reports of a batch. -/
theorem hear {reports : List Report} (h : Armed c) (hdone : (c.hear reports).isCrashed = false) :
    Armed (c.hear reports) :=
  hear_induction (P := Armed) (fun _ _ h hdone => h.notice hdone) hdone h

/-- A retry may find the retry timer stopped: it leaves a pool that is not empty, arms the timer, or
ends the cluster. -/
theorem retryExpired {now : Instant} (hidle : c.state = .active → c.idleTimer.isRunning = true)
    (hdone : (c.retryExpired now).isCrashed = false) : Armed (c.retryExpired now) := by
  by_cases hstate : c.state = .destroyed
  · rw [Cluster.retryExpired, if_pos (Or.inr hstate)]
    exact of_destroyed hstate
  · refine retryExpired_cases (P := Armed) hdone hstate ?_ ?_ ?_
    · intro hpool
      exact ⟨hidle, fun _ hempty => absurd hempty hpool⟩
    · intro _ _
      exact ⟨fun _ => rfl, fun _ _ => Or.inr rfl⟩
    · intro _ _
      exact Armed.destroy _ _

/-- The reaction of a turn arms the timers that are needed afterwards. -/
theorem react {now : Instant} {trigger : Trigger} (h : Armed c)
    (hdone : (c.react now trigger).isCrashed = false) : Armed (c.react now trigger) := by
  cases trigger with
  | endRequested error =>
    show Armed ((c.destroy error).publish.act .acknowledge)
    rw [publish_eq]
    exact ⟨(Armed.destroy c error).idle, (Armed.destroy c error).retry⟩
  | abandoned => exact Armed.destroy c none
  | noticed reports => exact h.hear hdone
  | idleExpired =>
    -- the idle timer has stopped, so the cluster must not stay active
    show Armed (idleExpired _)
    by_cases hstate : c.state = .active
    · rw [idleExpired_of_active (by exact hstate), enter_idle_of_active (by exact hstate), shrink_eq]
      refine ⟨fun hactive => ClusterState.noConfusion hactive, fun _ hpool => ?_⟩
      have hempty : c.pool = [] := by simpa using hpool
      exact h.retry (by simp [hstate]) hempty
    · rw [idleExpired_of_not_active (by exact hstate)]
      exact ⟨fun hactive => absurd hactive hstate, h.retry⟩
  | retryExpired =>
    exact Armed.retryExpired (by exact h.idle) hdone

/-- Filling leaves the timers alone, and it leaves no live cluster with an empty pool. -/
theorem settle (h : Armed c) (hfits : Fits c) (hmax : 0 < c.rules.maxConnections) :
    Armed c.settle := by
  cases hpending : c.fillPending with
  | false =>
    rw [settle_of_not_pending hpending, publish_eq]
    exact ⟨h.idle, h.retry⟩
  | true =>
    have hlength := hfits.length_pool_settle hpending
    rw [settle_of_pending hpending, publish_eq] at hlength ⊢
    by_cases hstate : c.state = .destroyed
    · rw [fill_of_destroyed (by exact hstate)]
      exact of_destroyed hstate
    · rw [fill_of_live (by exact hstate)] at hlength ⊢
      refine ⟨h.idle, fun _ hpool => ?_⟩
      have hpos : 0 < c.desired := desired_pos hstate hmax
      rw [hpool] at hlength
      exact absurd hlength.symm (Nat.ne_of_gt hpos)

end Armed

/-! ## What holds after every turn -/

/-- The end of a turn keeps the rules. -/
theorem rules_settle (c : Cluster) : c.settle.rules = c.rules := by
  obtain ⟨_, _, _, _, hsettle⟩ := c.settle_keeps
  rw [hsettle]

namespace Reachable

variable {config : Config} {now : Instant} {c : Cluster}

/-- The rules of a cluster are those of its configuration, in every run. -/
theorem rules (h : Reachable config now c) : c.rules = (ofConfig config).rules := by
  induction h with
  | start _ hdone => rw [start_eq hdone, publish_eq]
  | turn _ _ _ _ _ htakes ih =>
    rw [htakes.turn_eq, rules_settle, (handled_react htakes.react).rules, ih]

/-- A validated configuration lets an active cluster keep a tunnel. -/
theorem maxConnections_pos (h : Reachable config now c) (hmax : config.maxConnections ≠ 0) :
    0 < c.rules.maxConnections := by
  rw [h.rules]
  refine Nat.pos_of_ne_zero fun hzero => hmax ?_
  exact UInt64.toNat_inj.mp hzero

/-- In every run, the pool is within its room and the timers that are needed are armed. -/
theorem fits_armed (h : Reachable config now c) (hmax : config.maxConnections ≠ 0) :
    Fits c ∧ Armed c := by
  induction h with
  | start _ hdone =>
    rw [start_eq hdone, publish_eq]
    refine ⟨Nat.le_refl 1, fun hactive => ClusterState.noConfusion hactive, fun _ hpool => ?_⟩
    exact absurd hpool (by simp)
  | turn _ _ hrun _ _ htakes ih =>
    obtain ⟨hfits, harmed⟩ := ih
    have hdone := htakes.react
    have hpos := hrun.maxConnections_pos hmax
    have hfits' := hfits.react hpos hdone
    have hpos' := (handled_react hdone).rules ▸ hpos
    rw [htakes.turn_eq]
    exact ⟨hfits'.settle, (harmed.react hdone).settle hfits' hpos'⟩

end Reachable

/-- A retry that finds the pool empty ends the cluster or asks for a tunnel. -/
theorem react_retryExpired_of_empty {c : Cluster} {now : Instant} (hpool : c.pool = [])
    (hdone : (c.react now .retryExpired).isCrashed = false) :
    (c.react now .retryExpired).state = .destroyed ∨
      (c.react now .retryExpired).fillPending = true := by
  show (retryExpired _ _).state = _ ∨ (retryExpired _ _).fillPending = _
  by_cases hstate : c.state = .destroyed
  · rw [retryExpired, if_pos (Or.inr (by exact hstate))]
    exact Or.inl hstate
  · refine retryExpired_cases
      (P := fun c' => c'.state = .destroyed ∨ c'.fillPending = true) hdone (by exact hstate) ?_ ?_ ?_
    · intro hne
      exact absurd hpool hne
    · intro _ _
      exact Or.inr rfl
    · intro _ _
      rw [destroy_of_live (by exact hstate)]
      exact Or.inl rfl

/-- An expiry of the retry timer with an empty pool brings a tunnel or the end. -/
theorem turn_retryExpired_of_empty {c : Cluster} {now : Instant} (hfits : Fits c)
    (hmax : 0 < c.rules.maxConnections) (hpool : c.pool = [])
    (hdone : (c.turn now .retryExpired).isCrashed = false) :
    (c.turn now .retryExpired).state = .destroyed ∨ (c.turn now .retryExpired).pool ≠ [] := by
  rw [isCrashed_turn] at hdone
  rw [turn_eq_settle hdone]
  rcases react_retryExpired_of_empty hpool hdone with hend | hpending
  · exact Or.inl ((state_settle _).trans hend)
  · by_cases hstate : (c.react now .retryExpired).settle.state = .destroyed
    · exact Or.inl hstate
    · refine Or.inr fun hempty => ?_
      have hrules : (c.react now .retryExpired).settle.rules = c.rules :=
        (rules_settle _).trans (handled_react hdone).rules
      have hlength := (hfits.react hmax hdone).length_pool_settle hpending
      rw [hempty] at hlength
      exact absurd hlength.symm (Nat.ne_of_gt (desired_pos hstate (hrules ▸ hmax)))

/-- A cluster never gets stuck. After every turn of every run of a usable configuration, the idle
timer runs while the cluster is active, and the retry timer runs while the cluster is alive with an
empty pool; whenever it then expires, the turn that follows fills the pool or ends the cluster, if it
comes to its end. -/
theorem reachable_wakes {config : Config} {relay : Endpoint} (hvalid : config.validate = .ok relay)
    {now : Instant} {c : Cluster} (hrun : Reachable config now c) :
    (c.state = .active → c.idleTimer.isRunning = true) ∧
    (c.state ≠ .destroyed → c.pool = [] →
      c.retryTimer.isRunning = true ∧
      ∀ later, (c.turn later .retryExpired).isCrashed = false →
        (c.turn later .retryExpired).state = .destroyed ∨ (c.turn later .retryExpired).pool ≠ []) := by
  have hmax := Config.maxConnections_ne_zero hvalid
  obtain ⟨hfits, harmed⟩ := hrun.fits_armed hmax
  refine ⟨harmed.idle, fun hlive hpool => ⟨?_, fun later hdone => ?_⟩⟩
  · -- a fill is pending only inside a turn
    refine (harmed.retry hlive hpool).resolve_right ?_
    rw [hrun.fillPending]
    exact Bool.false_ne_true
  · exact turn_retryExpired_of_empty hfits (hrun.maxConnections_pos hmax) hpool hdone

/-- A configuration for a relay on the same machine. -/
def loopbackConfig : Config := { url := "http://[::1]/abc" }

/-- That configuration is valid. -/
theorem validate_loopbackConfig :
    loopbackConfig.validate = .ok ⟨"[::1]", 80, false, false, "/abc"⟩ :=
  Config.eq_ok_of_toOption (by decide +kernel)

/-- A cluster that has just been started with it. -/
theorem reachable_loopback : Reachable loopbackConfig ⟨1⟩ ((ofConfig loopbackConfig).start ⟨1⟩) :=
  .start ⟨1⟩ (by decide +kernel)

/-- A cluster whose only tunnel fails before it has opened its session waits for the retry timer. -/
theorem wakes_after_refused_tunnel :
    Reachable loopbackConfig ⟨2⟩ (((ofConfig loopbackConfig).start ⟨1⟩).turn ⟨2⟩
        (.noticed [⟨⟨2⟩, 1, .destroyed (some .openingClosed)⟩])) ∧
      (((ofConfig loopbackConfig).start ⟨1⟩).turn ⟨2⟩
        (.noticed [⟨⟨2⟩, 1, .destroyed (some .openingClosed)⟩])).retryTimer.isRunning = true := by
  have hrun : Reachable loopbackConfig ⟨2⟩ (((ofConfig loopbackConfig).start ⟨1⟩).turn ⟨2⟩
      (.noticed [⟨⟨2⟩, 1, .destroyed (some .openingClosed)⟩])) :=
    reachable_loopback.turn ⟨2⟩ (.noticed [⟨⟨2⟩, 1, .destroyed (some .openingClosed)⟩])
      (by decide +kernel) (by decide) ⟨⟨List.cons_ne_nil _ _, by decide, trivial⟩, by decide +kernel⟩
  have hwakes := reachable_wakes validate_loopbackConfig hrun
  exact ⟨hrun, (hwakes.2 (by decide +kernel) (by decide +kernel)).1⟩

end RelayTunnel.Cluster
