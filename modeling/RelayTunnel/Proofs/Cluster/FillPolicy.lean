import RelayTunnel.Proofs.Cluster.Timers

/-!
# When a cluster creates tunnels

The pool is filled at the end of a turn, if anything the turn handled calls for it. `CallsForFill` says
which reports do, in terms of the history alone, and `fillPending_react` shows that a cluster keeps
track of just that, whatever else the turn handles. `Bounded` reads the size of the pool off the
history, at the end of it and at any moment before (`reachable_fillPolicy`).
-/

set_option autoImplicit false

namespace RelayTunnel.Cluster

/-! ## What calls for a fill -/

/-- Whether a report calls for the pool to be filled: activity does, an end without error does, and so
does a failure of a tunnel whose session was reported as opened, unless the error is fatal or it is
the relay that ended the session. Only tunnels of the pool count. -/
def CallsForFill (c : Cluster) (id : TunnelId) : Notice → Prop
  | .connected => False
  | .activity => id ∈ c.pool
  | .destroyed none => id ∈ c.pool
  | .destroyed (some error) =>
      id ∈ c.pool ∧ c.isFatal error = false ∧ error.code ≠ .serverDisconnect ∧
        .emit (.connect id) ∈ c.outbox

/-- Whether a turn handles anything that calls for the pool to be filled: one of its reports, seen by
the cluster as the reports before it have left it, or a retry that is not the last. -/
def TurnCallsForFill (c : Cluster) : Trigger → Prop
  | .noticed reports => ∃ before report after,
      reports = before ++ report :: after ∧ (c.hear before).CallsForFill report.id report.notice
  | .retryExpired => c.pool = [] ∧ c.attempts < c.rules.retryCount
  | _ => False

/-- A cluster that ends leaves it at what has been asked for. -/
theorem fillPending_destroy (c : Cluster) (error : Option TunnelError) :
    (c.destroy error).fillPending = c.fillPending := by
  by_cases hstate : c.state = .destroyed
  · rw [destroy_of_destroyed hstate]
  · rw [destroy_of_live hstate]

/-- A report leaves a fill pending exactly if one was pending or the report calls for it. -/
theorem fillPending_notice {c : Cluster} {now : Instant} {id : TunnelId} {n : Notice} (h : Known c)
    (hdone : (c.notice now id n).isCrashed = false) :
    (c.notice now id n).fillPending = true ↔ c.fillPending = true ∨ c.CallsForFill id n := by
  refine notice_cases
    (P := fun c' => c'.fillPending = true ↔ c.fillPending = true ∨ c.CallsForFill id n)
    hdone ?_ ?_ ?_ ?_ ?_ ?_
  · intro hmem
    refine (or_iff_left ?_).symm
    cases n with
    | connected => exact not_false
    | activity => exact hmem
    | destroyed error =>
      cases error with
      | none => exact hmem
      | some error => exact fun hcalls => hmem hcalls.1
  · rintro _ rfl
    exact (or_iff_left not_false).symm
  · rintro hmem rfl
    exact iff_of_true rfl (Or.inr hmem)
  · rintro hmem rfl
    exact iff_of_true rfl (Or.inr hmem)
  · rintro error _ rfl hfatal
    rw [fillPending_destroy]
    refine (or_iff_left fun hcalls => ?_).symm
    exact Bool.false_ne_true (hcalls.2.1.symm.trans hfatal)
  · rintro error hmem rfl hfatal
    have hopened := h.opened_iff id hmem
    simp only [CallsForFill, hmem, hfatal, Bool.or_eq_true, Bool.and_eq_true, decide_eq_true_eq,
      bne_iff_ne, true_and, hopened]
    tauto

/-- Fill requests coalesce and none is lost: after any number of reports, a fill is pending exactly if
one was pending or some report called for it. -/
theorem fillPending_hear {c : Cluster} {reports : List Report} (h : Known c)
    (hdone : (c.hear reports).isCrashed = false) :
    (c.hear reports).fillPending = true ↔
      c.fillPending = true ∨ c.TurnCallsForFill (.noticed reports) := by
  induction reports generalizing c with
  | nil => simp [TurnCallsForFill]
  | cons first reports ih =>
    have hfirst := heed_of_hear hdone
    have hcalled : (c.heed first).fillPending = true ↔
        c.fillPending = true ∨ c.CallsForFill first.id first.notice := fillPending_notice h hfirst
    rw [hear_cons hfirst] at hdone ⊢
    rw [ih (c := c.heed first) (h.notice hfirst) hdone, hcalled, or_assoc]
    refine or_congr_right ?_
    constructor
    · rintro (hcalls | ⟨before, report, after, rfl, hcalls⟩)
      · exact ⟨[], first, reports, rfl, hcalls⟩
      · exact ⟨first :: before, report, after, rfl, (hear_cons hfirst before).symm ▸ hcalls⟩
    · rintro ⟨before, report, after, hsplit, hcalls⟩
      cases before with
      | nil =>
        obtain ⟨rfl, _⟩ := List.cons.inj hsplit
        exact Or.inl hcalls
      | cons _ before =>
        obtain ⟨rfl, hrest⟩ := List.cons.inj hsplit
        exact Or.inr ⟨before, report, after, hrest, hear_cons hfirst before ▸ hcalls⟩

/-- When a live cluster with no fill pending has handled a trigger, a fill is pending exactly if the
turn calls for it. -/
theorem fillPending_react {c : Cluster} {now : Instant} {trigger : Trigger} (h : Known c)
    (hlive : c.state ≠ .destroyed) (hpending : c.fillPending = false)
    (hdone : (c.react now trigger).isCrashed = false) :
    (c.react now trigger).fillPending = true ↔ c.TurnCallsForFill trigger := by
  have hnone : ¬ c.fillPending = true := by simp [hpending]
  cases trigger with
  | endRequested error =>
    show ((c.destroy error).publish.act .acknowledge).fillPending = true ↔ False
    rw [publish_eq]
    exact iff_of_false (fillPending_destroy c error ▸ hnone) id
  | abandoned => exact iff_of_false (fillPending_destroy c none ▸ hnone) id
  | noticed reports => exact (fillPending_hear h hdone).trans (or_iff_right hnone)
  | idleExpired =>
    show (idleExpired _).fillPending = true ↔ False
    by_cases hstate : c.state = .active
    · rw [idleExpired_of_active (by exact hstate), enter_idle_of_active (by exact hstate), shrink_eq]
      exact iff_of_false hnone id
    · rw [idleExpired_of_not_active (by exact hstate)]
      exact iff_of_false hnone id
  | retryExpired =>
    show (Cluster.retryExpired _ now).fillPending = true ↔ _
    refine retryExpired_cases
      (P := fun c' => c'.fillPending = true ↔ c.TurnCallsForFill .retryExpired)
      hdone (by exact hlive) ?_ ?_ ?_
    · intro hpool
      exact iff_of_false hnone fun hcalls => hpool hcalls.1
    · intro hpool hleft
      exact iff_of_true rfl ⟨hpool, hleft⟩
    · intro _ hleft
      rw [fillPending_destroy]
      exact iff_of_false hnone fun hcalls => hleft hcalls.2

/-! ## The size of the pool throughout a history -/

/-- The tunnels of the pool are those that were created and have not left it, and at no point of the
history were there more than `limit`. -/
structure Bounded (limit : Nat) (c : Cluster) : Prop where
  balance : c.outbox.countP isCreation = c.outbox.countP isClosing + c.pool.length
  bound : ∀ p, p <+: c.outbox → p.countP isCreation ≤ p.countP isClosing + limit

namespace Bounded

variable {limit : Nat} {c c' : Cluster}

/-- The pool is within the limit. -/
theorem length_pool_le (h : Bounded limit c) : c.pool.length ≤ limit := by
  have hbalance := h.balance
  have hbound := h.bound c.outbox (List.prefix_refl _)
  omega

/-- A history may grow by actions that account for the change of the pool and never exceed the
limit. -/
theorem grow {added : List ClusterAction} (h : Bounded limit c) (hout : c'.outbox = c.outbox ++ added)
    (hpool : c.pool.length + added.countP isCreation = added.countP isClosing + c'.pool.length)
    (hadded : ∀ q, q <+: added →
      c.pool.length + q.countP isCreation ≤ q.countP isClosing + limit) : Bounded limit c' := by
  have hbalance := h.balance
  constructor
  · rw [hout, List.countP_append, List.countP_append]
    omega
  · rintro p ⟨t, hp⟩
    rw [hout] at hp
    -- a prefix ends in the old history or in what was added to it
    rcases List.append_eq_append_iff.mp hp with ⟨rest, hold, _⟩ | ⟨q, rfl, hnew⟩
    · exact h.bound p ⟨rest, hold.symm⟩
    · have hq := hadded q ⟨t, hnew.symm⟩
      rw [List.countP_append, List.countP_append]
      omega

/-- Handling a trigger only makes the pool smaller. -/
theorem of_handled (h : Bounded limit c) (hhandled : Handled c c') : Bounded limit c' := by
  obtain ⟨added, hout, hnone, hclosed⟩ := hhandled.history
  refine h.grow hout (by omega) fun q hq => ?_
  have hq : q.countP isCreation ≤ added.countP isCreation := hq.sublist.countP_le
  have hlength := h.length_pool_le
  omega

/-- Filling creates as many tunnels as the pool has room for. -/
theorem fill (h : Bounded limit c) (hfits : Fits c) (hdesired : c.desired ≤ limit) :
    Bounded limit c.fill := by
  by_cases hstate : c.state = .destroyed
  · rwa [fill_of_destroyed hstate]
  · rw [fill_of_live hstate]
    have hcreated : ∀ n, ((List.range' c.nextId n).map ClusterAction.create).countP isCreation = n := by
      intro n
      rw [List.countP_map]
      exact (List.countP_eq_length.mpr fun _ _ => rfl).trans List.length_range'
    have hclosed : ∀ n, ((List.range' c.nextId n).map ClusterAction.create).countP isClosing = 0 := by
      intro n
      simp [isClosing]
    refine h.grow rfl ?_ ?_
    · rw [hcreated, hclosed, Nat.zero_add, List.length_append, List.length_range']
    · intro q hq
      have hle := hq.sublist.countP_le (p := isCreation)
      rw [hcreated] at hle
      have : c.pool.length ≤ c.desired := hfits
      omega

/-- Filling does not exceed a limit that is not below what the state asks for. -/
theorem settle (h : Bounded limit c) (hfits : Fits c) (hdesired : c.desired ≤ limit) :
    Bounded limit c.settle := by
  refine settle_induction (P := Bounded limit) ?_ (fun _ => h) ?_
  · intro _
    exact Bounded.fill ⟨h.balance, h.bound⟩ hfits hdesired
  · intro _ h'
    exact h'.of_handled (handled_publish _)

end Bounded

/-- No state asks for more tunnels than the rules allow. -/
theorem desired_le {c : Cluster} (hmax : 0 < c.rules.maxConnections) :
    c.desired ≤ c.rules.maxConnections := by
  cases hstate : c.state with
  | destroyed => rw [desired_of_destroyed hstate]; exact Nat.zero_le _
  | idle => rw [desired_of_idle hstate]; exact hmax
  | active => exact Nat.le_of_eq (desired_of_active hstate)

/-- In every run, the pool stays within the maximum of the configuration. -/
theorem Reachable.bounded {config : Config} {now : Instant} {c : Cluster}
    (h : Reachable config now c) (hmax : config.maxConnections ≠ 0) :
    Bounded config.maxConnections.toNat c := by
  induction h with
  | start now hdone =>
    rw [start_eq hdone]
    refine Bounded.of_handled (c := { ofConfig config with
      idleTimer := (ofConfig config).idleTimer.restart now
      pool := [1]
      nextId := 2
      outbox := [.create 1] }) ⟨rfl, ?_⟩ (handled_publish _)
    intro p hp
    have hle : p.countP isCreation ≤ 1 := hp.sublist.countP_le
    have hpos : config.maxConnections.toNat ≠ 0 := fun hzero => hmax (UInt64.toNat_inj.mp hzero)
    omega
  | @turn _ c later trigger hrun _ _ htakes ih =>
    have hdone := htakes.react
    obtain ⟨hfits, _⟩ := hrun.fits_armed hmax
    have hpos := hrun.maxConnections_pos hmax
    have hrules : (c.react later trigger).rules = (ofConfig config).rules :=
      (handled_react hdone).rules.trans hrun.rules
    have hdesired : (c.react later trigger).desired ≤ config.maxConnections.toNat := by
      have hle := desired_le (c := c.react later trigger) (by rw [hrules, ← hrun.rules]; exact hpos)
      rwa [hrules] at hle
    rw [htakes.turn_eq]
    exact (ih.of_handled (handled_react hdone)).settle (hfits.react hpos hdone) hdesired

/-! ## The fill policy -/

/-- How many tunnels a cluster with this configuration wants to keep in a state. -/
def poolTarget (config : Config) : ClusterState → Nat
  | .destroyed => 0
  | .idle => 1
  | .active => config.maxConnections.toNat

/-- What a cluster wants to keep is what its configuration says of its state. -/
theorem desired_eq_poolTarget {config : Config} {c : Cluster}
    (hrules : c.rules = (ofConfig config).rules) : c.desired = poolTarget config c.state := by
  cases hstate : c.state with
  | destroyed => exact desired_of_destroyed hstate
  | idle => exact desired_of_idle hstate
  | active => rw [desired_of_active hstate, hrules]; rfl

/-- A turn that ends with no fill pending creates no tunnel. -/
theorem create_not_mem_turn {c : Cluster} {now : Instant} {trigger : Trigger}
    (htakes : c.Takes now trigger) (hpending : (c.react now trigger).fillPending = false) :
    ∃ added, (c.turn now trigger).outbox = c.outbox ++ added ∧ ∀ id, .create id ∉ added := by
  obtain ⟨added, hout, hnone, _⟩ := (handled_react htakes.react).history
  refine ⟨added, ?_, fun id hmem => ?_⟩
  · rw [htakes.turn_eq, settle_of_not_pending hpending, publish_eq]
    exact hout
  · rw [List.countP_eq_zero] at hnone
    exact hnone _ hmem rfl

/-- The fill policy. After every turn of every run of a usable configuration, the pool has at most as
many tunnels as the state asks for, it is what the history says it is, and at no point of the history
did it exceed the maximum. From there, a turn that handles anything that calls for a fill leaves
exactly as many tunnels as its state asks for, and a turn that does not creates none. -/
theorem reachable_fillPolicy {config : Config} {relay : Endpoint}
    (hvalid : config.validate = .ok relay) {now : Instant} {c : Cluster}
    (hrun : Reachable config now c) :
    c.pool.length ≤ poolTarget config c.state ∧
    poolSize c.outbox = c.pool.length ∧
    (∀ p, p <+: c.outbox → poolSize p ≤ config.maxConnections.toNat) ∧
    ∀ later trigger, c.state ≠ .destroyed → now.notAfter later = true → c.Takes later trigger →
      (c.TurnCallsForFill trigger →
        (c.turn later trigger).pool.length = poolTarget config (c.turn later trigger).state) ∧
      (¬ c.TurnCallsForFill trigger →
        ∃ added, (c.turn later trigger).outbox = c.outbox ++ added ∧ ∀ id, .create id ∉ added) := by
  have hmax := Config.maxConnections_ne_zero hvalid
  obtain ⟨hfits, _⟩ := hrun.fits_armed hmax
  have hbounded := hrun.bounded hmax
  refine ⟨?_, ?_, ?_, ?_⟩
  · rw [← desired_eq_poolTarget hrun.rules]
    exact hfits
  · have hbalance := hbounded.balance
    rw [poolSize]
    omega
  · intro p hp
    have hbound := hbounded.bound p hp
    rw [poolSize]
    omega
  · intro later trigger hlive hlater htakes
    have hturn : Reachable config (trigger.ends later) (c.turn later trigger) :=
      .turn later trigger hrun hlive hlater htakes
    have hpending := fillPending_react hrun.known hlive hrun.fillPending htakes.react
    constructor
    · intro hcalls
      rw [← desired_eq_poolTarget hturn.rules, htakes.turn_eq]
      have hfits' := hfits.react (hrun.maxConnections_pos hmax) htakes.react
      exact hfits'.length_pool_settle (hpending.mpr hcalls)
    · intro hcalls
      refine create_not_mem_turn htakes ?_
      rw [← Bool.not_eq_true]
      exact fun h => hcalls (hpending.mp h)

/-- The first activity makes a cluster active, and the same turn fills its pool to the maximum. -/
theorem fillPolicy_after_activity :
    (((ofConfig loopbackConfig).start ⟨1⟩).turn ⟨2⟩
      (.noticed [⟨⟨2⟩, 1, .activity⟩])).pool.length = 2 := by
  have hpooled : 1 ∈ ((ofConfig loopbackConfig).start ⟨1⟩).pool := by decide +kernel
  have hcalls : ((ofConfig loopbackConfig).start ⟨1⟩).TurnCallsForFill
      (.noticed [⟨⟨2⟩, 1, .activity⟩]) :=
    ⟨[], ⟨⟨2⟩, 1, .activity⟩, [], rfl, hpooled⟩
  have hpolicy := reachable_fillPolicy validate_loopbackConfig reachable_loopback
  have hturn := hpolicy.2.2.2 ⟨2⟩ (.noticed [⟨⟨2⟩, 1, .activity⟩]) (by decide +kernel) (by decide)
    ⟨⟨List.cons_ne_nil _ _, by decide, trivial⟩, by decide +kernel⟩
  refine (hturn.1 hcalls).trans ?_
  decide +kernel

end RelayTunnel.Cluster
