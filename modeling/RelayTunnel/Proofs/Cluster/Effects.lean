import RelayTunnel.Cluster.Turn

/-!
# What the operations of a cluster do

Each operation of a cluster is written out here as one update of its state. What can come of a report
is listed in `notice_outcomes`, and what can come of an expired retry timer in `retryExpired_outcomes`,
crashes included. The proofs about turns that come to their end go through `notice_cases` and
`retryExpired_cases`, which leave these out.
-/

set_option autoImplicit false

namespace RelayTunnel.Cluster

/-! ## Letting go of tunnels -/

/-- What a cluster wants done when it lets go of tunnels, in this order. -/
def releases (ids : List TunnelId) : List ClusterAction :=
  ids.flatMap fun id => [.release id, .emit (.tunnelClosed id none)]

/-- Letting go of tunnels one after the other unmarks them and reports each. -/
theorem foldl_release (ids : List TunnelId) (c : Cluster) :
    ids.foldl release c =
      { c with
        opened := c.opened.filter (· ∉ ids)
        outbox := c.outbox ++ releases ids } := by
  induction ids generalizing c with
  | nil => simp [releases, List.filter_eq_self.mpr]
  | cons id ids ih =>
    rw [List.foldl_cons, ih]
    simp only [release, act, emit, releases, List.flatMap_cons, List.filter_filter, List.append_assoc,
      List.cons_append, List.nil_append]
    congr 2
    funext x
    by_cases h : x = id <;> simp [h]

/-- Shrinking keeps the oldest tunnels and reports the others, newest first. -/
theorem shrink_eq (keep : Nat) (c : Cluster) :
    c.shrink keep =
      { c with
        pool := c.pool.take keep
        opened := c.opened.filter (· ∉ (c.pool.drop keep).reverse)
        outbox := c.outbox ++ releases (c.pool.drop keep).reverse } := by
  rw [shrink, foldl_release]

/-! ## Changing the state -/

/-- A cluster that is in a state does not enter it again. -/
theorem enter_of_same {c : Cluster} {state : ClusterState} (h : c.state = state) :
    c.enter state = c := by
  rw [enter, if_pos (Or.inr h)]

/-- A cluster that becomes active announces it, and nothing else. -/
theorem enter_active_of_idle {c : Cluster} (h : c.state = .idle) :
    c.enter .active =
      { c with
        state := .active
        changed := true
        outbox := c.outbox ++ [.emit (.state .active)] } := by
  have hne : ¬ (c.state = .destroyed ∨ c.state = .active) := by simp [h]
  rw [enter, if_neg hne]
  rfl

/-- Entering the active state touches neither the pool nor the timers. -/
theorem enter_active_eq (c : Cluster) :
    ∃ state changed outbox,
      c.enter .active = { c with state := state, changed := changed, outbox := outbox } := by
  cases hstate : c.state with
  | active => exact ⟨c.state, c.changed, c.outbox, enter_of_same hstate⟩
  | destroyed => exact ⟨c.state, c.changed, c.outbox, by rw [enter, if_pos (Or.inl hstate)]⟩
  | idle => exact ⟨_, _, _, enter_active_of_idle hstate⟩

/-- A cluster that becomes idle lets go of all tunnels but the oldest, and then announces it. -/
theorem enter_idle_of_active {c : Cluster} (h : c.state = .active) :
    c.enter .idle =
      { c.shrink 1 with
        state := .idle
        changed := true
        outbox := (c.shrink 1).outbox ++ [.emit (.state .idle)] } := by
  have hne : ¬ (c.state = .destroyed ∨ c.state = .idle) := by simp [h]
  rw [enter, if_neg hne]
  rfl

/-- A live cluster without tunnels that becomes idle has none to let go of. -/
theorem enter_idle_of_empty {c : Cluster} (hlive : c.state ≠ .destroyed) (hpool : c.pool = []) :
    c.enter .idle =
      { c with
        state := .idle
        changed := c.changed || c.state != .idle
        outbox := c.outbox ++ if c.state = .idle then [] else [.emit (.state .idle)] } := by
  cases hstate : c.state with
  | destroyed => exact absurd hstate hlive
  | idle =>
    rw [enter_of_same hstate]
    simp [← hstate]
  | active =>
    rw [enter_idle_of_active hstate, shrink_eq]
    simp [hpool, releases]

/-- A cluster ends only once. -/
theorem destroy_of_destroyed {c : Cluster} (h : c.state = .destroyed)
    (error : Option TunnelError) : c.destroy error = c := by
  simp [destroy, h]

/-- The end of a cluster: the state is announced, both timers stop, every tunnel is let go of, newest
first, and the end is announced. -/
theorem destroy_of_live {c : Cluster} (h : c.state ≠ .destroyed) (error : Option TunnelError) :
    c.destroy error =
      { c with
        state := .destroyed
        changed := true
        idleTimer := c.idleTimer.stop
        retryTimer := c.retryTimer.stop
        pool := []
        opened := c.opened.filter (· ∉ c.pool.reverse)
        outbox := c.outbox ++
          ([.emit (.state .destroyed)] ++ releases c.pool.reverse ++ [.emit (.destroyed error)]) } := by
  cases hstate : c.state with
  | destroyed => exact absurd hstate h
  | idle | active =>
    simp only [destroy, hstate, emit, act, shrink_eq, List.take_zero, List.drop_zero,
      List.append_assoc]

/-! ## Creating tunnels -/

/-- Creating tunnels one after the other in a cluster that is not gone. -/
theorem repeat_create {c : Cluster} (h : c.state ≠ .destroyed) (n : Nat) :
    n.repeat create c =
      { c with
        pool := c.pool ++ List.range' c.nextId n
        nextId := c.nextId + n
        changed := c.changed || n != 0
        outbox := c.outbox ++ (List.range' c.nextId n).map .create } := by
  induction n with
  | zero => simp [Nat.repeat]
  | succ n ih =>
    rw [Nat.repeat, ih]
    cases hstate : c.state with
    | destroyed => exact absurd hstate h
    | idle | active =>
      simp [create, act, List.range'_concat, Nat.add_assoc]

/-- A cluster that is gone wants no tunnels. -/
theorem desired_of_destroyed {c : Cluster} (h : c.state = .destroyed) : c.desired = 0 := by
  simp [desired, h]

/-- An idle cluster wants one tunnel. -/
theorem desired_of_idle {c : Cluster} (h : c.state = .idle) : c.desired = 1 := by
  simp [desired, h]

/-- An active cluster wants as many tunnels as it may have. -/
theorem desired_of_active {c : Cluster} (h : c.state = .active) :
    c.desired = c.rules.maxConnections := by
  simp [desired, h]

/-- Filling adds the tunnels that are missing. -/
theorem fill_of_live {c : Cluster} (h : c.state ≠ .destroyed) :
    c.fill =
      { c with
        pool := c.pool ++ List.range' c.nextId (c.desired - c.pool.length)
        nextId := c.nextId + (c.desired - c.pool.length)
        changed := c.changed || c.desired - c.pool.length != 0
        outbox := c.outbox ++
          (List.range' c.nextId (c.desired - c.pool.length)).map .create } :=
  repeat_create h _

/-- A cluster that is gone creates no tunnels. -/
theorem fill_of_destroyed {c : Cluster} (h : c.state = .destroyed) : c.fill = c := by
  simp [fill, desired_of_destroyed h, Nat.repeat]

/-- A pool with too few tunnels has exactly as many as wanted once it is filled. -/
theorem length_pool_fill {c : Cluster} (h : c.pool.length ≤ c.desired) :
    c.fill.pool.length = c.fill.desired := by
  by_cases hstate : c.state = .destroyed
  · rw [fill_of_destroyed hstate]
    have := desired_of_destroyed hstate
    omega
  · rw [fill_of_live hstate]
    simp only [List.length_append, List.length_range']
    show c.pool.length + (c.desired - c.pool.length) = c.desired
    omega

/-! ## Arming timers -/

section Arming

variable {c : Cluster} {now : Instant}

/-- The idle timer is armed for a deadline that the clock can show. -/
theorem rearmIdle_of_shown (h : (now.after c.idleTimer.delay).isShown = true) (goOn : Cluster → Cluster) :
    c.rearmIdle now goOn = goOn { c with idleTimer := c.idleTimer.restart now } := by
  rw [rearmIdle, Timer.restart?_eq, if_pos h]

/-- No timer is armed for a deadline that the clock cannot show. -/
theorem rearmIdle_of_hidden (h : (now.after c.idleTimer.delay).isShown = false)
    (goOn : Cluster → Cluster) : c.rearmIdle now goOn = c.crash := by
  rw [rearmIdle, Timer.restart?_eq, if_neg (by simp [h])]

/-- The retry timer is armed for a deadline that the clock can show. -/
theorem rearmRetry_of_shown (h : (now.after c.retryTimer.delay).isShown = true)
    (goOn : Cluster → Cluster) :
    c.rearmRetry now goOn = goOn { c with retryTimer := c.retryTimer.restart now } := by
  rw [rearmRetry, Timer.restart?_eq, if_pos h]

/-- No timer is armed for a deadline that the clock cannot show. -/
theorem rearmRetry_of_hidden (h : (now.after c.retryTimer.delay).isShown = false)
    (goOn : Cluster → Cluster) : c.rearmRetry now goOn = c.crash := by
  rw [rearmRetry, Timer.restart?_eq, if_neg (by simp [h])]

end Arming

/-! ## Reports of tunnels -/

section Reports

variable {c : Cluster} {id : TunnelId}

/-- Nobody listens to a tunnel that has left the pool. -/
theorem notice_of_not_mem (now : Instant) (n : Notice) (h : id ∉ c.pool) :
    c.notice now id n = c := by
  rw [notice.eq_def, if_pos h]

/-- A tunnel that opens its session shows that the relay is in reach. -/
theorem notice_connected (now : Instant) (h : id ∈ c.pool) :
    c.notice now id .connected =
      { c with
        opened := if id ∈ c.opened then c.opened else c.opened ++ [id]
        retryTimer := c.retryTimer.stop
        attempts := 0
        changed := true
        outbox := c.outbox ++ [.emit (.connect id)] } := by
  rw [notice, if_neg (not_not_intro h)]
  rfl

/-- Activity puts the expiry of the idle timer off. -/
theorem notice_activity {now : Instant} (h : id ∈ c.pool)
    (hshown : (now.after c.idleTimer.delay).isShown = true) :
    c.notice now id .activity =
      { { c.emit (.activity id) with idleTimer := c.idleTimer.restart now }.enter .active with
        fillPending := true } := by
  rw [notice, if_neg (not_not_intro h)]
  exact rearmIdle_of_shown (c := c.emit (.activity id)) hshown _

/-- Activity is reported before the idle timer is armed. -/
theorem notice_activity_of_hidden {now : Instant} (h : id ∈ c.pool)
    (hhidden : (now.after c.idleTimer.delay).isShown = false) :
    c.notice now id .activity = (c.emit (.activity id)).crash := by
  rw [notice, if_neg (not_not_intro h)]
  exact rearmIdle_of_hidden (c := c.emit (.activity id)) hhidden _

/-- The cluster once a tunnel has left the pool and this has been reported. -/
def withoutTunnel (c : Cluster) (id : TunnelId) (error : Option TunnelError) : Cluster :=
  { c with
    pool := c.pool.erase id
    opened := c.opened.filter (· != id)
    changed := true
    outbox := c.outbox ++ [.emit (.tunnelClosed id error)] }

/-- A tunnel that ends without error is replaced. -/
theorem notice_ended (now : Instant) (h : id ∈ c.pool) :
    c.notice now id (.destroyed none) = { c.withoutTunnel id none with fillPending := true } := by
  rw [notice, if_neg (not_not_intro h)]
  rfl

/-- A tunnel that fails is logged, and then it depends on the error. -/
theorem notice_failed (now : Instant) (error : TunnelError) (h : id ∈ c.pool) :
    c.notice now id (.destroyed (some error)) =
      (c.withoutTunnel id (some error)).tunnelFailed error (decide (id ∈ c.opened)) now := by
  rw [notice, if_neg (not_not_intro h)]
  rfl

/-- A fatal error stops the retry timer and ends the cluster. -/
theorem tunnelFailed_of_fatal {error : TunnelError} (wasOpened : Bool) (now : Instant)
    (h : c.isFatal error = true) :
    c.tunnelFailed error wasOpened now =
      ({ c.log error with retryTimer := c.retryTimer.stop }.destroy (some error)) := by
  have hlog : (c.log error).isFatal error = true := h
  rw [tunnelFailed, if_pos hlog]
  rfl

/-- Any other error arms the retry timer. The tunnel is replaced at once if it had opened its session
and the relay did not end it. -/
theorem tunnelFailed_of_not_fatal {error : TunnelError} (wasOpened : Bool) {now : Instant}
    (h : c.isFatal error = false) (hshown : (now.after c.retryTimer.delay).isShown = true) :
    c.tunnelFailed error wasOpened now =
      { c.log error with
        retryTimer := c.retryTimer.restart now
        fillPending := c.fillPending || (wasOpened && error.code != .serverDisconnect) } := by
  have hlog : (c.log error).isFatal error = false := h
  rw [tunnelFailed, if_neg (by simp [hlog]), rearmRetry_of_shown (by exact hshown)]
  dsimp only
  split
  · next hfill =>
    simp only [hfill, Bool.or_true]
    rfl
  · next hfill =>
    rw [Bool.not_eq_true] at hfill
    simp only [hfill, Bool.or_false]
    rfl

/-- A cluster that cannot arm its retry timer has logged the error. -/
theorem tunnelFailed_of_hidden {error : TunnelError} (wasOpened : Bool) {now : Instant}
    (h : c.isFatal error = false) (hhidden : (now.after c.retryTimer.delay).isShown = false) :
    c.tunnelFailed error wasOpened now = (c.log error).crash := by
  have hlog : (c.log error).isFatal error = false := h
  rw [tunnelFailed, if_neg (by simp [hlog]), rearmRetry_of_hidden (by exact hhidden)]

/-- What can come of a report: whatever holds in each of these eight cases holds afterwards. In two of
them the cluster crashes. -/
theorem notice_outcomes {P : Cluster → Prop} (now : Instant) (c : Cluster) (id : TunnelId) (n : Notice)
    (ignored : id ∉ c.pool → P c)
    (connected : id ∈ c.pool → n = .connected →
      P { c with
        opened := if id ∈ c.opened then c.opened else c.opened ++ [id]
        retryTimer := c.retryTimer.stop
        attempts := 0
        changed := true
        outbox := c.outbox ++ [.emit (.connect id)] })
    (activity : id ∈ c.pool → n = .activity → (now.after c.idleTimer.delay).isShown = true →
      P { { c.emit (.activity id) with idleTimer := c.idleTimer.restart now }.enter .active with
        fillPending := true })
    (ended : id ∈ c.pool → n = .destroyed none →
      P { c.withoutTunnel id none with fillPending := true })
    (fatal : ∀ error, id ∈ c.pool → n = .destroyed (some error) → c.isFatal error = true →
      P ({ (c.withoutTunnel id (some error)).log error with
        retryTimer := c.retryTimer.stop }.destroy (some error)))
    (failed : ∀ error, id ∈ c.pool → n = .destroyed (some error) → c.isFatal error = false →
      (now.after c.retryTimer.delay).isShown = true →
      P { (c.withoutTunnel id (some error)).log error with
        retryTimer := c.retryTimer.restart now
        fillPending :=
          c.fillPending || (decide (id ∈ c.opened) && error.code != .serverDisconnect) })
    (unstirred : id ∈ c.pool → n = .activity → (now.after c.idleTimer.delay).isShown = false →
      P (c.emit (.activity id)).crash)
    (unretried : ∀ error, id ∈ c.pool → n = .destroyed (some error) → c.isFatal error = false →
      (now.after c.retryTimer.delay).isShown = false →
      P ((c.withoutTunnel id (some error)).log error).crash) :
    P (c.notice now id n) := by
  by_cases hmem : id ∈ c.pool
  · cases n with
    | connected => rw [notice_connected now hmem]; exact connected hmem rfl
    | activity =>
      cases hshown : (now.after c.idleTimer.delay).isShown with
      | true => rw [notice_activity hmem hshown]; exact activity hmem rfl hshown
      | false => rw [notice_activity_of_hidden hmem hshown]; exact unstirred hmem rfl hshown
    | destroyed error =>
      cases error with
      | none => rw [notice_ended now hmem]; exact ended hmem rfl
      | some error =>
        rw [notice_failed now error hmem]
        cases hfatal : c.isFatal error with
        | true => rw [tunnelFailed_of_fatal _ _ (by exact hfatal)]; exact fatal error hmem rfl hfatal
        | false =>
          cases hshown : (now.after c.retryTimer.delay).isShown with
          | true =>
            rw [tunnelFailed_of_not_fatal _ (by exact hfatal) (by exact hshown)]
            exact failed error hmem rfl hfatal hshown
          | false =>
            rw [tunnelFailed_of_hidden _ (by exact hfatal) (by exact hshown)]
            exact unretried error hmem rfl hfatal hshown
  · rw [notice_of_not_mem now n hmem]
    exact ignored hmem

/-- What can come of a report if the cluster does not crash: whatever holds in each of these six cases
holds afterwards. -/
theorem notice_cases {P : Cluster → Prop} {now : Instant} {c : Cluster} {id : TunnelId} {n : Notice}
    (hdone : (c.notice now id n).isCrashed = false)
    (ignored : id ∉ c.pool → P c)
    (connected : id ∈ c.pool → n = .connected →
      P { c with
        opened := if id ∈ c.opened then c.opened else c.opened ++ [id]
        retryTimer := c.retryTimer.stop
        attempts := 0
        changed := true
        outbox := c.outbox ++ [.emit (.connect id)] })
    (activity : id ∈ c.pool → n = .activity →
      P { { c.emit (.activity id) with idleTimer := c.idleTimer.restart now }.enter .active with
        fillPending := true })
    (ended : id ∈ c.pool → n = .destroyed none →
      P { c.withoutTunnel id none with fillPending := true })
    (fatal : ∀ error, id ∈ c.pool → n = .destroyed (some error) → c.isFatal error = true →
      P ({ (c.withoutTunnel id (some error)).log error with
        retryTimer := c.retryTimer.stop }.destroy (some error)))
    (failed : ∀ error, id ∈ c.pool → n = .destroyed (some error) → c.isFatal error = false →
      P { (c.withoutTunnel id (some error)).log error with
        retryTimer := c.retryTimer.restart now
        fillPending :=
          c.fillPending || (decide (id ∈ c.opened) && error.code != .serverDisconnect) }) :
    P (c.notice now id n) := by
  revert hdone
  refine notice_outcomes (P := fun c' => c'.isCrashed = false → P c') now c id n ?_ ?_ ?_ ?_ ?_ ?_ ?_ ?_
  · exact fun hmem _ => ignored hmem
  · exact fun hmem hn _ => connected hmem hn
  · exact fun hmem hn _ _ => activity hmem hn
  · exact fun hmem hn _ => ended hmem hn
  · exact fun error hmem hn hfatal _ => fatal error hmem hn hfatal
  · exact fun error hmem hn hfatal _ _ => failed error hmem hn hfatal
  · exact fun _ _ _ hdone => Bool.noConfusion hdone
  · exact fun _ _ _ _ _ hdone => Bool.noConfusion hdone

end Reports

/-! ## Timers -/

/-- An active cluster becomes idle when its idle timer expires. -/
theorem idleExpired_of_active {c : Cluster} (h : c.state = .active) :
    c.idleExpired = c.enter .idle := by
  simp only [idleExpired, h]

/-- Any other cluster takes no notice of the expiry. -/
theorem idleExpired_of_not_active {c : Cluster} (h : c.state ≠ .active) : c.idleExpired = c := by
  cases hstate : c.state with
  | active => exact absurd hstate h
  | idle | destroyed => simp only [idleExpired, hstate]

/-- The cluster once it has begun to try the relay again. -/
def retrying (c : Cluster) : Cluster :=
  { c with
    attempts := c.attempts + 1
    state := .idle
    changed := true
    outbox := c.outbox ++ if c.state = .idle then [] else [.emit (.state .idle)] }

/-- The cluster once it has announced that it tries the relay again. -/
def reconnecting (now : Instant) (c : Cluster) : Cluster :=
  { c.retrying with
    idleTimer := c.idleTimer.restart now
    fillPending := true
    outbox := c.retrying.outbox ++ [.emit (.reconnect (c.attempts + 1))] }

/-- What can come of a retry: nothing while there are tunnels, another attempt while there are any
left, in which the cluster may crash over either timer, and else the end. -/
theorem retryExpired_outcomes {P : Cluster → Prop} (now : Instant) {c : Cluster}
    (hlive : c.state ≠ .destroyed)
    (filled : c.pool ≠ [] → P c)
    (again : c.pool = [] → c.attempts < c.rules.retryCount →
      P { c.reconnecting now with retryTimer := c.retryTimer.restart now })
    (exhausted : c.pool = [] → ¬ c.attempts < c.rules.retryCount →
      P ((c.log (.serverUnreachable c.attempts)).destroy (some (.serverUnreachable c.attempts))))
    (unstirred : c.pool = [] → c.attempts < c.rules.retryCount →
      (now.after c.idleTimer.delay).isShown = false → P c.retrying.crash)
    (unretried : c.pool = [] → c.attempts < c.rules.retryCount →
      (now.after c.retryTimer.delay).isShown = false → P (c.reconnecting now).crash) :
    P (c.retryExpired now) := by
  rw [retryExpired]
  by_cases hpool : c.pool = []
  · rw [if_neg (by simp [hpool, hlive])]
    split
    · next hleft =>
      rw [enter_idle_of_empty (by exact hlive) (by exact hpool)]
      simp only [Bool.true_or]
      cases hidle : (now.after c.idleTimer.delay).isShown with
      | true =>
        rw [rearmIdle_of_shown (by exact hidle)]
        cases hretry : (now.after c.retryTimer.delay).isShown with
        | true =>
          rw [rearmRetry_of_shown (by exact hretry)]
          exact again hpool hleft
        | false =>
          rw [rearmRetry_of_hidden (by exact hretry)]
          exact unretried hpool hleft hretry
      | false =>
        rw [rearmIdle_of_hidden (by exact hidle)]
        exact unstirred hpool hleft hidle
    · next hleft => exact exhausted hpool hleft
  · rw [if_pos (Or.inl (by simpa using hpool))]
    exact filled hpool

/-- What can come of a retry if the cluster does not crash. -/
theorem retryExpired_cases {P : Cluster → Prop} {now : Instant} {c : Cluster}
    (hdone : (c.retryExpired now).isCrashed = false) (hlive : c.state ≠ .destroyed)
    (filled : c.pool ≠ [] → P c)
    (again : c.pool = [] → c.attempts < c.rules.retryCount →
      P { c with
        attempts := c.attempts + 1
        state := .idle
        changed := true
        idleTimer := c.idleTimer.restart now
        retryTimer := c.retryTimer.restart now
        fillPending := true
        outbox := c.outbox ++ ((if c.state = .idle then [] else [.emit (.state .idle)])
          ++ [.emit (.reconnect (c.attempts + 1))]) })
    (exhausted : c.pool = [] → ¬ c.attempts < c.rules.retryCount →
      P ((c.log (.serverUnreachable c.attempts)).destroy (some (.serverUnreachable c.attempts)))) :
    P (c.retryExpired now) := by
  revert hdone
  refine retryExpired_outcomes (P := fun c' => c'.isCrashed = false → P c') now hlive ?_ ?_ ?_ ?_ ?_
  · exact fun hpool _ => filled hpool
  · intro hpool hleft _
    simpa only [reconnecting, retrying, List.append_assoc] using again hpool hleft
  · exact fun hpool hleft _ => exhausted hpool hleft
  · exact fun _ _ _ hdone => Bool.noConfusion hdone
  · exact fun _ _ _ hdone => Bool.noConfusion hdone

end RelayTunnel.Cluster
