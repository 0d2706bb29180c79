import RelayTunnel.Proofs.Cluster.Crashes
import RelayTunnel.Proofs.Cluster.RetryBudget

/-!
# What ends a cluster

`ReasonToEnd` lists the reasons for which a cluster ends: it is asked to, nobody holds on to it, a
tunnel of the pool fails in a way that is not forgiven, or the retries are used up. A turn ends the
cluster exactly if it handles one of them, and the end carries the error of the first
(`reachable_ends`). Any other failure of a tunnel of the pool leaves the cluster alive and arms the
retry timer anew, and it stays so until a tunnel opens its session or the cluster ends. If the clock cannot
show the deadline, the cluster crashes instead, which a usable configuration does not exclude
(`patientCluster_unarmed`).
-/

set_option autoImplicit false

namespace RelayTunnel.Cluster

/-! ## Reasons -/

/-- Whether an error of a tunnel is not forgiven: the relay rejects the session, or it has ended one
and the configuration takes that for fatal. -/
def Unforgiven (config : Config) (error : TunnelError) : Prop :=
  error.code = .forbidden ∨ (error.code = .serverDisconnect ∧ config.disconnectIsFatal = true)

/-- Whether a report is a reason to end, to a cluster as it stands: the cluster has not crashed, and a tunnel
of its pool has failed in a way that is not forgiven. -/
def Dooms (config : Config) (c : Cluster) (error : TunnelError) (report : Report) : Prop :=
  c.isCrashed = false ∧ report.id ∈ c.pool ∧ report.notice = .destroyed (some error) ∧
    Unforgiven config error

/-- Whether a report says that a tunnel of the pool has opened its session. -/
def Reconnects (c : Cluster) (report : Report) : Prop :=
  report.id ∈ c.pool ∧ report.notice = .connected

/-- Whether a report says that a tunnel of the pool has failed in a way that is forgiven. -/
def Fails (config : Config) (c : Cluster) (report : Report) : Prop :=
  report.id ∈ c.pool ∧ ∃ error, report.notice = .destroyed (some error) ∧ ¬ Unforgiven config error

/-- The reasons for which a turn ends a cluster, each with the error that it ends with. A report is
taken as the reports before it have left the cluster. -/
inductive ReasonToEnd (config : Config) (c : Cluster) : Trigger → Option TunnelError → Prop
  | requested (error : Option TunnelError) : ReasonToEnd config c (.endRequested error) error
  | abandoned : ReasonToEnd config c .abandoned none
  | doomed (before after : List Report) (report : Report) {error : TunnelError}
      (hdooms : Dooms config (c.hear before) error report) :
      ReasonToEnd config c (.noticed (before ++ report :: after)) (some error)
  | exhausted (hpool : c.pool = []) (hspent : c.attempts = config.retryCount.toNat) :
      ReasonToEnd config c .retryExpired (some (.serverUnreachable c.attempts))

/-- By the rules of a configuration, the fatal errors are those that it does not forgive. -/
theorem isFatal_iff {config : Config} {c : Cluster} (hrules : c.rules = (ofConfig config).rules)
    (error : TunnelError) : c.isFatal error = true ↔ Unforgiven config error := by
  simp [isFatal, Unforgiven, hrules, ofConfig]

/-- An error that the configuration forgives is not fatal. -/
theorem isFatal_of_forgiven {config : Config} {c : Cluster}
    (hrules : c.rules = (ofConfig config).rules) {error : TunnelError}
    (hforgiven : ¬ Unforgiven config error) : c.isFatal error = false := by
  rw [← Bool.not_eq_true, isFatal_iff hrules]
  exact hforgiven

/-- A report gives a cluster that is gone no tunnel. -/
theorem quiet_heed {c : Cluster} {report : Report} (h : c.Quiet)
    (hdone : (c.heed report).isCrashed = false) : (c.heed report).Quiet := by
  obtain ⟨_, hmoves⟩ := moves_notice [] h hdone
  exact hmoves.quiet h

/-- Nor do all reports of a batch. -/
theorem quiet_hear {c : Cluster} {reports : List Report} (h : c.Quiet)
    (hdone : (c.hear reports).isCrashed = false) : (c.hear reports).Quiet :=
  hear_induction (P := Quiet) (fun _ _ h hdone => quiet_heed h hdone) hdone h

/-! ## Reports that end a cluster -/

section Reports

variable {config : Config} {c : Cluster}

/-- A live cluster that is asked to become active is active. -/
theorem state_enter_active (hlive : c.state ≠ .destroyed) : (c.enter .active).state = .active := by
  rcases idle_or_active hlive with hidle | hactive
  · rw [enter_active_of_idle hidle]
  · rw [enter_of_same hactive, hactive]

/-- A report ends a live cluster exactly if it dooms it. -/
theorem state_heed_iff (hrules : c.rules = (ofConfig config).rules) (hintact : c.isCrashed = false)
    (hlive : c.state ≠ .destroyed) (report : Report) :
    (c.heed report).state = .destroyed ↔ ∃ error, Dooms config c error report := by
  -- an error that is forgiven dooms no cluster
  have hforgiven : ∀ error, report.notice = .destroyed (some error) → c.isFatal error = false →
      ¬ ∃ error, Dooms config c error report := by
    rintro error hn hfatal ⟨error', _, _, hsame, hunforgiven⟩
    obtain rfl := Option.some.inj (Notice.destroyed.inj (hn.symm.trans hsame))
    exact Bool.false_ne_true (hfatal.symm.trans ((isFatal_iff hrules error).mpr hunforgiven))
  have hother : (∀ error, report.notice ≠ .destroyed (some error)) →
      ¬ ∃ error, Dooms config c error report :=
    fun hother ⟨error, _, _, hn, _⟩ => hother error hn
  refine notice_outcomes
    (P := fun c' => c'.state = .destroyed ↔ ∃ error, Dooms config c error report)
    report.moment c report.id report.notice ?_ ?_ ?_ ?_ ?_ ?_ ?_ ?_
  · exact fun hmem => iff_of_false hlive fun ⟨_, _, hpooled, _⟩ => hmem hpooled
  · exact fun _ hn => iff_of_false hlive (hother (by simp [hn]))
  · intro _ hn _
    refine iff_of_false ?_ (hother (by simp [hn]))
    rw [state_enter_active (by exact hlive)]
    exact ClusterState.noConfusion
  · exact fun _ hn => iff_of_false hlive (hother (by simp [hn]))
  · intro error hmem hn hfatal
    rw [destroy_eq_ended (by exact hlive)]
    exact iff_of_true rfl ⟨error, hintact, hmem, hn, (isFatal_iff hrules error).mp hfatal⟩
  · exact fun error _ hn hfatal _ => iff_of_false hlive (hforgiven error hn hfatal)
  · exact fun _ hn _ => iff_of_false hlive (hother (by simp [hn]))
  · exact fun error _ hn hfatal _ => iff_of_false hlive (hforgiven error hn hfatal)

/-- Reports end a live cluster exactly if one of them dooms it, even if it crashes over another. -/
theorem state_hear_iff (hrules : c.rules = (ofConfig config).rules) (hintact : c.isCrashed = false)
    (hlive : c.state ≠ .destroyed) (reports : List Report) :
    (c.hear reports).state = .destroyed ↔ ∃ before report after error,
      reports = before ++ report :: after ∧ Dooms config (c.hear before) error report := by
  induction reports generalizing c with
  | nil => exact iff_of_false hlive (by simp)
  | cons first rest ih =>
    have hfirst := state_heed_iff hrules hintact hlive first
    cases hdone : (c.heed first).isCrashed with
    | true =>
      -- nothing behind the first report is heard, so nothing there dooms the cluster
      rw [hear_cons_of_crashed hdone, hfirst]
      constructor
      · exact fun ⟨error, hdooms⟩ => ⟨[], first, rest, error, rfl, hdooms⟩
      · rintro ⟨before, report, after, error, hsplit, hdooms⟩
        cases before with
        | nil =>
          obtain ⟨rfl, _⟩ := List.cons.inj hsplit
          exact ⟨error, hdooms⟩
        | cons _ before =>
          obtain ⟨rfl, _⟩ := List.cons.inj hsplit
          rw [hear_cons_of_crashed hdone] at hdooms
          exact absurd (hdooms.1.symm.trans hdone) Bool.false_ne_true
    | false =>
      rw [hear_cons hdone]
      by_cases hended : (c.heed first).state = .destroyed
      · have hquiet := quiet_heed (fun hgone => absurd hgone hlive) hdone
        rw [hear_of_empty hdone (hquiet hended)]
        obtain ⟨error, hdooms⟩ := hfirst.mp hended
        exact iff_of_true hended ⟨[], first, rest, error, rfl, hdooms⟩
      · rw [ih (c := c.heed first) ((handled_notice hdone).rules.trans hrules) hdone hended]
        constructor
        · rintro ⟨before, report, after, error, rfl, hdooms⟩
          exact ⟨first :: before, report, after, error, rfl, (hear_cons hdone before).symm ▸ hdooms⟩
        · rintro ⟨before, report, after, error, hsplit, hdooms⟩
          cases before with
          | nil =>
            obtain ⟨rfl, _⟩ := List.cons.inj hsplit
            exact absurd (hfirst.mpr ⟨error, hdooms⟩) hended
          | cons _ before =>
            obtain ⟨rfl, hrest⟩ := List.cons.inj hsplit
            exact ⟨before, report, after, error, hrest, hear_cons hdone before ▸ hdooms⟩

/-- A report that dooms a cluster is the first that does: a cluster that has ended has no tunnels, so
nothing that is reported to it afterwards counts. -/
theorem Dooms.first {before : List Report} {report : Report} {error : TunnelError}
    (h : Dooms config (c.hear before) error report) (hrules : c.rules = (ofConfig config).rules)
    (hintact : c.isCrashed = false) (hlive : c.state ≠ .destroyed) {earlier rest : List Report}
    {other : Report} (hsplit : before = earlier ++ other :: rest) (error' : TunnelError) :
    ¬ Dooms config (c.hear earlier) error' other := by
  intro hdooms
  have hended :=
    (state_hear_iff hrules hintact hlive before).mpr ⟨earlier, other, rest, error', hsplit, hdooms⟩
  have hquiet : (c.hear before).Quiet := quiet_hear (fun hgone => absurd hgone hlive) h.1
  exact hquiet.live_of_mem h.2.1 hended

end Reports

/-! ## The error that a cluster ends with -/

/-- The errors of the ends in a history. -/
def endErrors (history : List ClusterAction) : List (Option TunnelError) :=
  (events history).filterMap fun
    | .destroyed error => some error
    | _ => none

/-- The ends of two histories stand one behind the other. -/
theorem endErrors_append (front behind : List ClusterAction) :
    endErrors (front ++ behind) = endErrors front ++ endErrors behind := by
  rw [endErrors, events_append, List.filterMap_append]
  rfl

/-- The end of a cluster announces one end, with its error. -/
theorem endErrors_farewell (c : Cluster) (error : Option TunnelError) :
    endErrors (c.farewell error) = [error] := by
  rw [endErrors, events_farewell]
  simp [List.filterMap_append, List.filterMap_map]

/-- A live cluster has announced no end. -/
theorem Orderly.endErrors_of_live {c : Cluster} (h : Orderly c) (hlive : c.state ≠ .destroyed) :
    endErrors c.outbox = [] := by
  refine List.filterMap_eq_nil_iff.mpr fun event hevent => ?_
  obtain ⟨action, haction, hemitted⟩ := List.mem_filterMap.mp hevent
  cases event with
  | destroyed error =>
    have hending := h.alive hlive action haction
    cases action with
    | emit event =>
      obtain rfl := Option.some.inj hemitted
      cases hending
    | create | release | acknowledge => cases hemitted
  | _ => rfl

/-- A cluster that is gone has nothing to do at the end of a turn. -/
theorem outbox_settle_of_destroyed {c : Cluster} (h : c.state = .destroyed) :
    c.settle.outbox = c.outbox := by
  refine settle_induction (P := fun c' => c'.outbox = c.outbox) ?_ (fun _ => rfl) ?_
  · intro _
    rw [fill_of_destroyed (by exact h)]
  · intro c' h'
    rw [publish_eq]
    exact h'

/-- A report that dooms a cluster makes it end with the error reported. -/
theorem heed_of_dooms {config : Config} {c : Cluster} {report : Report} {error : TunnelError}
    (h : Dooms config c error report) (hrules : c.rules = (ofConfig config).rules)
    (hlive : c.state ≠ .destroyed) :
    ∃ dying : Cluster, c.heed report = dying.ended (some error) ∧ dying.isCrashed = false ∧
      dying.outbox = c.outbox ++ [.emit (.tunnelClosed report.id (some error))] := by
  obtain ⟨hintact, hmem, hreport, hunforgiven⟩ := h
  have hfatal := (isFatal_iff hrules error).mpr hunforgiven
  rw [heed, hreport, notice_failed _ error hmem, tunnelFailed_of_fatal _ _ (by exact hfatal),
    destroy_eq_ended (by exact hlive)]
  exact ⟨_, rfl, hintact, rfl⟩

/-- What becomes of the state is decided before the end of the turn. -/
theorem state_turn (c : Cluster) (now : Instant) (trigger : Trigger) :
    (c.turn now trigger).state = (c.react now trigger).state := by
  cases hdone : (c.react now trigger).isCrashed with
  | true => rw [turn_of_crashed hdone]
  | false => rw [turn_eq_settle hdone, state_settle]

/-- A turn that handles a reason to end comes to its end and ends the cluster, with the error of that
reason. -/
theorem turn_of_reason {config : Config} {c : Cluster} {trigger : Trigger} {error : Option TunnelError}
    (h : ReasonToEnd config c trigger error) (horderly : Orderly c) (hintact : c.isCrashed = false)
    (hrules : c.rules = (ofConfig config).rules) (hlive : c.state ≠ .destroyed) (now : Instant) :
    (c.turn now trigger).isCrashed = false ∧ (c.turn now trigger).state = .destroyed ∧
      endErrors (c.turn now trigger).outbox = [error] := by
  -- whatever the reason, the history goes on with some actions that end nothing, and then the farewell
  suffices hreact : (c.react now trigger).isCrashed = false ∧ (c.react now trigger).state = .destroyed ∧
      endErrors (c.react now trigger).outbox = [error] by
    rw [turn_eq_settle hreact.1, isCrashed_settle, state_settle, outbox_settle_of_destroyed hreact.2.1]
    exact hreact
  have hnone := horderly.endErrors_of_live hlive
  cases h with
  | requested error =>
    rw [react, destroy_eq_ended hlive, publish_eq]
    refine ⟨hintact, rfl, ?_⟩
    show endErrors (c.outbox ++ c.farewell error ++ [.acknowledge]) = [error]
    rw [endErrors_append, endErrors_append, hnone, endErrors_farewell]
    rfl
  | abandoned =>
    rw [react, destroy_eq_ended hlive]
    refine ⟨hintact, rfl, ?_⟩
    show endErrors (c.outbox ++ c.farewell none) = [none]
    rw [endErrors_append, hnone, endErrors_farewell]
    rfl
  | @doomed before after report error hdooms =>
    have horderly' := horderly.hear hdooms.1
    have hlive' := horderly'.quiet.live_of_mem hdooms.2.1
    have hrules' := (handled_hear hdooms.1).rules.trans hrules
    obtain ⟨dying, hended, hdone, hout⟩ := heed_of_dooms hdooms hrules' hlive'
    have hheard : c.react now (.noticed (before ++ report :: after)) = dying.ended (some error) := by
      show c.hear (before ++ report :: after) = _
      rw [hear_append hdooms.1, hear_cons (by rw [hended]; exact hdone), hended,
        hear_of_empty (by exact hdone) rfl]
    rw [hheard]
    refine ⟨hdone, rfl, ?_⟩
    show endErrors (dying.outbox ++ dying.farewell (some error)) = _
    rw [hout, endErrors_append, endErrors_append, horderly'.endErrors_of_live hlive',
      endErrors_farewell]
    rfl
  | exhausted hpool hspent =>
    have hnomore : ¬ c.attempts < c.rules.retryCount := by
      rw [hspent, hrules]
      exact Nat.lt_irrefl _
    have hexpired : c.react now .retryExpired =
        (log { c with retryTimer := c.retryTimer.stop } (.serverUnreachable c.attempts)).ended
          (some (.serverUnreachable c.attempts)) := by
      show retryExpired { c with retryTimer := c.retryTimer.stop } now = _
      rw [retryExpired, if_neg (by simp [hpool, hlive]), if_neg (by exact hnomore)]
      exact destroy_eq_ended (by exact hlive) _
    rw [hexpired]
    refine ⟨hintact, rfl, ?_⟩
    show endErrors (c.outbox ++ farewell _ _) = _
    rw [endErrors_append, hnone, endErrors_farewell]
    rfl

/-- A turn that ends a cluster has handled a reason to end. -/
theorem reason_of_turn {config : Config} {c : Cluster} {now : Instant} {trigger : Trigger}
    (hrules : c.rules = (ofConfig config).rules) (hintact : c.isCrashed = false)
    (hlive : c.state ≠ .destroyed) (hwithin : c.attempts ≤ c.rules.retryCount)
    (hended : (c.turn now trigger).state = .destroyed) :
    ∃ error, ReasonToEnd config c trigger error := by
  rw [state_turn] at hended
  cases trigger with
  | endRequested error => exact ⟨error, .requested error⟩
  | abandoned => exact ⟨none, .abandoned⟩
  | noticed reports =>
    obtain ⟨before, report, after, error, rfl, hdooms⟩ :=
      (state_hear_iff hrules hintact hlive reports).mp hended
    exact ⟨some error, .doomed before after report hdooms⟩
  | idleExpired =>
    replace hended : (idleExpired { c with idleTimer := c.idleTimer.stop }).state = .destroyed := hended
    rcases idle_or_active hlive with hidle | hactive
    · rw [idleExpired_of_not_active (by simp [hidle])] at hended
      exact absurd hended hlive
    · rw [idleExpired_of_active (by exact hactive), enter_idle_of_active (by exact hactive)] at hended
      cases hended
  | retryExpired =>
    revert hended
    refine retryExpired_outcomes
      (P := fun c' => c'.state = .destroyed → ∃ error, ReasonToEnd config c .retryExpired error)
      now (by exact hlive) ?_ ?_ ?_ ?_ ?_
    · exact fun _ hended => absurd hended hlive
    · exact fun _ _ hended => ClusterState.noConfusion hended
    · intro hpool hnomore _
      have hspent : c.attempts = c.rules.retryCount :=
        Nat.le_antisymm hwithin (Nat.le_of_not_lt hnomore)
      exact ⟨_, .exhausted hpool (by rw [hspent, hrules]; rfl)⟩
    · exact fun _ _ _ hended => ClusterState.noConfusion hended
    · exact fun _ _ _ hended => ClusterState.noConfusion hended

/-! ## Failures that a cluster survives -/

/-- Becoming active leaves the retry timer alone. -/
theorem retryTimer_enter_active (c : Cluster) : (c.enter .active).retryTimer = c.retryTimer := by
  obtain ⟨state, changed, outbox, henter⟩ := c.enter_active_eq
  rw [henter]

/-- The end of a turn leaves the retry timer alone. -/
theorem retryTimer_settle (c : Cluster) : c.settle.retryTimer = c.retryTimer := by
  obtain ⟨_, _, _, _, hsettle⟩ := c.settle_keeps
  rw [hsettle]

/-- Alive, with the retry timer armed at a moment for the full delay. -/
structure Rearmed (config : Config) (armed : Instant) (c : Cluster) : Prop where
  rules : c.rules = (ofConfig config).rules
  alive : c.state ≠ .destroyed
  delayed : Delayed config c
  deadline : c.retryTimer.deadline = some (armed.after config.retryDelay)

section Survival

variable {config : Config} {c : Cluster} {armed : Instant} {report : Report}

/-- A failure that is forgiven makes the cluster crash exactly if the clock cannot show the deadline of a
retry. -/
theorem isCrashed_of_fails (hrules : c.rules = (ofConfig config).rules) (hintact : c.isCrashed = false)
    (hdelayed : Delayed config c) (h : Fails config c report) :
    (c.heed report).isCrashed = true ↔ (report.moment.after config.retryDelay).isShown = false := by
  obtain ⟨hmem, error, hn, hforgiven⟩ := h
  have hcrash : (c.heed report).isCrashed = true ↔ _ :=
    isCrashed_notice_iff hintact report.moment report.id report.notice
  rw [hcrash, hn, ← hdelayed.retry]
  constructor
  · rintro ⟨_, ⟨hactivity, _⟩ | ⟨_, _, _, hhidden⟩⟩
    · cases hactivity
    · exact hhidden
  · exact fun hhidden => ⟨hmem, Or.inr ⟨error, rfl, isFatal_of_forgiven hrules hforgiven, hhidden⟩⟩

/-- Otherwise the cluster stays alive and arms the retry timer anew. -/
theorem rearmed_of_fails (hrules : c.rules = (ofConfig config).rules) (hintact : c.isCrashed = false)
    (hlive : c.state ≠ .destroyed) (hdelayed : Delayed config c) (h : Fails config c report)
    (hdone : (c.heed report).isCrashed = false) : Rearmed config report.moment (c.heed report) := by
  have hshown : (report.moment.after c.retryTimer.delay).isShown = true := by
    rw [hdelayed.retry, ← Bool.not_eq_false, ← isCrashed_of_fails hrules hintact hdelayed h, hdone]
    exact Bool.false_ne_true
  obtain ⟨hmem, error, hn, hforgiven⟩ := h
  have hfatal := isFatal_of_forgiven hrules hforgiven
  rw [heed, hn, notice_failed _ error hmem, tunnelFailed_of_not_fatal _ (by exact hfatal) (by exact hshown)]
  exact ⟨hrules, hlive, ⟨hdelayed.idle, hdelayed.retry⟩,
    congrArg (fun delay => some (report.moment.after delay)) hdelayed.retry⟩

/-- So it stays with every report that neither ends the cluster nor opens a session, unless it is another
such failure. -/
theorem Rearmed.heed (h : Rearmed config armed c) (hintact : c.isCrashed = false)
    (hgoes : ∀ error, ¬ Dooms config c error report) (hcut : ¬ Reconnects c report)
    (hdone : (c.heed report).isCrashed = false) :
    Rearmed config armed (c.heed report) ∨
      (Fails config c report ∧ Rearmed config report.moment (c.heed report)) := by
  have halive : (c.heed report).state ≠ .destroyed := fun hended =>
    (state_heed_iff h.rules hintact h.alive report).mp hended |>.elim hgoes
  have hrules : (c.heed report).rules = (ofConfig config).rules :=
    (handled_notice hdone).rules.trans h.rules
  suffices htimer : (c.heed report).retryTimer = c.retryTimer ∨ Fails config c report by
    rcases htimer with hsame | hfails
    · exact Or.inl ⟨hrules, halive, h.delayed.heed report, hsame ▸ h.deadline⟩
    · exact Or.inr ⟨hfails, rearmed_of_fails h.rules hintact h.alive h.delayed hfails hdone⟩
  refine notice_cases (P := fun c' => c'.retryTimer = c.retryTimer ∨ Fails config c report)
    hdone ?_ ?_ ?_ ?_ ?_ ?_
  · exact fun _ => Or.inl rfl
  · exact fun hmem hopened => absurd ⟨hmem, hopened⟩ hcut
  · intro _ _
    rw [retryTimer_enter_active]
    exact Or.inl rfl
  · exact fun _ _ => Or.inl rfl
  · exact fun error hmem hn hfatal =>
      absurd ⟨hintact, hmem, hn, (isFatal_iff h.rules error).mp hfatal⟩ (hgoes error)
  · intro error hmem hn hfatal
    refine Or.inr ⟨hmem, error, hn, fun hunforgiven => ?_⟩
    exact Bool.false_ne_true (hfatal.symm.trans ((isFatal_iff h.rules error).mpr hunforgiven))

/-- So it stays with all reports of a batch, where the last failure counts. -/
theorem Rearmed.hear {reports : List Report} (h : Rearmed config armed c) (hintact : c.isCrashed = false)
    (hquiet : ∀ before report after, reports = before ++ report :: after →
      (∀ error, ¬ Dooms config (c.hear before) error report) ∧ ¬ Reconnects (c.hear before) report)
    (hdone : (c.hear reports).isCrashed = false) :
    ∃ armed', Rearmed config armed' (c.hear reports) ∧
      (armed' = armed ∨ ∃ before report after, reports = before ++ report :: after ∧
        Fails config (c.hear before) report ∧ armed' = report.moment) := by
  induction reports generalizing c armed with
  | nil => exact ⟨armed, h, Or.inl rfl⟩
  | cons first rest ih =>
    have hfirst := heed_of_hear hdone
    obtain ⟨hgoes, hcut⟩ := hquiet [] first rest rfl
    have hrest : ∀ before report after, rest = before ++ report :: after →
        (∀ error, ¬ Dooms config ((c.heed first).hear before) error report) ∧
          ¬ Reconnects ((c.heed first).hear before) report := by
      intro before report after hsplit
      rw [← hear_cons hfirst]
      exact hquiet (first :: before) report after (by rw [hsplit, List.cons_append])
    rw [hear_cons hfirst] at hdone ⊢
    -- a later failure of the rest is one of the whole
    have hlater : ∀ armed', (∃ before report after, rest = before ++ report :: after ∧
          Fails config ((c.heed first).hear before) report ∧ armed' = report.moment) →
        ∃ before report after, first :: rest = before ++ report :: after ∧
          Fails config (c.hear before) report ∧ armed' = report.moment := by
      rintro armed' ⟨before, report, after, rfl, hfails, hmoment⟩
      exact ⟨first :: before, report, after, rfl, (hear_cons hfirst before).symm ▸ hfails, hmoment⟩
    rcases h.heed hintact hgoes hcut hfirst with hsame | ⟨hfails, hanew⟩
    · obtain ⟨armed', hrearmed, hwhich⟩ := ih hsame hfirst hrest hdone
      exact ⟨armed', hrearmed, hwhich.imp_right (hlater armed')⟩
    · obtain ⟨armed', hrearmed, hwhich⟩ := ih hanew hfirst hrest hdone
      refine ⟨armed', hrearmed, Or.inr ?_⟩
      rcases hwhich with rfl | hwhich
      · exact ⟨[], first, rest, rfl, hfails, rfl⟩
      · exact hlater armed' hwhich

end Survival

/-- The end of a turn leaves the retry timer alone. -/
theorem retryTimer_turn {c : Cluster} {now : Instant} {trigger : Trigger}
    (hdone : (c.react now trigger).isCrashed = false) :
    (c.turn now trigger).retryTimer = (c.react now trigger).retryTimer := by
  rw [turn_eq_settle hdone, retryTimer_settle]

/-- A cluster ends for the listed reasons and for no others, in every run. A turn ends a live cluster
exactly if it handles a reason to end. In its whole history there is then one end, and it carries the
error of that reason; where it is a report, no report before it in the batch was a reason. Any other
failure of a tunnel of the pool leaves the cluster alive, with the retry timer armed for the full
delay, if the clock can show the deadline; so it is still after the turn, armed for the last such failure,
unless a later report of the batch opens a session, ends the cluster or makes it crash. If the clock cannot
show the deadline, the cluster crashes, and the turn stops there. Reports of tunnels that are not in the
pool change nothing. -/
theorem reachable_ends {config : Config} {now : Instant} {c : Cluster}
    (hrun : Reachable config now c) (hlive : c.state ≠ .destroyed) (later : Instant)
    (trigger : Trigger) :
    ((c.turn later trigger).state = .destroyed ↔ ∃ error, ReasonToEnd config c trigger error) ∧
    (∀ error, ReasonToEnd config c trigger error →
      endErrors (c.turn later trigger).outbox = [error]) ∧
    (∀ before report after error, trigger = .noticed (before ++ report :: after) →
      Dooms config (c.hear before) error report →
      ∀ earlier other rest error', before = earlier ++ other :: rest →
        ¬ Dooms config (c.hear earlier) error' other) ∧
    (∀ before report after, trigger = .noticed (before ++ report :: after) →
      (c.hear before).isCrashed = false → Fails config (c.hear before) report →
      let c' := (c.hear before).heed report
      c'.state ≠ .destroyed ∧
      (c'.isCrashed = true ↔ (report.moment.after config.retryDelay).isShown = false) ∧
      (c'.isCrashed = true → c.turn later trigger = c') ∧
      (c'.isCrashed = false →
        c'.retryTimer.deadline = some (report.moment.after config.retryDelay)) ∧
      ((c.turn later trigger).isCrashed = false →
        (∀ front other behind, after = front ++ other :: behind →
          (∀ error, ¬ Dooms config (c'.hear front) error other) ∧ ¬ Reconnects (c'.hear front) other) →
        (c.turn later trigger).state ≠ .destroyed ∧
          ∃ armed, (c.turn later trigger).retryTimer.deadline = some (armed.after config.retryDelay) ∧
            (armed = report.moment ∨ ∃ front other behind, after = front ++ other :: behind ∧
              Fails config (c'.hear front) other ∧ armed = other.moment))) ∧
    ∀ heard report, report.id ∉ (c.hear heard).pool → (c.hear heard).heed report = c.hear heard := by
  have hrules := hrun.rules
  have hintact := hrun.intact
  have hquiet := hrun.orderly.quiet
  obtain ⟨log, hlog⟩ := hrun.chronicle
  refine ⟨⟨?_, ?_⟩, ?_, ?_, ?_, ?_⟩
  · exact reason_of_turn hrules hintact hlive hlog.budgeted.within
  · exact fun ⟨_, hreason⟩ => (turn_of_reason hreason hrun.orderly hintact hrules hlive later).2.1
  · exact fun _ hreason => (turn_of_reason hreason hrun.orderly hintact hrules hlive later).2.2
  · exact fun _ _ _ _ _ hdooms _ _ _ error' hsplit => hdooms.first hrules hintact hlive hsplit error'
  · rintro before report after rfl hheard hfails c'
    have hrules' := (handled_hear hheard).rules.trans hrules
    have hlive' := (quiet_hear hquiet hheard).live_of_mem hfails.1
    have hdelayed := hrun.delayed.hear before
    have hreact : c.react later (.noticed (before ++ report :: after)) =
        (c.hear before).hear (report :: after) := hear_append hheard _
    have hcrash := isCrashed_of_fails hrules' hheard hdelayed hfails
    have halive : c'.state ≠ .destroyed := by
      intro hended
      obtain ⟨error, _, _, hn, hunforgiven⟩ := (state_heed_iff hrules' hheard hlive' report).mp hended
      obtain ⟨_, error', hn', hforgiven⟩ := hfails
      obtain rfl := Option.some.inj (Notice.destroyed.inj (hn.symm.trans hn'))
      exact hforgiven hunforgiven
    refine ⟨halive, hcrash, ?_, ?_, ?_⟩
    · intro hcrashed
      have hstop := hear_cons_of_crashed hcrashed after
      rw [← hreact] at hstop
      rw [turn_of_crashed (by rw [hstop]; exact hcrashed), hstop]
    · exact fun hdone => (rearmed_of_fails hrules' hheard hlive' hdelayed hfails hdone).deadline
    · intro hdone hcalm
      rw [isCrashed_turn, hreact] at hdone
      have hfirst := heed_of_hear hdone
      have hrearmed := rearmed_of_fails hrules' hheard hlive' hdelayed hfails hfirst
      rw [state_turn, retryTimer_turn (by rw [hreact]; exact hdone), hreact, hear_cons hfirst]
      rw [hear_cons hfirst] at hdone
      obtain ⟨armed, hstill, hwhich⟩ := hrearmed.hear hfirst hcalm hdone
      exact ⟨hstill.alive, armed, hstill.deadline, hwhich⟩
  · exact fun heard report hmem => notice_of_not_mem report.moment report.notice hmem

/-- A cluster with two tunnels. -/
def pairedCluster : Cluster :=
  ((ofConfig loopbackConfig).start ⟨1⟩).turn ⟨2⟩ (.noticed [⟨⟨2⟩, 1, .activity⟩])

/-- Of two tunnels the first fails in a way that is forgiven, then the session of the second is
rejected, and then the first reports a rejection too: the cluster ends with the error of the second.
If only the first fails and the second goes on, the cluster lives and waits for the full delay. -/
theorem pairedCluster_ends :
    endErrors (pairedCluster.turn ⟨3⟩ (.noticed [⟨⟨3⟩, 1, .destroyed (some .openingClosed)⟩,
        ⟨⟨3⟩, 2, .destroyed (some (.forbidden 403))⟩,
        ⟨⟨4⟩, 1, .destroyed (some (.forbidden 401))⟩])).outbox = [some (.forbidden 403)] ∧
    (pairedCluster.turn ⟨3⟩ (.noticed [⟨⟨3⟩, 1, .destroyed (some .openingClosed)⟩,
        ⟨⟨4⟩, 2, .activity⟩])).retryTimer.deadline = some ⟨1000000003⟩ := by
  have hrun : Reachable loopbackConfig ⟨2⟩ pairedCluster :=
    reachable_loopback.turn ⟨2⟩ (.noticed [⟨⟨2⟩, 1, .activity⟩])
      (by decide +kernel) (by decide) ⟨⟨List.cons_ne_nil _ _, by decide, trivial⟩, by decide +kernel⟩
  have hlive : pairedCluster.state ≠ .destroyed := by decide +kernel
  constructor
  · have hreason : ReasonToEnd loopbackConfig pairedCluster _ (some (.forbidden 403)) :=
      .doomed [⟨⟨3⟩, 1, .destroyed (some .openingClosed)⟩] [⟨⟨4⟩, 1, .destroyed (some (.forbidden 401))⟩]
        ⟨⟨3⟩, 2, .destroyed (some (.forbidden 403))⟩
        ⟨by decide +kernel, by decide +kernel, rfl, Or.inl rfl⟩
    exact (reachable_ends hrun hlive ⟨3⟩ _).2.1 _ hreason
  · have hpooled : 1 ∈ pairedCluster.pool := by decide +kernel
    have hfails : Fails loopbackConfig pairedCluster ⟨⟨3⟩, 1, .destroyed (some .openingClosed)⟩ :=
      ⟨hpooled, .openingClosed, rfl, by simp [Unforgiven, TunnelError.code]⟩
    obtain ⟨_, _, _, _, hsurvives⟩ := (reachable_ends hrun hlive ⟨3⟩ _).2.2.2.1 []
      ⟨⟨3⟩, 1, .destroyed (some .openingClosed)⟩ [⟨⟨4⟩, 2, .activity⟩] rfl (by decide +kernel) hfails
    have hsingle : ∀ front other behind,
        [(⟨⟨4⟩, 2, .activity⟩ : Report)] = front ++ other :: behind → other = ⟨⟨4⟩, 2, .activity⟩ := by
      intro front other behind hsplit
      have hmem : other ∈ [(⟨⟨4⟩, 2, .activity⟩ : Report)] := hsplit ▸ by simp
      exact List.mem_singleton.mp hmem
    obtain ⟨_, armed, hdeadline, rfl | ⟨front, other, behind, hsplit, hfails', _⟩⟩ :=
      hsurvives (by decide +kernel) fun front other behind hsplit => by
        rw [hsingle front other behind hsplit]
        exact ⟨fun _ hdooms => Notice.noConfusion hdooms.2.2.1,
          fun hopened => Notice.noConfusion hopened.2⟩
    · exact hdeadline
    · obtain ⟨_, _, hn, _⟩ := hsingle front other behind hsplit ▸ hfails'
      cases hn

/-- A usable configuration by which the relay is tried again only after the longest time. -/
def patientConfig : Config := { loopbackConfig with retryDelay := endlessTime }

/-- That configuration is valid, as no option has an upper bound. -/
theorem validate_patientConfig : patientConfig.validate = .ok ⟨"[::1]", 80, false, false, "/abc"⟩ :=
  Config.eq_ok_of_toOption (by decide +kernel)

/-- With that configuration, the first failure of a tunnel that is forgiven neither ends the cluster nor arms
its retry timer: the cluster crashes over it. -/
theorem patientCluster_unarmed :
    patientConfig.validate = .ok ⟨"[::1]", 80, false, false, "/abc"⟩ ∧
      Reachable patientConfig ⟨1⟩ ((ofConfig patientConfig).start ⟨1⟩) ∧
      Fails patientConfig ((ofConfig patientConfig).start ⟨1⟩)
        ⟨⟨2⟩, 1, .destroyed (some .openingClosed)⟩ ∧
      (((ofConfig patientConfig).start ⟨1⟩).turn ⟨2⟩
        (.noticed [⟨⟨2⟩, 1, .destroyed (some .openingClosed)⟩])).isCrashed = true ∧
      (((ofConfig patientConfig).start ⟨1⟩).turn ⟨2⟩
        (.noticed [⟨⟨2⟩, 1, .destroyed (some .openingClosed)⟩])).retryTimer.deadline = none := by
  have hpooled : 1 ∈ ((ofConfig patientConfig).start ⟨1⟩).pool := by decide +kernel
  exact ⟨validate_patientConfig, .start ⟨1⟩ (by decide +kernel),
    ⟨hpooled, .openingClosed, rfl, by simp [Unforgiven, TunnelError.code]⟩, by decide +kernel,
    by decide +kernel⟩

end RelayTunnel.Cluster
