import RelayTunnel.Proofs.Cluster.Destruction

/-!
# Clusters that crash

A cluster crashes over a deadline that the clock cannot show, and over nothing else
(`isCrashed_notice_iff`, `isCrashed_retryExpired`). So a turn whose deadlines can all be shown comes to its
end (`Reachable.takes`). Up to a crash, a turn has published nothing and answered no one (`Silent`).

`Found` lists the states in which a cluster can be found for good or between two turns, those in which it
has crashed included.
-/

set_option autoImplicit false

namespace RelayTunnel

namespace Cluster

/-! ## The delays of the timers -/

/-- The timers have the delays of the configuration. -/
structure Delayed (config : Config) (c : Cluster) : Prop where
  idle : c.idleTimer.delay = config.idleTimeout
  retry : c.retryTimer.delay = config.retryDelay

namespace Delayed

variable {config : Config} {c : Cluster}

/-- Ending a cluster stops its timers. -/
theorem destroy (h : Delayed config c) (error : Option TunnelError) : Delayed config (c.destroy error) := by
  by_cases hstate : c.state = .destroyed
  · rwa [destroy_of_destroyed hstate]
  · rw [destroy_of_live hstate]
    exact ⟨h.idle, h.retry⟩

/-- A report arms timers and stops them, but it keeps their delays. -/
theorem heed (h : Delayed config c) (report : Report) : Delayed config (c.heed report) := by
  refine notice_outcomes (P := Delayed config) report.moment c report.id report.notice
    ?_ ?_ ?_ ?_ ?_ ?_ ?_ ?_
  · exact fun _ => h
  · exact fun _ _ => ⟨h.idle, h.retry⟩
  · intro _ _ _
    obtain ⟨state, changed, outbox, henter⟩ :=
      enter_active_eq { c.emit (.activity report.id) with idleTimer := c.idleTimer.restart report.moment }
    rw [henter]
    exact ⟨h.idle, h.retry⟩
  · exact fun _ _ => ⟨h.idle, h.retry⟩
  · intro error _ _ _
    refine Delayed.destroy ?_ _
    exact ⟨h.idle, h.retry⟩
  · exact fun _ _ _ _ _ => ⟨h.idle, h.retry⟩
  · exact fun _ _ _ => ⟨h.idle, h.retry⟩
  · exact fun _ _ _ _ _ => ⟨h.idle, h.retry⟩

/-- So do all reports of a batch, up to a crash. -/
theorem hear (h : Delayed config c) (reports : List Report) : Delayed config (c.hear reports) := by
  induction reports generalizing c with
  | nil => exact h
  | cons report reports ih =>
    cases hfirst : (c.heed report).isCrashed with
    | true =>
      rw [hear_cons_of_crashed hfirst]
      exact h.heed report
    | false =>
      rw [hear_cons hfirst]
      exact ih (h.heed report)

end Delayed

/-- No move changes the delay of a timer. -/
theorem Move.delayed {config : Config} {now : Instant} {trigger : Trigger} {c c' : Cluster}
    {added : List ClusterAction} (hmove : Move now trigger c added c') (h : Delayed config c) :
    Delayed config c' := by
  cases hmove <;> exact ⟨h.idle, h.retry⟩

/-- So none of a sequence of moves does. -/
theorem Moves.delayed {config : Config} {trigger : Trigger} {begin_ now : Instant} {c c' : Cluster}
    {new : List Record} {added : List ClusterAction} (hmoves : Moves trigger begin_ c new added now c')
    (h : Delayed config c) : Delayed config c' := by
  induction hmoves with
  | none => exact h
  | wait _ _ ih => exact ih
  | next _ hmove ih => exact hmove.delayed ih

/-- In every run, the timers have the delays of the configuration. -/
theorem Reachable.delayed {config : Config} {now : Instant} {c : Cluster} (h : Reachable config now c) :
    Delayed config c := by
  induction h with
  | start now hdone =>
    rw [start_eq hdone, publish_eq]
    exact ⟨rfl, rfl⟩
  | turn _ _ _ hlive _ htakes ih =>
    obtain ⟨_, hmoves⟩ := moves_turn hlive htakes
    exact hmoves.delayed ih

/-! ## What a cluster crashes over -/

section Causes

variable {c : Cluster} {now : Instant}

/-- To end is no danger. -/
theorem isCrashed_destroy (c : Cluster) (error : Option TunnelError) :
    (c.destroy error).isCrashed = c.isCrashed := by
  by_cases hstate : c.state = .destroyed
  · rw [destroy_of_destroyed hstate]
  · rw [destroy_of_live hstate]

/-- To become active is no danger, the idle timer having been armed before. -/
theorem isCrashed_enter_active (c : Cluster) : (c.enter .active).isCrashed = c.isCrashed := by
  obtain ⟨state, changed, outbox, henter⟩ := c.enter_active_eq
  rw [henter]

/-- A report makes a cluster crash exactly if it has to arm a timer for a deadline that the clock cannot
show: the idle timer for activity, and the retry timer for a failure that is not fatal. -/
theorem isCrashed_notice_iff (hintact : c.isCrashed = false) (now : Instant) (id : TunnelId) (n : Notice) :
    (c.notice now id n).isCrashed = true ↔ id ∈ c.pool ∧
      ((n = .activity ∧ (now.after c.idleTimer.delay).isShown = false) ∨
        ∃ error, n = .destroyed (some error) ∧ c.isFatal error = false ∧
          (now.after c.retryTimer.delay).isShown = false) := by
  have hgoes : ¬ c.isCrashed = true := by simp [hintact]
  refine notice_outcomes
    (P := fun c' => c'.isCrashed = true ↔ id ∈ c.pool ∧
      ((n = .activity ∧ (now.after c.idleTimer.delay).isShown = false) ∨
        ∃ error, n = .destroyed (some error) ∧ c.isFatal error = false ∧
          (now.after c.retryTimer.delay).isShown = false))
    now c id n ?_ ?_ ?_ ?_ ?_ ?_ ?_ ?_
  · exact fun hmem => iff_of_false hgoes fun h => hmem h.1
  · rintro _ rfl
    exact iff_of_false hgoes (by simp)
  · rintro _ rfl hshown
    rw [isCrashed_enter_active]
    exact iff_of_false hgoes (by simp [hshown])
  · rintro _ rfl
    exact iff_of_false hgoes (by simp)
  · rintro error _ rfl hfatal
    rw [isCrashed_destroy]
    exact iff_of_false hgoes (by simp [hfatal])
  · rintro error _ rfl _ hshown
    exact iff_of_false hgoes (by simp [hshown])
  · rintro hmem rfl hhidden
    exact iff_of_true rfl ⟨hmem, Or.inl ⟨rfl, hhidden⟩⟩
  · rintro error hmem rfl hfatal hhidden
    exact iff_of_true rfl ⟨hmem, Or.inr ⟨error, rfl, hfatal, hhidden⟩⟩

/-- A retry whose deadlines the clock can show does not make a cluster crash. -/
theorem isCrashed_retryExpired (hintact : c.isCrashed = false) (hlive : c.state ≠ .destroyed)
    (hidle : (now.after c.idleTimer.delay).isShown = true)
    (hretry : (now.after c.retryTimer.delay).isShown = true) :
    (c.retryExpired now).isCrashed = false := by
  refine retryExpired_outcomes (P := fun c' => c'.isCrashed = false) now hlive ?_ ?_ ?_ ?_ ?_
  · exact fun _ => hintact
  · exact fun _ _ => hintact
  · intro _ _
    rw [isCrashed_destroy]
    exact hintact
  · exact fun _ _ hhidden => absurd (hidle.symm.trans hhidden) Bool.noConfusion
  · exact fun _ _ hhidden => absurd (hretry.symm.trans hhidden) Bool.noConfusion

/-- A request to end is no danger. -/
theorem isCrashed_endRequested (hintact : c.isCrashed = false) (now : Instant)
    (error : Option TunnelError) : (c.react now (.endRequested error)).isCrashed = false := by
  show ((c.destroy error).publish.act .acknowledge).isCrashed = false
  rw [act, isCrashed_publish, isCrashed_destroy]
  exact hintact

/-- Nor is the expiry of the idle timer. -/
theorem isCrashed_idleExpired (hintact : c.isCrashed = false) (now : Instant) :
    (c.react now .idleExpired).isCrashed = false := by
  show (idleExpired _).isCrashed = false
  by_cases hstate : c.state = .active
  · rw [idleExpired_of_active (by exact hstate), enter_idle_of_active (by exact hstate), shrink_eq]
    exact hintact
  · rw [idleExpired_of_not_active (by exact hstate)]
    exact hintact

end Causes

/-! ## Turns that come to their end -/

/-- Whether the clock can show both deadlines of timers that are armed at a moment. -/
structure Fitting (config : Config) (now : Instant) : Prop where
  idle : (now.after config.idleTimeout).isShown = true
  retry : (now.after config.retryDelay).isShown = true

/-- What fits at a moment has fitted before. -/
theorem Fitting.earlier {config : Config} {now later : Instant} (h : Fitting config later)
    (hlater : now.notAfter later = true) : Fitting config now :=
  ⟨Instant.isShown_of_le h.idle (of_decide_eq_true (Instant.after_notAfter hlater _)),
    Instant.isShown_of_le h.retry (of_decide_eq_true (Instant.after_notAfter hlater _))⟩

/-- The last report of some is heard last. -/
theorem notAfter_lastMoment {begin_ : Instant} {reports : List Report} (h : InTurn begin_ reports) :
    begin_.notAfter (lastMoment begin_ reports) = true := by
  induction reports generalizing begin_ with
  | nil => exact Instant.notAfter_refl _
  | cons report reports ih =>
    obtain ⟨hfirst, hrest⟩ := h
    exact Instant.notAfter_trans hfirst (ih hrest)

/-- A cluster does not crash over reports whose deadlines the clock can show. -/
theorem isCrashed_hear {config : Config} {begin_ : Instant} {reports : List Report} {c : Cluster}
    (hintact : c.isCrashed = false) (hdelayed : Delayed config c) (hturn : InTurn begin_ reports)
    (hfits : Fitting config (lastMoment begin_ reports)) : (c.hear reports).isCrashed = false := by
  induction reports generalizing c begin_ with
  | nil => exact hintact
  | cons report reports ih =>
    obtain ⟨_, hrest⟩ := hturn
    have hnow : Fitting config report.moment := hfits.earlier (notAfter_lastMoment hrest)
    have hfirst : (c.heed report).isCrashed = false := by
      rw [← Bool.not_eq_true]
      intro hcrashed
      obtain ⟨_, ⟨_, hhidden⟩ | ⟨_, _, _, hhidden⟩⟩ :=
        (isCrashed_notice_iff hintact report.moment report.id report.notice).mp hcrashed
      · rw [hdelayed.idle, hnow.idle] at hhidden
        cases hhidden
      · rw [hdelayed.retry, hnow.retry] at hhidden
        cases hhidden
    rw [hear_cons hfirst]
    exact ih hfirst (hdelayed.heed report) hrest hfits

/-- A turn comes to its end if the clock can show the deadlines of timers that are armed at its end. -/
theorem Reachable.takes {config : Config} {now later : Instant} {c : Cluster} {trigger : Trigger}
    (hrun : Reachable config now c) (hlive : c.state ≠ .destroyed) (hadmits : c.Admits later trigger)
    (hfits : Fitting config (trigger.ends later)) : c.Takes later trigger := by
  have hintact := hrun.intact
  have hdelayed := hrun.delayed
  refine ⟨hadmits, (isCrashed_turn c later trigger).trans ?_⟩
  cases trigger with
  | endRequested error => exact isCrashed_endRequested hintact later error
  | abandoned => exact (isCrashed_destroy c none).trans hintact
  | noticed reports => exact isCrashed_hear hintact hdelayed hadmits.2 hfits
  | idleExpired => exact isCrashed_idleExpired hintact later
  | retryExpired =>
    refine isCrashed_retryExpired (by exact hintact) (by exact hlive) ?_ ?_
    · rw [hdelayed.idle]
      exact hfits.idle
    · show (later.after c.retryTimer.delay).isShown = true
      rw [hdelayed.retry]
      exact hfits.retry

/-! ## What a crash leaves behind -/

/-- What changes neither what is published nor who is answered. -/
structure Silent (c c' : Cluster) : Prop where
  snapshot : c'.snapshot = c.snapshot
  unanswered : .acknowledge ∈ c'.outbox → .acknowledge ∈ c.outbox

namespace Silent

/-- To do nothing is silent. -/
theorem refl (c : Cluster) : Silent c c := ⟨rfl, id⟩

/-- Two silent changes are a silent one. -/
theorem trans {c₁ c₂ c₃ : Cluster} (h₁ : Silent c₁ c₂) (h₂ : Silent c₂ c₃) : Silent c₁ c₃ :=
  ⟨h₂.snapshot.trans h₁.snapshot, fun h => h₁.unanswered (h₂.unanswered h)⟩

/-- Actions other than an answer are silent. -/
theorem of_added {c c' : Cluster} {added : List ClusterAction} (hsnapshot : c'.snapshot = c.snapshot)
    (hout : c'.outbox = c.outbox ++ added) (hadded : .acknowledge ∉ added) : Silent c c' := by
  refine ⟨hsnapshot, fun hanswer => ?_⟩
  rw [hout] at hanswer
  exact (List.mem_append.mp hanswer).resolve_right hadded

end Silent

/-- The end itself is neither published nor answered yet. -/
theorem silent_destroy (c : Cluster) (error : Option TunnelError) : Silent c (c.destroy error) := by
  by_cases hstate : c.state = .destroyed
  · rw [destroy_of_destroyed hstate]
    exact .refl c
  · rw [destroy_of_live hstate]
    exact .of_added rfl rfl (by simp [releases])

/-- Becoming active is not published yet. -/
theorem silent_enter_active (c : Cluster) : Silent c (c.enter .active) := by
  cases hstate : c.state with
  | active => rw [enter_of_same hstate]; exact .refl c
  | destroyed => rw [enter, if_pos (Or.inl hstate)]; exact .refl c
  | idle =>
    rw [enter_active_of_idle hstate]
    exact .of_added rfl rfl (by simp)

/-- A report publishes nothing and answers no one, whether the cluster crashes over it or not. -/
theorem silent_heed (c : Cluster) (report : Report) : Silent c (c.heed report) := by
  refine notice_outcomes (P := Silent c) report.moment c report.id report.notice ?_ ?_ ?_ ?_ ?_ ?_ ?_ ?_
  · exact fun _ => .refl c
  · exact fun _ _ => .of_added rfl rfl (by simp)
  · intro _ _ _
    have hreport : Silent c
        { c.emit (.activity report.id) with idleTimer := c.idleTimer.restart report.moment } :=
      .of_added rfl rfl (by simp)
    have henter := hreport.trans (silent_enter_active _)
    exact ⟨henter.snapshot, henter.unanswered⟩
  · exact fun _ _ => .of_added rfl rfl (by simp)
  · intro error _ _ _
    have hlogged : Silent c { (c.withoutTunnel report.id (some error)).log error with
        retryTimer := c.retryTimer.stop } := .of_added rfl rfl (by simp)
    exact hlogged.trans (silent_destroy _ _)
  · exact fun _ _ _ _ _ => .of_added rfl rfl (by simp)
  · exact fun _ _ _ => .of_added rfl rfl (by simp)
  · exact fun _ _ _ _ _ => .of_added rfl rfl (by simp)

/-- Nor do all reports of a batch. -/
theorem silent_hear (c : Cluster) (reports : List Report) : Silent c (c.hear reports) := by
  induction reports generalizing c with
  | nil => exact .refl c
  | cons report reports ih =>
    cases hfirst : (c.heed report).isCrashed with
    | true =>
      rw [hear_cons_of_crashed hfirst]
      exact silent_heed c report
    | false =>
      rw [hear_cons hfirst]
      exact (silent_heed c report).trans (ih _)

/-- Nor does a retry. -/
theorem silent_retryExpired {c : Cluster} (hlive : c.state ≠ .destroyed) (now : Instant) :
    Silent c (c.retryExpired now) := by
  have hstate : ClusterAction.acknowledge ∉
      if c.state = .idle then [] else [.emit (.state .idle)] := by
    split <;> simp
  have hretrying : Silent c c.retrying := .of_added rfl rfl hstate
  have hreconnecting : Silent c (c.reconnecting now) :=
    hretrying.trans (.of_added rfl rfl (by simp))
  refine retryExpired_outcomes (P := Silent c) now hlive ?_ ?_ ?_ ?_ ?_
  · exact fun _ => .refl c
  · exact fun _ _ => ⟨hreconnecting.snapshot, hreconnecting.unanswered⟩
  · intro _ _
    have hlogged : Silent c (c.log (.serverUnreachable c.attempts)) := ⟨rfl, id⟩
    exact hlogged.trans (silent_destroy _ _)
  · exact fun _ _ _ => ⟨hretrying.snapshot, hretrying.unanswered⟩
  · exact fun _ _ _ => ⟨hreconnecting.snapshot, hreconnecting.unanswered⟩

/-- A turn in which a cluster crashes publishes nothing and answers no one. -/
theorem silent_of_crashed {c : Cluster} {now : Instant} {trigger : Trigger} (hintact : c.isCrashed = false)
    (hlive : c.state ≠ .destroyed) (hcrashed : (c.turn now trigger).isCrashed = true) :
    Silent c (c.turn now trigger) := by
  rw [isCrashed_turn] at hcrashed
  rw [turn_of_crashed hcrashed]
  cases trigger with
  | endRequested error =>
    exact absurd ((isCrashed_endRequested hintact now error).symm.trans hcrashed) Bool.noConfusion
  | abandoned => exact silent_destroy c none
  | noticed reports => exact silent_hear c reports
  | idleExpired =>
    exact absurd ((isCrashed_idleExpired hintact now).symm.trans hcrashed) Bool.noConfusion
  | retryExpired =>
    have hstopped : Silent c { c with retryTimer := c.retryTimer.stop } := ⟨rfl, id⟩
    exact hstopped.trans (silent_retryExpired (by exact hlive) now)

/-- The states in which a cluster can be found: after a turn, and where it has crashed, be it at once or in
the middle of a turn. -/
inductive Found (config : Config) : Cluster → Prop where
  | settled {now : Instant} {c : Cluster} : Reachable config now c → Found config c
  | stillborn (now : Instant) : ((ofConfig config).start now).isCrashed = true →
      Found config ((ofConfig config).start now)
  | crashed {now : Instant} {c : Cluster} (later : Instant) (trigger : Trigger) :
      Reachable config now c → c.state ≠ .destroyed → now.notAfter later = true →
      c.Admits later trigger → (c.turn later trigger).isCrashed = true →
      Found config (c.turn later trigger)

/-- The longest time that an option can ask for. The clock cannot show any moment that much later. -/
def endlessTime : Duration := ⟨18446744073709551615999999999⟩

end Cluster

end RelayTunnel
