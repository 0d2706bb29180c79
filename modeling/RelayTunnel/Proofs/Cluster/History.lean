import Mathlib.Tactic.Tauto
import RelayTunnel.Proofs.Cluster.Run

/-!
# A cluster and its history

The outbox of a run is its history. `Handled` says what handling a trigger adds to it: no creation,
and one closing for each tunnel that leaves the pool. `Known` says that the tunnels marked as opened
are those of the pool whose session was reported as opened. Both hold throughout a turn, and
`Reachable.known` holds after every one.
-/

set_option autoImplicit false

namespace RelayTunnel.Cluster

/-! ## Creations and closings -/

/-- Whether an action creates a tunnel. -/
def isCreation : ClusterAction → Bool
  | .create _ => true
  | _ => false

/-- Whether an action reports that a tunnel has left the pool. -/
def isClosing : ClusterAction → Bool
  | .emit (.tunnelClosed ..) => true
  | _ => false

/-- How many tunnels are in the pool at the end of a history. -/
def poolSize (history : List ClusterAction) : Nat :=
  history.countP isCreation - history.countP isClosing

/-- Letting go of tunnels creates none. -/
theorem countP_isCreation_releases (ids : List TunnelId) : (releases ids).countP isCreation = 0 := by
  induction ids with
  | nil => rfl
  | cons id ids ih => simpa [releases, List.countP_cons, isCreation] using ih

/-- Letting go of tunnels closes each of them once. -/
theorem countP_isClosing_releases (ids : List TunnelId) :
    (releases ids).countP isClosing = ids.length := by
  induction ids with
  | nil => rfl
  | cons id ids ih =>
    simpa [releases, List.countP_cons, isClosing] using ih

/-- What handling a trigger can do: the rules and the next number stay, no tunnel is created, and
every tunnel that leaves the pool is reported. -/
structure Handled (c c' : Cluster) : Prop where
  rules : c'.rules = c.rules
  nextId : c'.nextId = c.nextId
  history : ∃ added, c'.outbox = c.outbox ++ added ∧ added.countP isCreation = 0 ∧
    added.countP isClosing + c'.pool.length = c.pool.length

namespace Handled

/-- To do nothing is to handle something. -/
theorem refl (c : Cluster) : Handled c c := ⟨rfl, rfl, [], by simp⟩

/-- What is handled in two steps is handled. -/
theorem trans {c₁ c₂ c₃ : Cluster} (h₁ : Handled c₁ c₂) (h₂ : Handled c₂ c₃) : Handled c₁ c₃ := by
  obtain ⟨added₁, hout₁, hnone₁, hclosed₁⟩ := h₁.history
  obtain ⟨added₂, hout₂, hnone₂, hclosed₂⟩ := h₂.history
  refine ⟨h₂.rules.trans h₁.rules, h₂.nextId.trans h₁.nextId, added₁ ++ added₂, ?_, ?_, ?_⟩
  · rw [hout₂, hout₁, List.append_assoc]
  · rw [List.countP_append, hnone₁, hnone₂]
  · rw [List.countP_append]
    omega

/-- A report that leaves the pool alone is handled, whatever becomes of the timers, the log and the
flags. -/
theorem of_report {c c' : Cluster} {added : List ClusterAction} (hrules : c'.rules = c.rules)
    (hnext : c'.nextId = c.nextId) (hpool : c'.pool = c.pool) (hout : c'.outbox = c.outbox ++ added)
    (hcreated : added.countP isCreation = 0) (hclosed : added.countP isClosing = 0) :
    Handled c c' :=
  ⟨hrules, hnext, added, hout, hcreated, by rw [hpool, hclosed, Nat.zero_add]⟩

end Handled

/-- A cluster may shrink while it handles something. -/
theorem handled_shrink (keep : Nat) (c : Cluster) : Handled c (c.shrink keep) := by
  rw [shrink_eq]
  refine ⟨rfl, rfl, releases (c.pool.drop keep).reverse, rfl, countP_isCreation_releases _, ?_⟩
  simp only [countP_isClosing_releases, List.length_reverse, List.length_drop, List.length_take]
  omega

/-- It may become active. -/
theorem handled_enter_active (c : Cluster) : Handled c (c.enter .active) := by
  cases hstate : c.state with
  | active => rw [enter_of_same hstate]; exact .refl c
  | destroyed => rw [enter, if_pos (Or.inl hstate)]; exact .refl c
  | idle =>
    rw [enter_active_of_idle hstate]
    exact .of_report rfl rfl rfl rfl rfl rfl

/-- It may become idle. -/
theorem handled_enter_idle (c : Cluster) : Handled c (c.enter .idle) := by
  cases hstate : c.state with
  | idle => rw [enter_of_same hstate]; exact .refl c
  | destroyed => rw [enter, if_pos (Or.inl hstate)]; exact .refl c
  | active =>
    rw [enter_idle_of_active hstate]
    exact (handled_shrink 1 c).trans (.of_report rfl rfl rfl rfl rfl rfl)

/-- It may end. -/
theorem handled_destroy (c : Cluster) (error : Option TunnelError) :
    Handled c (c.destroy error) := by
  by_cases hstate : c.state = .destroyed
  · rw [destroy_of_destroyed hstate]
    exact .refl c
  · rw [destroy_of_live hstate]
    refine ⟨rfl, rfl, _, rfl, ?_, ?_⟩
    · simp [List.countP_append, countP_isCreation_releases, isCreation]
    · simp [List.countP_append, countP_isClosing_releases, isClosing]

/-- It may publish. -/
theorem handled_publish (c : Cluster) : Handled c c.publish := by
  rw [publish_eq]
  exact .of_report rfl rfl rfl (List.append_nil _).symm rfl rfl

/-- It may lose a tunnel of its pool, which it reports. -/
theorem handled_withoutTunnel {c : Cluster} {id : TunnelId} (h : id ∈ c.pool)
    (error : Option TunnelError) : Handled c (c.withoutTunnel id error) := by
  refine ⟨rfl, rfl, [.emit (.tunnelClosed id error)], rfl, rfl, ?_⟩
  have hlength := List.length_erase_of_mem h
  have hpos := List.length_pos_of_mem h
  simp only [withoutTunnel, List.countP_singleton, isClosing, if_true]
  omega

/-- Every report is handled in this way. -/
theorem handled_notice {now : Instant} {c : Cluster} {id : TunnelId} {n : Notice}
    (hdone : (c.notice now id n).isCrashed = false) : Handled c (c.notice now id n) := by
  refine notice_cases (P := Handled c) hdone ?_ ?_ ?_ ?_ ?_ ?_
  · intro _
    exact .refl c
  · intro _ _
    exact .of_report rfl rfl rfl rfl rfl rfl
  · intro _ _
    have hreport : Handled c { c.emit (.activity id) with idleTimer := c.idleTimer.restart now } :=
      .of_report rfl rfl rfl rfl rfl rfl
    have henter := hreport.trans (handled_enter_active _)
    exact ⟨henter.rules, henter.nextId, henter.history⟩
  · intro hmem _
    have hleft := handled_withoutTunnel hmem none
    exact ⟨hleft.rules, hleft.nextId, hleft.history⟩
  · intro error hmem _ _
    have hleft := handled_withoutTunnel hmem (some error)
    have hlogged : Handled c { (c.withoutTunnel id (some error)).log error with
        retryTimer := c.retryTimer.stop } := ⟨hleft.rules, hleft.nextId, hleft.history⟩
    exact hlogged.trans (handled_destroy _ _)
  · intro error hmem _ _
    have hleft := handled_withoutTunnel hmem (some error)
    exact ⟨hleft.rules, hleft.nextId, hleft.history⟩

/-- So are all reports of a batch. -/
theorem handled_hear {c : Cluster} {reports : List Report} (hdone : (c.hear reports).isCrashed = false) :
    Handled c (c.hear reports) :=
  hear_induction (P := Handled c) (fun _ _ h hdone => h.trans (handled_notice hdone)) hdone (.refl c)

/-- So is a retry. -/
theorem handled_retryExpired {now : Instant} {c : Cluster}
    (hdone : (c.retryExpired now).isCrashed = false) : Handled c (c.retryExpired now) := by
  by_cases hstate : c.state = .destroyed
  · rw [retryExpired, if_pos (Or.inr hstate)]
    exact .refl c
  · refine retryExpired_cases (P := Handled c) hdone hstate ?_ ?_ ?_
    · intro _
      exact .refl c
    · intro _ _
      refine .of_report rfl rfl rfl rfl ?_ ?_
      · split <;> rfl
      · split <;> rfl
    · intro _ _
      have hlogged : Handled c (c.log (.serverUnreachable c.attempts)) :=
        .of_report rfl rfl rfl (List.append_nil _).symm rfl rfl
      exact hlogged.trans (handled_destroy _ _)

/-- Handling a trigger creates no tunnel. -/
theorem handled_react {c : Cluster} {now : Instant} {trigger : Trigger}
    (hdone : (c.react now trigger).isCrashed = false) : Handled c (c.react now trigger) := by
  cases trigger with
  | endRequested error =>
    have hended := (handled_destroy c error).trans (handled_publish _)
    exact hended.trans (.of_report rfl rfl rfl rfl rfl rfl)
  | abandoned => exact handled_destroy c none
  | noticed reports => exact handled_hear hdone
  | idleExpired =>
    have hstopped : Handled c { c with idleTimer := c.idleTimer.stop } :=
      .of_report rfl rfl rfl (List.append_nil _).symm rfl rfl
    refine hstopped.trans ?_
    show Handled _ (idleExpired _)
    by_cases hstate : c.state = .active
    · rw [idleExpired_of_active (by exact hstate)]
      exact handled_enter_idle _
    · rw [idleExpired_of_not_active (by exact hstate)]
      exact .refl _
  | retryExpired =>
    have hstopped : Handled c { c with retryTimer := c.retryTimer.stop } :=
      .of_report rfl rfl rfl (List.append_nil _).symm rfl rfl
    exact hstopped.trans (handled_retryExpired hdone)

/-! ## What a cluster knows about its tunnels -/

/-- The pool has no tunnel twice, its numbers have been given out, and the tunnels marked as opened
are those of the pool whose session was reported as opened. -/
structure Known (c : Cluster) : Prop where
  nodup : c.pool.Nodup
  fresh : ∀ id ∈ c.pool, id < c.nextId
  opened_pooled : ∀ id ∈ c.opened, id ∈ c.pool
  connected_fresh : ∀ id, .emit (.connect id) ∈ c.outbox → id < c.nextId
  opened_iff : ∀ id ∈ c.pool, (id ∈ c.opened ↔ .emit (.connect id) ∈ c.outbox)

/-- Letting go of tunnels opens no session. -/
theorem connect_not_mem_releases (id : TunnelId) (ids : List TunnelId) :
    .emit (.connect id) ∉ releases ids := by
  simp [releases]

namespace Known

variable {c c' : Cluster}

/-- Tunnels may leave the pool if they lose their mark and nothing is reported as opened. -/
theorem of_sublist (h : Known c) (hnext : c'.nextId = c.nextId) (hpool : c'.pool.Sublist c.pool)
    (hopened : ∀ id, id ∈ c'.opened ↔ id ∈ c.opened ∧ id ∈ c'.pool)
    (hconnect : ∀ id, .emit (.connect id) ∈ c'.outbox ↔ .emit (.connect id) ∈ c.outbox) :
    Known c' where
  nodup := h.nodup.sublist hpool
  fresh id hid := hnext ▸ h.fresh id (hpool.subset hid)
  opened_pooled id hid := ((hopened id).mp hid).2
  connected_fresh id hid := hnext ▸ h.connected_fresh id ((hconnect id).mp hid)
  opened_iff id hid := by
    rw [hopened, hconnect, ← h.opened_iff id (hpool.subset hid)]
    exact and_iff_left hid

/-- Reports that leave the pool alone and announce no session. -/
theorem of_report {added : List ClusterAction} (h : Known c) (hnext : c'.nextId = c.nextId)
    (hpool : c'.pool = c.pool) (hopened : c'.opened = c.opened)
    (hout : c'.outbox = c.outbox ++ added) (hadded : ∀ id, .emit (.connect id) ∉ added) : Known c' := by
  refine h.of_sublist hnext (hpool ▸ List.Sublist.refl _) ?_ ?_
  · intro id
    rw [hopened, hpool]
    exact ⟨fun hid => ⟨hid, h.opened_pooled id hid⟩, And.left⟩
  · intro id
    rw [hout, List.mem_append]
    exact or_iff_left (hadded id)

/-- A cluster that shrinks knows its tunnels still. -/
theorem shrink (h : Known c) (keep : Nat) : Known (c.shrink keep) := by
  rw [shrink_eq]
  refine h.of_sublist rfl (List.take_sublist keep c.pool) ?_ ?_
  · intro id
    have hsplit := List.take_append_drop keep c.pool
    have hnodup := h.nodup
    rw [← hsplit, List.nodup_append] at hnodup
    simp only [List.mem_filter, List.mem_reverse, decide_eq_true_eq]
    refine and_congr_right fun hid => ?_
    have hmem := h.opened_pooled id hid
    rw [← hsplit, List.mem_append] at hmem
    constructor
    · intro hdrop
      exact hmem.resolve_right hdrop
    · intro htake hdrop
      exact hnodup.2.2 id htake id hdrop rfl
  · intro id
    simp [connect_not_mem_releases]

/-- So does one that becomes active. -/
theorem enter_active (h : Known c) : Known (c.enter .active) := by
  cases hstate : c.state with
  | active => rwa [enter_of_same hstate]
  | destroyed => rwa [Cluster.enter, if_pos (Or.inl hstate)]
  | idle =>
    rw [enter_active_of_idle hstate]
    exact h.of_report rfl rfl rfl rfl (by simp)

/-- So does one that becomes idle. -/
theorem enter_idle (h : Known c) : Known (c.enter .idle) := by
  cases hstate : c.state with
  | idle => rwa [enter_of_same hstate]
  | destroyed => rwa [Cluster.enter, if_pos (Or.inl hstate)]
  | active =>
    rw [enter_idle_of_active hstate]
    exact (h.shrink 1).of_report rfl rfl rfl rfl (by simp)

/-- So does one that ends. -/
theorem destroy (h : Known c) (error : Option TunnelError) : Known (c.destroy error) := by
  by_cases hstate : c.state = .destroyed
  · rwa [destroy_of_destroyed hstate]
  · rw [destroy_of_live hstate]
    refine h.of_sublist rfl (List.nil_sublist _) ?_ ?_
    · intro id
      have := h.opened_pooled id
      simpa using this
    · intro id
      simp [connect_not_mem_releases]

/-- So does one that publishes. -/
theorem publish (h : Known c) : Known c.publish := by
  rw [publish_eq]
  exact h.of_report rfl rfl rfl (List.append_nil _).symm (by simp)

/-- A tunnel that leaves the pool is marked as opened no more. -/
theorem withoutTunnel (h : Known c) (id : TunnelId) (error : Option TunnelError) :
    Known (c.withoutTunnel id error) := by
  refine h.of_sublist rfl List.erase_sublist ?_ ?_
  · intro x
    have hpooled := h.opened_pooled x
    simp only [Cluster.withoutTunnel, List.mem_filter, h.nodup.mem_erase_iff, bne_iff_ne]
    tauto
  · intro x
    simp [Cluster.withoutTunnel]

/-- A tunnel of the pool that opens its session is marked and reported. -/
theorem connected {id : TunnelId} (h : Known c) (hmem : id ∈ c.pool) (hnext : c'.nextId = c.nextId)
    (hpool : c'.pool = c.pool)
    (hopened : c'.opened = if id ∈ c.opened then c.opened else c.opened ++ [id])
    (hout : c'.outbox = c.outbox ++ [.emit (.connect id)]) : Known c' := by
  have hmark : ∀ x, x ∈ c'.opened ↔ x ∈ c.opened ∨ x = id := by
    intro x
    rw [hopened]
    split
    · next hid => exact ⟨Or.inl, fun hx => hx.elim (fun hx => hx) (fun hx => hx ▸ hid)⟩
    · simp
  have hreport : ∀ x, .emit (.connect x) ∈ c'.outbox ↔ .emit (.connect x) ∈ c.outbox ∨ x = id := by
    intro x
    simp [hout]
  constructor
  · exact hpool ▸ h.nodup
  · exact hpool ▸ hnext ▸ h.fresh
  · intro x hx
    rw [hpool]
    rcases (hmark x).mp hx with hx | rfl
    · exact h.opened_pooled x hx
    · exact hmem
  · intro x hx
    rw [hnext]
    rcases (hreport x).mp hx with hx | rfl
    · exact h.connected_fresh x hx
    · exact h.fresh x hmem
  · intro x hx
    rw [hmark, hreport, h.opened_iff x (hpool ▸ hx)]

/-- Every report leaves the marks right. -/
theorem notice {now : Instant} {id : TunnelId} {n : Notice} (h : Known c)
    (hdone : (c.notice now id n).isCrashed = false) : Known (c.notice now id n) := by
  refine notice_cases (P := Known) hdone ?_ ?_ ?_ ?_ ?_ ?_
  · intro _
    exact h
  · intro hmem _
    exact h.connected hmem rfl rfl rfl rfl
  · intro _ _
    have hreport : Known { c.emit (.activity id) with idleTimer := c.idleTimer.restart now } :=
      h.of_report rfl rfl rfl rfl (by simp)
    exact hreport.enter_active.of_report rfl rfl rfl (List.append_nil _).symm (by simp)
  · intro _ _
    exact (h.withoutTunnel id none).of_report rfl rfl rfl (List.append_nil _).symm (by simp)
  · intro error _ _ _
    refine Known.destroy ?_ _
    exact (h.withoutTunnel id _).of_report rfl rfl rfl (List.append_nil _).symm (by simp)
  · intro error _ _ _
    exact (h.withoutTunnel id _).of_report rfl rfl rfl (List.append_nil _).symm (by simp)

/-- So do all reports of a batch. -/
theorem hear {reports : List Report} (h : Known c) (hdone : (c.hear reports).isCrashed = false) :
    Known (c.hear reports) :=
  hear_induction (P := Known) (fun _ _ h hdone => h.notice hdone) hdone h

/-- So does a retry. -/
theorem retryExpired {now : Instant} (h : Known c) (hdone : (c.retryExpired now).isCrashed = false) :
    Known (c.retryExpired now) := by
  by_cases hstate : c.state = .destroyed
  · rwa [Cluster.retryExpired, if_pos (Or.inr hstate)]
  · refine retryExpired_cases (P := Known) hdone hstate ?_ ?_ ?_
    · intro _
      exact h
    · intro _ _
      exact h.of_report rfl rfl rfl rfl (by intro id; split <;> simp)
    · intro _ _
      refine Known.destroy ?_ _
      exact h.of_report rfl rfl rfl (List.append_nil _).symm (by simp)

/-- So does the reaction of a turn. -/
theorem react {now : Instant} {trigger : Trigger} (h : Known c)
    (hdone : (c.react now trigger).isCrashed = false) : Known (c.react now trigger) := by
  cases trigger with
  | endRequested error =>
    exact (h.destroy error).publish.of_report rfl rfl rfl rfl (by simp)
  | abandoned => exact h.destroy none
  | noticed reports => exact h.hear hdone
  | idleExpired =>
    have hstopped : Known { c with idleTimer := c.idleTimer.stop } :=
      h.of_report rfl rfl rfl (List.append_nil _).symm (by simp)
    show Known (idleExpired _)
    by_cases hstate : c.state = .active
    · rw [idleExpired_of_active (by exact hstate)]
      exact hstopped.enter_idle
    · rwa [idleExpired_of_not_active (by exact hstate)]
  | retryExpired =>
    have hstopped : Known { c with retryTimer := c.retryTimer.stop } :=
      h.of_report rfl rfl rfl (List.append_nil _).symm (by simp)
    exact hstopped.retryExpired hdone

/-- New tunnels have new numbers and are not opened yet. -/
theorem fill (h : Known c) : Known c.fill := by
  by_cases hstate : c.state = .destroyed
  · rwa [fill_of_destroyed hstate]
  · rw [fill_of_live hstate]
    constructor
    · refine List.nodup_append.mpr ⟨h.nodup, List.nodup_range', ?_⟩
      intro x hx y hy
      exact Nat.ne_of_lt (Nat.lt_of_lt_of_le (h.fresh x hx) (List.mem_range'_1.mp hy).1)
    · intro x hx
      rcases List.mem_append.mp hx with hx | hx
      · exact Nat.lt_add_right _ (h.fresh x hx)
      · exact (List.mem_range'_1.mp hx).2
    · intro x hx
      exact List.mem_append_left _ (h.opened_pooled x hx)
    · intro x hx
      exact Nat.lt_add_right _ (h.connected_fresh x (by simpa using hx))
    · intro x hx
      simp only [List.mem_append, List.mem_map, reduceCtorEq, and_false, exists_false, or_false]
      rcases List.mem_append.mp hx with hx | hx
      · exact h.opened_iff x hx
      · have hge := (List.mem_range'_1.mp hx).1
        constructor
        · intro hopened
          exact absurd (h.fresh x (h.opened_pooled x hopened)) (Nat.not_lt.mpr hge)
        · intro hconnect
          exact absurd (h.connected_fresh x hconnect) (Nat.not_lt.mpr hge)

/-- The end of a turn leaves the marks right. -/
theorem settle (h : Known c) : Known c.settle := by
  refine settle_induction (P := Known) ?_ ?_ ?_
  · intro _
    refine Known.fill ?_
    exact h.of_report rfl rfl rfl (List.append_nil _).symm (by simp)
  · intro _
    exact h
  · intro _ h'
    exact h'.publish

end Known

/-- A cluster that has just been started has marked no tunnel. -/
theorem known_start {config : Config} {now : Instant}
    (hdone : ((ofConfig config).start now).isCrashed = false) : Known ((ofConfig config).start now) := by
  rw [start_eq hdone]
  refine Known.publish ?_
  constructor <;> simp [ofConfig]

namespace Reachable

variable {config : Config} {now : Instant} {c : Cluster}

/-- In every run, the marks are right. -/
theorem known (h : Reachable config now c) : Known c := by
  induction h with
  | start _ hdone => exact known_start hdone
  | turn _ _ _ _ _ htakes ih =>
    rw [htakes.turn_eq]
    exact (ih.react htakes.react).settle

/-- After every turn, nothing is left to be filled. -/
theorem fillPending (h : Reachable config now c) : c.fillPending = false := by
  cases h with
  | start _ hdone => rw [start_eq hdone, publish_eq]; rfl
  | turn _ _ _ _ _ htakes => rw [htakes.turn_eq, fillPending_settle]

end Reachable

end RelayTunnel.Cluster
