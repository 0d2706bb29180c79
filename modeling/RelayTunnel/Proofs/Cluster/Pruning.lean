import RelayTunnel.Proofs.Cluster.Endings
import RelayTunnel.Proofs.Cluster.IdleDemotion

/-!
# The order of the pool, and what pruning does to it

The tunnels of the pool stand in the order in which they were created, and only they are marked as
opened, in the middle of a turn as well as after it (`Listed`). A cluster goes from active to idle in two
ways, when there has been no activity for a while and when the relay is tried again with an empty pool;
reports never do that. Either way the pool is pruned to its oldest tunnel (`Pruned`), and a tunnel that was
let go of is never listened to again, however the run goes on (`reachable_prunes`).
-/

set_option autoImplicit false

namespace RelayTunnel.Cluster

/-! ## The order of creation -/

/-- The tunnels that a history creates, in this order. -/
def creations (history : List ClusterAction) : List TunnelId :=
  history.filterMap fun
    | .create id => some id
    | _ => none

/-- The tunnels created in two histories stand one behind the other. -/
theorem creations_append (front behind : List ClusterAction) :
    creations (front ++ behind) = creations front ++ creations behind :=
  List.filterMap_append

/-- Creating tunnels creates just those. -/
theorem creations_map_create (ids : List TunnelId) :
    creations (ids.map ClusterAction.create) = ids := by
  simp [creations, List.filterMap_map]

/-- The pool has no tunnel twice, its tunnels stand in the order of their creation, and only they are
marked as opened. -/
structure Listed (c : Cluster) : Prop where
  nodup : c.pool.Nodup
  ordered : c.pool.Sublist (creations c.outbox)
  opened : ∀ id ∈ c.opened, id ∈ c.pool

section Order

variable {now : Instant} {trigger : Trigger} {c c' : Cluster} {added : List ClusterAction}

/-- Tunnels join the pool at its end, in the order of their creation, and leave it anywhere. -/
theorem Move.ordered (h : Move now trigger c added c')
    (hordered : c.pool.Sublist (creations c.outbox)) : c'.pool.Sublist (creations c'.outbox) := by
  rw [h.outbox, creations_append]
  have hkept : ∀ pool : List TunnelId, pool.Sublist c.pool →
      pool.Sublist (creations c.outbox ++ creations added) := fun pool hpool =>
    (hpool.trans hordered).trans (List.sublist_append_left _ _)
  cases h with
  | closed | failed | condemned => exact hkept _ List.erase_sublist
  | ended | surrendered => exact List.nil_sublist _
  | calmed => exact hkept _ (List.take_sublist 1 c.pool)
  | filled =>
    rw [creations_map_create]
    exact hordered.append (List.Sublist.refl _)
  | _ => exact hkept _ (List.Sublist.refl _)

/-- No moves bring the pool out of the order in which its tunnels were created. -/
theorem Moves.ordered {begin_ : Instant} {new : List Record} (h : Moves trigger begin_ c new added now c')
    (hordered : c.pool.Sublist (creations c.outbox)) : c'.pool.Sublist (creations c'.outbox) := by
  induction h with
  | none => exact hordered
  | wait _ _ ih => exact ih
  | next _ hmove ih => exact hmove.ordered ih

end Order

/-! ## Letting go of a tunnel -/

/-- Whether an action lets go of a certain tunnel. -/
def frees (id : TunnelId) : ClusterAction → Bool
  | .release id' => id' = id
  | _ => false

/-- Tunnels are let go of only along with a report of their closing. -/
def Paired (history : List ClusterAction) : Prop :=
  ∀ id, history.countP (frees id) ≤ history.countP (closes id)

/-- Two paired histories make one. -/
theorem Paired.append {front behind : List ClusterAction} (hfront : Paired front)
    (hbehind : Paired behind) : Paired (front ++ behind) := by
  intro id
  rw [List.countP_append, List.countP_append]
  exact Nat.add_le_add (hfront id) (hbehind id)

/-- Letting go of tunnels reports their closing along with each. -/
theorem paired_releases (ids : List TunnelId) : Paired (releases ids) := by
  induction ids with
  | nil => exact fun _ => Nat.le_refl _
  | cons id ids ih =>
    have hpair : Paired [.release id, .emit (.tunnelClosed id none)] := by
      intro id'
      simp [frees, closes, List.countP_cons]
    exact hpair.append ih

/-- Actions none of which lets go of a tunnel. -/
theorem paired_of_none {history : List ClusterAction}
    (h : ∀ action ∈ history, ∀ id, frees id action = false) : Paired history := by
  intro id
  have hnone : history.countP (frees id) = 0 :=
    List.countP_eq_zero.mpr fun action haction => by simp [h action haction id]
  rw [hnone]
  exact Nat.zero_le _

/-- The end of a cluster reports the closing along with each tunnel. -/
theorem paired_farewell (c : Cluster) (error : Option TunnelError) : Paired (c.farewell error) := by
  have hfirst : Paired [.emit (.state .destroyed)] := paired_of_none (by simp [frees])
  have hlast : Paired [.emit (.destroyed error)] := paired_of_none (by simp [frees])
  exact hfirst.append ((paired_releases _).append hlast)

section Letting

variable {now : Instant} {trigger : Trigger} {c c' : Cluster} {added : List ClusterAction}

/-- So does every move. -/
theorem Move.paired (h : Move now trigger c added c') : Paired added := by
  cases h with
  | ended | surrendered => exact paired_farewell _ _
  | calmed => exact (paired_releases _).append (paired_of_none (by simp [frees]))
  | retried =>
    refine paired_of_none ?_
    split <;> simp [frees]
  | filled => exact paired_of_none (by simp [frees])
  | _ => exact paired_of_none (by simp [frees])

/-- So do sequences of moves. -/
theorem Moves.paired {begin_ : Instant} {new : List Record} (h : Moves trigger begin_ c new added now c') :
    Paired added := by
  induction h with
  | none => exact fun _ => Nat.le_refl _
  | wait _ _ ih => exact ih
  | next _ hmove ih => exact ih.append hmove.paired

end Letting

/-! ## Every state of a run -/

section Runs

variable {config : Config} {now : Instant} {c : Cluster}

/-- In every run, the pool stands in the order in which its tunnels were created. -/
theorem Reachable.ordered (h : Reachable config now c) : c.pool.Sublist (creations c.outbox) := by
  induction h with
  | start _ hdone =>
    rw [start_eq hdone, publish_eq]
    exact List.Sublist.refl _
  | turn _ _ _ hlive _ htakes ih =>
    obtain ⟨_, hmoves⟩ := moves_turn hlive htakes
    exact hmoves.ordered ih

/-- In every run, tunnels are let go of only along with a report. -/
theorem Reachable.paired (h : Reachable config now c) : Paired c.outbox := by
  induction h with
  | start _ hdone =>
    rw [start_eq hdone, publish_eq]
    exact paired_of_none (by simp [frees])
  | turn _ _ _ hlive _ htakes ih =>
    obtain ⟨_, hmoves⟩ := moves_turn hlive htakes
    rw [hmoves.outbox]
    exact ih.append hmoves.paired

/-- In every run, the pool has no tunnel twice, and only its tunnels are marked. -/
theorem Reachable.listed (h : Reachable config now c) : Listed c :=
  ⟨h.known.nodup, h.ordered, h.known.opened_pooled⟩

/-- In the middle of a batch of reports. -/
theorem Reachable.listed_hear (h : Reachable config now c) {heard : List Report}
    (hdone : (c.hear heard).isCrashed = false) : Listed (c.hear heard) := by
  have hknown := h.known.hear hdone
  refine ⟨hknown.nodup, ?_, hknown.opened_pooled⟩
  refine (hear_induction (P := fun c' => c'.Quiet ∧ c'.pool.Sublist (creations c'.outbox)) ?_ hdone
    ⟨h.orderly.quiet, h.ordered⟩).2
  rintro c' report ⟨hquiet, hordered⟩ hreport
  obtain ⟨_, hmoves⟩ := moves_notice [] hquiet hreport
  exact ⟨hmoves.quiet hquiet, hmoves.ordered hordered⟩

/-- Before a turn fills the pool. -/
theorem Reachable.listed_react (h : Reachable config now c) (hlive : c.state ≠ .destroyed)
    {later : Instant} {trigger : Trigger} (htakes : c.Takes later trigger) :
    Listed (c.react later trigger) := by
  obtain ⟨_, hmoves⟩ := moves_react hlive htakes.admits htakes.react
  have hknown := h.known.react htakes.react
  exact ⟨hknown.nodup, hmoves.ordered h.ordered, hknown.opened_pooled⟩

end Runs

/-! ## From active to idle -/

/-- What becomes of a cluster that goes from active to idle: its oldest tunnel stays, the others are
destroyed and reported as closed without error, newest first, before the new state is announced, and they
lose their marks. Nothing else is done to any tunnel. -/
structure Pruned (c c' : Cluster) : Prop where
  pool : c'.pool = c.pool.take 1
  opened : ∀ id, id ∈ c'.opened ↔ id ∈ c.opened ∧ id ∈ c'.pool
  history : ∃ rest, c'.outbox =
      c.outbox ++ releases (c.pool.drop 1).reverse ++ .emit (.state .idle) :: rest ∧
    ∀ action ∈ rest, ∀ id, ¬ Concerns id action

/-- A cluster that is destroyed is gone. -/
theorem state_destroy (c : Cluster) (error : Option TunnelError) :
    (c.destroy error).state = .destroyed := by
  by_cases hstate : c.state = .destroyed
  · rw [destroy_of_destroyed hstate, hstate]
  · rw [destroy_of_live hstate]

/-- A cluster that is asked to become active is not idle. -/
theorem state_enter_active_ne_idle (c : Cluster) : (c.enter .active).state ≠ .idle := by
  by_cases hstate : c.state = .destroyed
  · rw [enter, if_pos (Or.inl hstate), hstate]
    exact ClusterState.noConfusion
  · rw [state_enter_active hstate]
    exact ClusterState.noConfusion

/-- No report makes a cluster idle. -/
theorem idle_of_heed {c : Cluster} {report : Report} (h : (c.heed report).state = .idle) :
    c.state = .idle := by
  revert h
  refine notice_outcomes (P := fun c' => c'.state = .idle → c.state = .idle)
    report.moment c report.id report.notice ?_ ?_ ?_ ?_ ?_ ?_ ?_ ?_
  · exact fun _ => id
  · exact fun _ _ => id
  · exact fun _ _ _ hidle => absurd hidle (state_enter_active_ne_idle _)
  · exact fun _ _ => id
  · intro error _ _ _ hidle
    exact ClusterState.noConfusion ((state_destroy _ _).symm.trans hidle)
  · exact fun _ _ _ _ _ => id
  · exact fun _ _ _ => id
  · exact fun _ _ _ _ _ => id

/-- Nor do all reports of a batch. -/
theorem idle_of_hear {c : Cluster} {heard : List Report} (h : (c.hear heard).state = .idle) :
    c.state = .idle := by
  induction heard generalizing c with
  | nil => exact h
  | cons report heard ih =>
    cases hfirst : (c.heed report).isCrashed with
    | true =>
      rw [hear_cons_of_crashed hfirst] at h
      exact idle_of_heed h
    | false =>
      rw [hear_cons hfirst] at h
      exact idle_of_heed (ih h)

/-- A marked tunnel is either kept or let go of. -/
theorem Known.mem_take_or_drop {c : Cluster} (h : Known c) (keep : Nat) {id : TunnelId}
    (hid : id ∈ c.opened) : id ∈ c.pool.take keep ↔ id ∉ c.pool.drop keep := by
  have hmem := h.opened_pooled id hid
  rw [← List.take_append_drop keep c.pool, List.mem_append] at hmem
  constructor
  · exact fun htake hdrop => List.disjoint_take_drop h.nodup (Nat.le_refl keep) htake hdrop
  · exact fun hdrop => hmem.resolve_right hdrop

/-- When there has been no activity for a while. -/
theorem pruned_idleExpired {c : Cluster} (h : Known c) (hactive : c.state = .active) (now : Instant) :
    Pruned c (c.react now .idleExpired) := by
  show Pruned c (idleExpired _)
  rw [idleExpired_of_active (by exact hactive), enter_idle_of_active (by exact hactive), shrink_eq]
  refine ⟨rfl, fun id => ?_, [], by simp, by simp⟩
  simp only [List.mem_filter, List.mem_reverse, decide_eq_true_eq]
  exact and_congr_right fun hid => (h.mem_take_or_drop 1 hid).symm

/-- What a turn has to be for an active cluster to become idle in it. -/
theorem pruned_of_react {c : Cluster} {now : Instant} {trigger : Trigger} (h : Known c)
    (hactive : c.state = .active) (hdone : (c.react now trigger).isCrashed = false)
    (hidle : (c.react now trigger).state = .idle) :
    Pruned c (c.react now trigger) := by
  have hlive : c.state ≠ .destroyed := hactive ▸ ClusterState.noConfusion
  cases trigger with
  | endRequested error =>
    have hgone : ((c.destroy error).publish.act .acknowledge).state = .destroyed := by
      rw [publish_eq]
      exact state_destroy c error
    exact ClusterState.noConfusion (hgone.symm.trans hidle)
  | abandoned => exact ClusterState.noConfusion ((state_destroy c none).symm.trans hidle)
  | noticed reports => exact ClusterState.noConfusion (hactive.symm.trans (idle_of_hear hidle))
  | idleExpired => exact pruned_idleExpired h hactive now
  | retryExpired =>
    revert hidle
    refine retryExpired_cases (P := fun c' => c'.state = .idle → Pruned c c') hdone (by exact hlive) ?_ ?_ ?_
    · exact fun _ hidle => ClusterState.noConfusion (hactive.symm.trans hidle)
    · intro hpool _ _
      -- without tunnels there is none to let go of
      have hpool : c.pool = [] := hpool
      refine ⟨by simp [hpool], fun id => ?_, [.emit (.reconnect (c.attempts + 1))], ?_, ?_⟩
      · exact ⟨fun hid => ⟨hid, h.opened_pooled id hid⟩, And.left⟩
      · simp [hpool, hactive, releases]
      · simp [Concerns]
    · exact fun _ _ hidle => ClusterState.noConfusion ((state_destroy _ _).symm.trans hidle)

/-! ## What is left of a tunnel that was let go of -/

/-- How a run goes on from one of its states: with any turns, or none. -/
inductive Onward (before : Instant) (c : Cluster) : Instant → Cluster → Prop
  | here : Onward before c before c
  | turn {now : Instant} {c' : Cluster} (later : Instant) (trigger : Trigger) : Onward before c now c' →
      c'.state ≠ .destroyed → now.notAfter later = true → c'.Takes later trigger →
      Onward before c (trigger.ends later) (c'.turn later trigger)

namespace Onward

variable {config : Config} {before now : Instant} {c c' : Cluster}

/-- A run that goes on from a run is a run. -/
theorem reachable (h : Onward before c now c') (hrun : Reachable config before c) :
    Reachable config now c' := by
  induction h with
  | here => exact hrun
  | turn later trigger _ hlive hlater htakes ih => exact .turn later trigger ih hlive hlater htakes

/-- The history only grows. -/
theorem outbox (h : Onward before c now c') : c.outbox <+: c'.outbox := by
  induction h with
  | here => exact List.prefix_refl _
  | turn _ _ _ hlive _ htakes ih =>
    obtain ⟨_, hmoves⟩ := moves_turn hlive htakes
    rw [hmoves.outbox]
    exact ih.trans (List.prefix_append _ _)

end Onward

/-- What is left of a tunnel that a cluster has let go of: it is in the pool and marked no more, it was
destroyed once and reported as closed once, without error, and whatever is reported of it in any batch
changes nothing. -/
structure LetGo (c : Cluster) (id : TunnelId) : Prop where
  pool : id ∉ c.pool
  opened : id ∉ c.opened
  freed : c.outbox.countP (frees id) = 1
  closed : c.outbox.countP (closes id) = 1
  unblamed : .emit (.tunnelClosed id none) ∈ c.outbox
  ignored : ∀ heard moment n, (c.hear heard).isCrashed = false →
    (c.hear heard).heed ⟨moment, id, n⟩ = c.hear heard

/-- A tunnel that was let go of and closed without error is gone for good. -/
theorem Reachable.letGo {config : Config} {now : Instant} {c : Cluster} (hrun : Reachable config now c)
    {id : TunnelId} (hfreed : .release id ∈ c.outbox)
    (hclosed : .emit (.tunnelClosed id none) ∈ c.outbox) : LetGo c id := by
  have horderly := hrun.orderly
  have hgone : id ∉ c.pool := fun hmem =>
    (horderly.accounted id (horderly.pooled id hmem)).mp hmem none hclosed
  have hatMost := horderly.inOrder.countP_closes_le id
  have hpaired := hrun.paired id
  have hfreed : 0 < c.outbox.countP (frees id) :=
    List.countP_pos_iff.mpr ⟨_, hfreed, decide_eq_true rfl⟩
  refine ⟨hgone, fun hopened => hgone (hrun.known.opened_pooled id hopened), by omega, by omega, hclosed,
    fun heard moment n hdone => ?_⟩
  obtain ⟨added, hout, _⟩ := (handled_hear hdone).history
  refine (horderly.hear hdone).notice_of_closed ⟨none, ?_⟩ moment n
  rw [hout]
  exact List.mem_append_left _ hclosed

/-- The order of the pool and its pruning, in every run. After a turn, in the middle of a batch of
reports, unless the cluster has crashed, and before the pool is filled, the pool lists distinct tunnels in
the order of their creation, and only they are marked as opened. No report makes a cluster idle; when
anything else takes a cluster from active to idle, its pool is pruned to the oldest tunnel, the others
having been destroyed and reported as closed, newest first, before the new state is announced. However the
run goes on, that is the only time each of them is destroyed and reported, and no report of it that still
comes has any effect. -/
theorem reachable_prunes {config : Config} {now : Instant} {c : Cluster} (hrun : Reachable config now c) :
    Listed c ∧
    (∀ heard, (c.hear heard).isCrashed = false → Listed (c.hear heard) ∧
      ∀ more, (c.hear (heard ++ more)).state = .idle → (c.hear heard).state = .idle) ∧
    ∀ later trigger, c.state ≠ .destroyed → now.notAfter later = true → c.Takes later trigger →
      Listed (c.react later trigger) ∧
      (c.turn later trigger).state = (c.react later trigger).state ∧
      (c.state = .active → (c.react later trigger).state = .idle →
        Pruned c (c.react later trigger) ∧
        ∀ id ∈ c.pool.drop 1, ∀ after c',
          Onward (trigger.ends later) (c.turn later trigger) after c' → LetGo c' id) := by
  refine ⟨hrun.listed, fun heard hdone => ⟨hrun.listed_hear hdone, fun more hidle => ?_⟩, ?_⟩
  · rw [hear_append hdone] at hidle
    exact idle_of_hear hidle
  intro later trigger hlive hlater htakes
  refine ⟨hrun.listed_react hlive htakes, state_turn c later trigger, fun hactive hidle => ?_⟩
  have hpruned := pruned_of_react hrun.known hactive htakes.react hidle
  refine ⟨hpruned, fun id hid after c' honward => ?_⟩
  have hturn : Reachable config (trigger.ends later) (c.turn later trigger) :=
    .turn later trigger hrun hlive hlater htakes
  -- what was done to the tunnel stays in the history
  have hkept : ∀ action ∈ releases (c.pool.drop 1).reverse, action ∈ c'.outbox := by
    intro action haction
    obtain ⟨rest, hhistory, _⟩ := hpruned.history
    obtain ⟨_, hmoves⟩ := moves_settle later trigger (c.react later trigger)
    refine honward.outbox.subset ?_
    rw [htakes.turn_eq, hmoves.outbox, hhistory]
    exact List.mem_append_left _ (List.mem_append_left _ (List.mem_append_right _ haction))
  have hid : id ∈ (c.pool.drop 1).reverse := List.mem_reverse.mpr hid
  exact (honward.reachable hturn).letGo (hkept _ (mem_releases.mpr ⟨id, hid, Or.inl rfl⟩))
    (hkept _ (mem_releases.mpr ⟨id, hid, Or.inr rfl⟩))

/-- When the idle timer of a cluster with two tunnels expires, only the first one is kept, and what the
second one still reports has no effect. -/
theorem wokenCluster_prunes :
    wokenCluster.pool = [1, 2] ∧ (wokenCluster.react ⟨5000000002⟩ .idleExpired).pool = [1] ∧
      LetGo (wokenCluster.turn ⟨5000000002⟩ .idleExpired) 2 := by
  have hactive : wokenCluster.state = .active := by decide +kernel
  have hlive : wokenCluster.state ≠ .destroyed := by decide +kernel
  have hpool : wokenCluster.pool = [1, 2] := by decide +kernel
  have htakes : wokenCluster.Takes ⟨5000000002⟩ .idleExpired :=
    ⟨show wokenCluster.idleTimer.isDue ⟨5000000002⟩ = true by decide +kernel, by decide +kernel⟩
  have hidle : (wokenCluster.react ⟨5000000002⟩ .idleExpired).state = .idle := by decide +kernel
  obtain ⟨-, -, hchange⟩ :=
    (reachable_prunes reachable_wokenCluster).2.2 ⟨5000000002⟩ .idleExpired hlive (by decide) htakes
  obtain ⟨hpruned, hletGo⟩ := hchange hactive hidle
  have hkept := hpruned.pool
  rw [hpool] at hkept
  exact ⟨hpool, hkept, hletGo 2 (by rw [hpool]; decide) _ _ .here⟩

end RelayTunnel.Cluster
