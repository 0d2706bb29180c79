import Mathlib.Data.List.Lattice
import Mathlib.Data.List.Nodup
import Mathlib.Tactic.Tauto
import RelayTunnel.Proofs.Cluster.Moves
import RelayTunnel.Proofs.Cluster.Timers

/-!
# The end of a cluster is final

`Precludes` says which actions rule out which later ones: the end of a cluster rules out everything
but answers to those who asked for it, its announcement rules out new tunnels and other states, and
the closing of a tunnel rules out everything about that tunnel. A history is `Orderly` if nothing in
it comes after something that rules it out, and if it accounts for every tunnel; every move keeps it
so, whatever else its turn handles. `reachable_destruction` reads the end of a cluster off it.
-/

set_option autoImplicit false

namespace RelayTunnel.Cluster

/-! ## What rules out what -/

/-- Whether an action is about a tunnel. -/
def Concerns (id : TunnelId) : ClusterAction → Prop
  | .create id' | .release id' => id' = id
  | .emit (.connect id') | .emit (.activity id') | .emit (.tunnelClosed id' _) => id' = id
  | _ => False

/-- Whether an action belongs to letting go of tunnels or to the end itself. -/
def isParting : ClusterAction → Bool
  | .release _ | .acknowledge | .emit (.tunnelClosed ..) | .emit (.destroyed _) => true
  | _ => false

/-- Whether an action announces the end of the cluster or is that end. -/
def isEnding : ClusterAction → Bool
  | .emit (.state .destroyed) | .emit (.destroyed _) => true
  | _ => false

/-- Whether an action reports that a certain tunnel has left the pool. -/
def closes (id : TunnelId) : ClusterAction → Bool
  | .emit (.tunnelClosed id' _) => id' = id
  | _ => false

/-- Whether an action rules out that another one comes after it. -/
def Precludes : ClusterAction → ClusterAction → Prop
  | .emit (.destroyed _), later => later ≠ .acknowledge
  | .emit (.state .destroyed), later => isParting later = false
  | .emit (.tunnelClosed id _), later => Concerns id later
  | _, _ => False

/-- Nothing comes after something that rules it out. -/
def InOrder (history : List ClusterAction) : Prop :=
  history.Pairwise fun earlier later => ¬ Precludes earlier later

/-- What closes a tunnel is the report that it has left the pool, with an error or without one. -/
theorem closes_iff {id : TunnelId} {action : ClusterAction} :
    closes id action = true ↔ ∃ error, action = .emit (.tunnelClosed id error) := by
  constructor
  · intro h
    unfold closes at h
    split at h
    · next error => exact ⟨error, by rw [of_decide_eq_true h]⟩
    · cases h
  · rintro ⟨error, rfl⟩
    exact decide_eq_true rfl

/-- Only ends and closings rule anything out. -/
theorem ending_or_closing_of_precludes {earlier later : ClusterAction} (h : Precludes earlier later) :
    isEnding earlier = true ∨ ∃ id, closes id earlier = true ∧ Concerns id later := by
  unfold Precludes at h
  split at h
  · exact Or.inl rfl
  · exact Or.inl rfl
  · next id _ => exact Or.inr ⟨id, decide_eq_true rfl, h⟩
  · exact h.elim

/-- Letting go of some tunnels is to destroy and to close each of them. -/
theorem mem_releases {ids : List TunnelId} {action : ClusterAction} :
    action ∈ releases ids ↔
      ∃ id ∈ ids, action = .release id ∨ action = .emit (.tunnelClosed id none) := by
  simp [releases]

/-- Tunnels are let go of one after the other, each once. -/
theorem inOrder_releases {ids : List TunnelId} (h : ids.Nodup) : InOrder (releases ids) := by
  induction ids with
  | nil => exact .nil
  | cons id ids ih =>
    obtain ⟨hnew, hrest⟩ := List.nodup_cons.mp h
    refine .cons (fun _ _ => not_false) (.cons ?_ (ih hrest))
    intro later hlater hconcerns
    obtain ⟨id', hid', rfl | rfl⟩ := mem_releases.mp hlater
    · exact hnew (hconcerns ▸ hid')
    · exact hnew (hconcerns ▸ hid')

/-- What a cluster wants done when it ends is in order: the announcement, the tunnels, the end. -/
theorem inOrder_farewell {c : Cluster} (h : c.pool.Nodup) (error : Option TunnelError) :
    InOrder (c.farewell error) := by
  refine .cons ?_ (List.pairwise_append.mpr ⟨?_, List.pairwise_singleton _ _, ?_⟩)
  · intro later hlater
    rcases List.mem_append.mp hlater with hleft | hend
    · obtain ⟨id, _, rfl | rfl⟩ := mem_releases.mp hleft <;> exact Bool.noConfusion
    · rw [List.mem_singleton.mp hend]
      exact Bool.noConfusion
  · exact inOrder_releases (List.nodup_reverse.mpr h)
  · intro earlier hearlier later hend
    rw [List.mem_singleton.mp hend]
    obtain ⟨id, _, rfl | rfl⟩ := mem_releases.mp hearlier <;> exact not_false

/-! ## Orderly histories -/

/-- A history in which nothing comes after what rules it out, and which accounts for every tunnel: a
tunnel that was created is in the pool or its closing was reported, and never both. It holds an end
exactly if the cluster has ended, and then the pool is empty and the timers are stopped. -/
structure Orderly (c : Cluster) : Prop where
  inOrder : InOrder c.outbox
  nodup : c.pool.Nodup
  fresh : ∀ id, c.nextId ≤ id → id ∉ c.pool ∧ ∀ action ∈ c.outbox, ¬ Concerns id action
  accounted : ∀ id, .create id ∈ c.outbox →
    (id ∈ c.pool ↔ ∀ error, .emit (.tunnelClosed id error) ∉ c.outbox)
  pooled : ∀ id ∈ c.pool, .create id ∈ c.outbox
  alive : c.state ≠ .destroyed → ∀ action ∈ c.outbox, isEnding action = false
  gone : c.state = .destroyed → c.pool = [] ∧ c.idleTimer.isRunning = false ∧
    c.retryTimer.isRunning = false ∧ .emit (.state .destroyed) ∈ c.outbox ∧
    ∃ error, .emit (.destroyed error) ∈ c.outbox

namespace Orderly

variable {c c' : Cluster} {added : List ClusterAction}

/-- Whatever a live cluster does to the tunnels of its pool keeps its history orderly, if every
tunnel that leaves the pool is reported and nothing comes after that report. -/
theorem grow (h : Orderly c) (hlive : c.state ≠ .destroyed)
    (hout : c'.outbox = c.outbox ++ added) (hnext : c'.nextId = c.nextId)
    (hpool : c'.pool.Sublist c.pool) (hadded : InOrder added)
    (hconcerns : ∀ action ∈ added, ∀ id, Concerns id action → id ∈ c.pool)
    (hcreate : ∀ id, .create id ∉ added)
    (hleft : ∀ id ∈ c.pool, (id ∈ c'.pool ↔ ∀ error, .emit (.tunnelClosed id error) ∉ added))
    (halive : c'.state ≠ .destroyed → ∀ action ∈ added, isEnding action = false)
    (hgone : c'.state = .destroyed → c'.pool = [] ∧ c'.idleTimer.isRunning = false ∧
      c'.retryTimer.isRunning = false ∧ .emit (.state .destroyed) ∈ added ∧
      ∃ error, .emit (.destroyed error) ∈ added) : Orderly c' where
  inOrder := by
    rw [hout]
    refine List.pairwise_append.mpr ⟨h.inOrder, hadded, ?_⟩
    intro earlier hearlier later hlater hprecludes
    rcases ending_or_closing_of_precludes hprecludes with hending | ⟨id, hcloses, hlater'⟩
    · exact Bool.false_ne_true ((h.alive hlive earlier hearlier).symm.trans hending)
    · have hmem := hconcerns later hlater id hlater'
      obtain ⟨error, rfl⟩ := closes_iff.mp hcloses
      exact (h.accounted id (h.pooled id hmem)).mp hmem error hearlier
  nodup := h.nodup.sublist hpool
  fresh id hid := by
    obtain ⟨hnot, hnone⟩ := h.fresh id (hnext ▸ hid)
    refine ⟨fun hmem => hnot (hpool.subset hmem), fun action haction => ?_⟩
    rw [hout] at haction
    rcases List.mem_append.mp haction with hold | hnew
    · exact hnone action hold
    · exact fun hmentioned => hnot (hconcerns action hnew id hmentioned)
  accounted id hcreated := by
    rw [hout] at hcreated ⊢
    have hold : .create id ∈ c.outbox := (List.mem_append.mp hcreated).resolve_right (hcreate id)
    have hiff := h.accounted id hold
    simp only [List.mem_append, not_or, forall_and, ← hiff]
    constructor
    · intro hmem
      have hbefore := hpool.subset hmem
      exact ⟨hbefore, (hleft id hbefore).mp hmem⟩
    · rintro ⟨hbefore, hnone⟩
      exact (hleft id hbefore).mpr hnone
  pooled id hid := by
    rw [hout]
    exact List.mem_append_left _ (h.pooled id (hpool.subset hid))
  alive hlive' action haction := by
    rw [hout] at haction
    rcases List.mem_append.mp haction with hold | hnew
    · exact h.alive hlive action hold
    · exact halive hlive' action hnew
  gone hstate := by
    obtain ⟨hempty, hidle, hretry, hannounced, error, hend⟩ := hgone hstate
    rw [hout]
    exact ⟨hempty, hidle, hretry, List.mem_append_right _ hannounced, error,
      List.mem_append_right _ hend⟩

/-- Reports that are about tunnels of the pool and close none of them. -/
theorem of_report (h : Orderly c) (hlive : c.state ≠ .destroyed)
    (hout : c'.outbox = c.outbox ++ added) (hnext : c'.nextId = c.nextId)
    (hpool : c'.pool = c.pool) (hlive' : c'.state ≠ .destroyed)
    (hadded : ∀ action ∈ added, isEnding action = false ∧ (∀ id, action ≠ .create id) ∧
      ∀ id, closes id action = false ∧ (Concerns id action → id ∈ c.pool)) : Orderly c' := by
  have hnone : ∀ id error, .emit (.tunnelClosed id error) ∉ added := by
    intro id error hmem
    have hcloses := ((hadded _ hmem).2.2 id).1
    exact Bool.false_ne_true (hcloses.symm.trans (closes_iff.mpr ⟨error, rfl⟩))
  refine h.grow hlive hout hnext (hpool ▸ .refl _) ?_ ?_ ?_ ?_ ?_ ?_
  · refine List.pairwise_of_forall_mem_list fun earlier hearlier later _ hprecludes => ?_
    rcases ending_or_closing_of_precludes hprecludes with hending | ⟨id, hcloses, _⟩
    · exact Bool.false_ne_true ((hadded earlier hearlier).1.symm.trans hending)
    · exact Bool.false_ne_true (((hadded earlier hearlier).2.2 id).1.symm.trans hcloses)
  · exact fun action haction id => ((hadded action haction).2.2 id).2
  · exact fun id hmem => (hadded _ hmem).2.1 id rfl
  · intro id hid
    exact iff_of_true (hpool ▸ hid) (hnone id)
  · exact fun _ action haction => (hadded action haction).1
  · exact fun hgone => absurd hgone hlive'

/-- What does not touch the history or the pool, nor the timers once the cluster has ended. -/
theorem of_same (h : Orderly c) (hout : c'.outbox = c.outbox) (hnext : c'.nextId = c.nextId)
    (hpool : c'.pool = c.pool) (hstate : c'.state = c.state)
    (htimers : c.state = .destroyed → c'.idleTimer = c.idleTimer ∧ c'.retryTimer = c.retryTimer) :
    Orderly c' where
  inOrder := hout ▸ h.inOrder
  nodup := hpool ▸ h.nodup
  fresh := by rw [hout, hnext, hpool]; exact h.fresh
  accounted := by rw [hout, hpool]; exact h.accounted
  pooled := by rw [hout, hpool]; exact h.pooled
  alive := by rw [hout, hstate]; exact h.alive
  gone := by
    rw [hout, hpool, hstate]
    intro hgone
    rw [(htimers hgone).1, (htimers hgone).2]
    exact h.gone hgone

/-- One tunnel leaves the pool and this is reported. -/
theorem withoutTunnel (h : Orderly c) (hlive : c.state ≠ .destroyed) {id : TunnelId}
    (hmem : id ∈ c.pool) (error : Option TunnelError) : Orderly (c.withoutTunnel id error) := by
  have hout : (c.withoutTunnel id error).outbox =
      c.outbox ++ [.emit (.tunnelClosed id error)] := rfl
  refine h.grow hlive hout rfl List.erase_sublist (List.pairwise_singleton _ _) ?_ ?_ ?_ ?_ ?_
  · intro action haction id' hconcerns
    rw [List.mem_singleton.mp haction] at hconcerns
    exact hconcerns ▸ hmem
  · intro id' hid'
    cases List.mem_singleton.mp hid'
  · intro id' hid'
    show id' ∈ c.pool.erase id ↔ _
    rw [h.nodup.mem_erase_iff, and_iff_left hid']
    simp
  · intro _ action haction
    rw [List.mem_singleton.mp haction]
    rfl
  · exact fun hgone => absurd hgone hlive

/-- A live cluster lets go of its newest tunnels, besides actions that are about no tunnel. -/
theorem letGo (h : Orderly c) (hlive : c.state ≠ .destroyed) (keep : Nat)
    {others : List ClusterAction} (hout : c'.outbox = c.outbox ++ added)
    (hnext : c'.nextId = c.nextId) (hpool : c'.pool = c.pool.take keep) (hadded : InOrder added)
    (hmem : ∀ action, action ∈ added ↔
      action ∈ releases (c.pool.drop keep).reverse ∨ action ∈ others)
    (hothers : ∀ action ∈ others, ∀ id, ¬ Concerns id action)
    (halive : c'.state ≠ .destroyed → ∀ action ∈ others, isEnding action = false)
    (hgone : c'.state = .destroyed → c'.pool = [] ∧ c'.idleTimer.isRunning = false ∧
      c'.retryTimer.isRunning = false ∧ .emit (.state .destroyed) ∈ added ∧
      ∃ error, .emit (.destroyed error) ∈ added) : Orderly c' := by
  have hreleased : ∀ action ∈ releases (c.pool.drop keep).reverse, ∃ id ∈ c.pool.drop keep,
      action = .release id ∨ action = .emit (.tunnelClosed id none) := by
    intro action haction
    obtain ⟨id, hid, hwhich⟩ := mem_releases.mp haction
    exact ⟨id, List.mem_reverse.mp hid, hwhich⟩
  refine h.grow hlive hout hnext (hpool ▸ List.take_sublist keep c.pool) hadded ?_ ?_ ?_ ?_ hgone
  · intro action haction id hconcerns
    rcases (hmem action).mp haction with hrelease | hother
    · obtain ⟨id', hid', rfl | rfl⟩ := hreleased action hrelease
      · exact hconcerns ▸ List.mem_of_mem_drop hid'
      · exact hconcerns ▸ List.mem_of_mem_drop hid'
    · exact absurd hconcerns (hothers action hother id)
  · intro id haction
    rcases (hmem _).mp haction with hrelease | hother
    · obtain ⟨_, _, hrelease | hrelease⟩ := hreleased _ hrelease <;> cases hrelease
    · exact hothers _ hother id rfl
  · intro id hid
    have hclosed : (∃ error, .emit (.tunnelClosed id error) ∈ added) ↔ id ∈ c.pool.drop keep := by
      constructor
      · rintro ⟨error, haction⟩
        rcases (hmem _).mp haction with hrelease | hother
        · obtain ⟨id', hid', hrelease | hrelease⟩ := hreleased _ hrelease <;> cases hrelease
          exact hid'
        · exact absurd rfl (hothers _ hother id)
      · intro hdrop
        refine ⟨none, (hmem _).mpr (Or.inl (mem_releases.mpr ?_))⟩
        exact ⟨id, List.mem_reverse.mpr hdrop, Or.inr rfl⟩
    rw [← not_exists, hclosed, hpool]
    constructor
    · exact fun htake hdrop => List.disjoint_take_drop h.nodup (Nat.le_refl keep) htake hdrop
    · intro hdrop
      rw [← List.take_append_drop keep c.pool, List.mem_append] at hid
      exact hid.resolve_right hdrop
  · intro hlive' action haction
    rcases (hmem action).mp haction with hrelease | hother
    · obtain ⟨_, _, rfl | rfl⟩ := hreleased action hrelease <;> rfl
    · exact halive hlive' action hother

/-- The end of a live cluster keeps its history in order. -/
theorem ended (h : Orderly c) (hlive : c.state ≠ .destroyed) (error : Option TunnelError) :
    Orderly (c.ended error) := by
  have hmem : ∀ action, action ∈ c.farewell error ↔ action ∈ releases (c.pool.drop 0).reverse ∨
      action ∈ [.emit (.state .destroyed), .emit (.destroyed error)] := by
    intro action
    simp only [farewell, List.drop_zero, List.mem_cons, List.mem_append, List.not_mem_nil, or_false]
    tauto
  refine h.letGo hlive 0 rfl rfl rfl (inOrder_farewell h.nodup error) hmem ?_ ?_ ?_
  · simp [Concerns]
  · exact fun hlive' => absurd rfl hlive'
  · intro _
    refine ⟨rfl, rfl, rfl, (hmem _).mpr (Or.inr (by simp)), error, (hmem _).mpr (Or.inr (by simp))⟩

/-- So does becoming idle, which lets go of all tunnels but the oldest. -/
theorem calmed (h : Orderly c) (hlive : c.state ≠ .destroyed)
    (hout : c'.outbox = c.outbox ++ (releases (c.pool.drop 1).reverse ++ [.emit (.state .idle)]))
    (hnext : c'.nextId = c.nextId) (hpool : c'.pool = c.pool.take 1) (hlive' : c'.state ≠ .destroyed) :
    Orderly c' := by
  have hnodup : (c.pool.drop 1).reverse.Nodup :=
    List.nodup_reverse.mpr (h.nodup.sublist (List.drop_sublist 1 c.pool))
  have hmem : ∀ action, action ∈ releases (c.pool.drop 1).reverse ++ [.emit (.state .idle)] ↔
      action ∈ releases (c.pool.drop 1).reverse ∨ action ∈ [.emit (.state .idle)] :=
    fun _ => List.mem_append
  refine h.letGo hlive 1 hout hnext hpool ?_ hmem ?_ ?_ ?_
  · refine List.pairwise_append.mpr ⟨inOrder_releases hnodup, List.pairwise_singleton _ _, ?_⟩
    intro earlier hearlier later hlater
    rw [List.mem_singleton.mp hlater]
    obtain ⟨_, _, rfl | rfl⟩ := mem_releases.mp hearlier <;> exact not_false
  · simp [Concerns]
  · simp [isEnding]
  · exact fun hgone => absurd hgone hlive'

/-- New tunnels have numbers that the history has not mentioned. -/
theorem filled (h : Orderly c) (hout : c'.outbox = c.outbox ++ c.newcomers.map .create)
    (hnext : c'.nextId = c.nextId + c.missing) (hpool : c'.pool = c.pool ++ c.newcomers)
    (hstate : c'.state = c.state) (hidle : c'.idleTimer = c.idleTimer)
    (hretry : c'.retryTimer = c.retryTimer) : Orderly c' := by
  by_cases hgone : c.state = .destroyed
  · rw [newcomers_of_destroyed hgone, List.map_nil, List.append_nil] at hout
    rw [newcomers_of_destroyed hgone, List.append_nil] at hpool
    rw [missing_of_destroyed hgone, Nat.add_zero] at hnext
    exact h.of_same hout hnext hpool hstate fun _ => ⟨hidle, hretry⟩
  have hnew : ∀ id ∈ c.newcomers, c.nextId ≤ id ∧ id < c.nextId + c.missing :=
    fun id hid => List.mem_range'_1.mp hid
  have hcreated : ∀ action ∈ c.newcomers.map ClusterAction.create, ∃ id ∈ c.newcomers,
      action = .create id := by
    intro action haction
    obtain ⟨id, hid, rfl⟩ := List.mem_map.mp haction
    exact ⟨id, hid, rfl⟩
  constructor
  · rw [hout]
    refine List.pairwise_append.mpr ⟨h.inOrder, ?_, ?_⟩
    · refine List.pairwise_of_forall_mem_list fun earlier hearlier later _ => ?_
      obtain ⟨id, _, rfl⟩ := hcreated earlier hearlier
      exact not_false
    · intro earlier hearlier later hlater hprecludes
      obtain ⟨id, hid, rfl⟩ := hcreated later hlater
      rcases ending_or_closing_of_precludes hprecludes with hending | ⟨id', hcloses, hconcerns⟩
      · exact Bool.false_ne_true ((h.alive hgone earlier hearlier).symm.trans hending)
      · obtain ⟨error, rfl⟩ := closes_iff.mp hcloses
        exact (h.fresh id (hnew id hid).1).2 _ hearlier hconcerns.symm
  · rw [hpool]
    refine List.nodup_append.mpr ⟨h.nodup, List.nodup_range', ?_⟩
    rintro id hid _ hid' rfl
    exact (h.fresh id (hnew id hid').1).1 hid
  · intro id hid
    rw [hnext] at hid
    obtain ⟨hnot, hnone⟩ := h.fresh id (Nat.le_trans (Nat.le_add_right _ _) hid)
    rw [hpool, hout]
    refine ⟨fun hmem => ?_, fun action haction => ?_⟩
    · rcases List.mem_append.mp hmem with hold | hnew'
      · exact hnot hold
      · exact Nat.not_lt.mpr hid (hnew id hnew').2
    · rcases List.mem_append.mp haction with hold | hnew'
      · exact hnone action hold
      · obtain ⟨id', hid', rfl⟩ := hcreated action hnew'
        rintro rfl
        exact Nat.not_lt.mpr hid (hnew _ hid').2
  · intro id hid
    have hopen : (∀ error, .emit (.tunnelClosed id error) ∉ c'.outbox) ↔
        ∀ error, .emit (.tunnelClosed id error) ∉ c.outbox := by
      simp [hout]
    rw [hopen, hpool, List.mem_append]
    rw [hout] at hid
    rcases List.mem_append.mp hid with hold | hnew'
    · rw [← h.accounted id hold]
      refine or_iff_left fun hmem => ?_
      exact (h.fresh id (hnew id hmem).1).2 _ hold rfl
    · obtain ⟨id', hid', hsame⟩ := hcreated _ hnew'
      cases hsame
      refine iff_of_true (Or.inr hid') fun error hmem => ?_
      exact (h.fresh id (hnew id hid').1).2 _ hmem rfl
  · intro id hid
    rw [hpool] at hid
    rw [hout]
    rcases List.mem_append.mp hid with hold | hnew'
    · exact List.mem_append_left _ (h.pooled id hold)
    · exact List.mem_append_right _ (List.mem_map_of_mem hnew')
  · intro _ action haction
    rw [hout] at haction
    rcases List.mem_append.mp haction with hold | hnew'
    · exact h.alive hgone action hold
    · obtain ⟨_, _, rfl⟩ := hcreated action hnew'
      rfl
  · exact fun hgone' => absurd (hstate.symm.trans hgone') hgone

/-- An answer comes at any time after the end. -/
theorem acknowledged (h : Orderly c) (hgone : c.state = .destroyed) :
    Orderly { c with outbox := c.outbox ++ [.acknowledge] } := by
  obtain ⟨hempty, hidle, hretry, hannounced, error, hend⟩ := h.gone hgone
  constructor
  · refine List.pairwise_append.mpr ⟨h.inOrder, List.pairwise_singleton _ _, ?_⟩
    intro earlier hearlier later hlater hprecludes
    rw [List.mem_singleton.mp hlater] at hprecludes
    unfold Precludes at hprecludes
    split at hprecludes
    · exact hprecludes rfl
    · exact Bool.noConfusion hprecludes
    · exact hprecludes
    · exact hprecludes
  · exact h.nodup
  · intro id hid
    refine ⟨(h.fresh id hid).1, fun action haction => ?_⟩
    rcases List.mem_append.mp haction with hold | hnew
    · exact (h.fresh id hid).2 action hold
    · rw [List.mem_singleton.mp hnew]
      exact not_false
  · intro id hid
    simp only [List.mem_append, List.mem_singleton, reduceCtorEq, or_false] at hid ⊢
    exact h.accounted id hid
  · exact fun id hid => List.mem_append_left _ (h.pooled id hid)
  · exact fun hlive => absurd hgone hlive
  · exact fun _ => ⟨hempty, hidle, hretry, List.mem_append_left _ hannounced, error,
      List.mem_append_left _ hend⟩

/-- Every move keeps a history in order. -/
theorem move {now : Instant} {trigger : Trigger} (h : Orderly c)
    (hmove : Move now trigger c added c') : Orderly c' := by
  cases hmove with
  | connected hlive hmem =>
    refine h.of_report hlive rfl rfl rfl hlive ?_
    simpa [isEnding, closes, Concerns] using hmem
  | woken hidle hmem =>
    have hlive : c.state ≠ .destroyed := hidle ▸ ClusterState.noConfusion
    refine h.of_report hlive rfl rfl rfl ClusterState.noConfusion ?_
    simpa [isEnding, closes, Concerns] using hmem
  | stirred hactive hmem =>
    have hlive : c.state ≠ .destroyed := hactive ▸ ClusterState.noConfusion
    refine h.of_report hlive rfl rfl rfl hlive ?_
    simpa [isEnding, closes, Concerns] using hmem
  | closed hlive hmem =>
    exact (h.withoutTunnel hlive hmem none).of_same rfl rfl rfl rfl fun hgone => absurd hgone hlive
  | failed hlive hmem | condemned hlive hmem =>
    exact (h.withoutTunnel hlive hmem _).of_same rfl rfl rfl rfl fun hgone => absurd hgone hlive
  | ended hlive => exact h.ended hlive _
  | calmed hactive =>
    have hlive : c.state ≠ .destroyed := hactive ▸ ClusterState.noConfusion
    exact h.calmed hlive rfl rfl rfl ClusterState.noConfusion
  | dozed hidle =>
    exact h.of_same rfl rfl rfl rfl fun hgone => ClusterState.noConfusion (hidle.symm.trans hgone)
  | spared hlive => exact h.of_same rfl rfl rfl rfl fun hgone => absurd hgone hlive
  | retried hlive =>
    refine h.of_report hlive rfl rfl rfl ClusterState.noConfusion ?_
    split <;> simp [isEnding, closes, Concerns]
  | surrendered hlive =>
    have hlogged : Orderly (c.log (.serverUnreachable c.attempts)) :=
      h.of_same rfl rfl rfl rfl fun _ => ⟨rfl, rfl⟩
    exact hlogged.ended hlive _
  | filled => exact h.filled rfl rfl rfl rfl rfl rfl
  | published => exact h.of_same rfl rfl rfl rfl fun _ => ⟨rfl, rfl⟩
  | acknowledged hgone => exact h.acknowledged hgone

/-- So do sequences of moves. -/
theorem moves {begin_ now : Instant} {trigger : Trigger} {new : List Record} (h : Orderly c)
    (hmoves : Moves trigger begin_ c new added now c') : Orderly c' := by
  induction hmoves with
  | none => exact h
  | wait _ _ ih => exact ih
  | next _ hmove ih => exact ih.move hmove

/-- An orderly cluster that is gone has no tunnels. -/
theorem quiet (h : Orderly c) : c.Quiet := fun hgone => (h.gone hgone).1

/-- A report keeps a history in order. -/
theorem notice {now : Instant} {id : TunnelId} {n : Notice} (h : Orderly c)
    (hdone : (c.notice now id n).isCrashed = false) : Orderly (c.notice now id n) := by
  obtain ⟨_, hmoves⟩ := moves_notice [] h.quiet hdone
  exact h.moves hmoves

/-- So do all reports of a batch. -/
theorem hear {reports : List Report} (h : Orderly c) (hdone : (c.hear reports).isCrashed = false) :
    Orderly (c.hear reports) :=
  hear_induction (P := Orderly) (fun _ _ h hdone => h.notice hdone) hdone h

end Orderly

/-- A cluster that has just been started has created its first tunnel and nothing else. -/
theorem orderly_start {config : Config} {now : Instant}
    (hdone : ((ofConfig config).start now).isCrashed = false) :
    Orderly ((ofConfig config).start now) := by
  rw [start_eq hdone, publish_eq]
  constructor
  · exact List.pairwise_singleton _ _
  · exact List.nodup_singleton 1
  · intro id (hid : 2 ≤ id)
    refine ⟨fun hmem => ?_, fun action haction hconcerns => ?_⟩
    · exact absurd (List.mem_singleton.mp hmem) (Nat.ne_of_gt hid)
    · rw [List.mem_singleton.mp haction] at hconcerns
      exact absurd hconcerns (Nat.ne_of_lt hid)
  · intro id hid
    simpa using hid
  · simp
  · simp [isEnding]
  · exact fun hgone => ClusterState.noConfusion hgone

/-- In every run, the history is in order. -/
theorem Reachable.orderly {config : Config} {now : Instant} {c : Cluster}
    (h : Reachable config now c) : Orderly c := by
  induction h with
  | start _ hdone => exact orderly_start hdone
  | turn _ _ _ hlive _ htakes ih =>
    obtain ⟨_, hmoves⟩ := moves_turn hlive htakes
    exact ih.moves hmoves

/-! ## Reading the end off a history -/

/-- Nothing in an ordered history is ruled out by what came before it. -/
theorem InOrder.not_precludes {before after : List ClusterAction} {action : ClusterAction}
    (h : InOrder (before ++ action :: after)) {later : ClusterAction} (hlater : later ∈ after) :
    ¬ Precludes action later :=
  (List.pairwise_cons.mp (List.pairwise_append.mp h).2.1).1 later hlater

/-- The closing of a tunnel is about that tunnel. -/
theorem concerns_of_closes {id : TunnelId} {action : ClusterAction} (h : closes id action = true) :
    Concerns id action := by
  obtain ⟨error, rfl⟩ := closes_iff.mp h
  rfl

/-- The closing of a tunnel is reported at most once. -/
theorem InOrder.countP_closes_le {history : List ClusterAction} (h : InOrder history)
    (id : TunnelId) : history.countP (closes id) ≤ 1 := by
  induction history with
  | nil => exact Nat.zero_le 1
  | cons action history ih =>
    obtain ⟨hfirst, hrest⟩ := List.pairwise_cons.mp h
    rw [List.countP_cons]
    split
    · next hcloses =>
      have hnone : history.countP (closes id) = 0 := by
        refine List.countP_eq_zero.mpr fun later hlater hagain => hfirst later hlater ?_
        obtain ⟨error, rfl⟩ := closes_iff.mp hcloses
        exact concerns_of_closes hagain
      omega
    · exact ih hrest

/-- Once a cluster has ended, every tunnel it ever created has been reported as closed, once. -/
theorem Orderly.countP_closes {c : Cluster} (h : Orderly c) (hgone : c.state = .destroyed)
    {id : TunnelId} (hcreated : .create id ∈ c.outbox) : c.outbox.countP (closes id) = 1 := by
  have hle := h.inOrder.countP_closes_le id
  have hpos : 0 < c.outbox.countP (closes id) := by
    refine List.countP_pos_iff.mpr ?_
    by_contra hnone
    have hopen : id ∈ c.pool := by
      refine (h.accounted id hcreated).mpr fun error hmem => hnone ?_
      exact ⟨_, hmem, closes_iff.mpr ⟨error, rfl⟩⟩
    rw [(h.gone hgone).1] at hopen
    exact List.not_mem_nil hopen
  omega

/-- A report of a tunnel whose closing was reported changes nothing. -/
theorem Orderly.notice_of_closed {c : Cluster} (h : Orderly c) {id : TunnelId}
    (hclosed : ∃ error, .emit (.tunnelClosed id error) ∈ c.outbox) (now : Instant) (n : Notice) :
    c.notice now id n = c := by
  refine notice_of_not_mem now n fun hmem => ?_
  obtain ⟨error, hmentioned⟩ := hclosed
  exact (h.accounted id (h.pooled id hmem)).mp hmem error hmentioned

/-- A cluster without tunnels listens to no reports. -/
theorem hear_of_empty {c : Cluster} (hdone : c.isCrashed = false) (h : c.pool = [])
    (reports : List Report) : c.hear reports = c := by
  induction reports with
  | nil => rfl
  | cons report reports ih =>
    have hignored : c.heed report = c := notice_of_not_mem _ _ (h ▸ List.not_mem_nil)
    rw [hear_cons (hignored.symm ▸ hdone), hignored, ih]

/-- A snapshot that is up to date is not published again. -/
theorem publish_of_unchanged {c : Cluster} (h : c.changed = false) : c.publish = c := by
  rw [publish, if_neg (by simp [h])]

/-- After every turn, the snapshot is up to date. -/
theorem Reachable.changed {config : Config} {now : Instant} {c : Cluster}
    (h : Reachable config now c) : c.changed = false := by
  cases h with
  | start _ hdone => rw [start_eq hdone, publish_eq]
  | turn _ _ _ _ _ htakes => rw [htakes.turn_eq, changed_settle]

/-- To stop a timer that does not run changes nothing. -/
theorem stop_of_not_running {t : Timer} (h : t.isRunning = false) : t.stop = t := by
  obtain ⟨delay, deadline⟩ := t
  cases deadline with
  | none => rfl
  | some _ => cases h

/-- Were a cluster that has ended to take another turn, it would only answer a request to end. -/
theorem turn_of_destroyed {c : Cluster} (h : Orderly c) (hintact : c.isCrashed = false)
    (hgone : c.state = .destroyed) (hpending : c.fillPending = false) (hchanged : c.changed = false) (now : Instant)
    (trigger : Trigger) :
    c.turn now trigger =
      match trigger with
      | .endRequested _ => c.act .acknowledge
      | _ => c := by
  obtain ⟨hempty, hidle, hretry, _⟩ := h.gone hgone
  have hpublish : c.publish = c := publish_of_unchanged hchanged
  have hsettle : c.settle = c := by rw [settle_of_not_pending hpending, hpublish]
  have hidled : (c.react now .idleExpired) = c := by
    show idleExpired _ = c
    rw [idleExpired_of_not_active (by simp [hgone]), stop_of_not_running hidle]
  have hretried : (c.react now .retryExpired) = c := by
    show retryExpired _ now = c
    rw [retryExpired, if_pos (Or.inr (by exact hgone)), stop_of_not_running hretry]
  have hstays : ∀ trigger, c.react now trigger = c → c.turn now trigger = c := by
    intro trigger hreact
    rw [turn_eq_settle (hreact.symm ▸ hintact), hreact, hsettle]
  cases trigger with
  | endRequested error =>
    have hreact : c.react now (.endRequested error) = c.act .acknowledge := by
      rw [react, destroy_of_destroyed hgone, hpublish]
    rw [turn_eq_settle (by rw [hreact]; exact hintact), hreact, settle_of_not_pending (by exact hpending),
      publish_of_unchanged (by exact hchanged)]
  | abandoned => exact hstays .abandoned (destroy_of_destroyed hgone none)
  | noticed reports => exact hstays (.noticed reports) (hear_of_empty hintact hempty reports)
  | idleExpired => exact hstays .idleExpired hidled
  | retryExpired => exact hstays .retryExpired hretried

/-- The end of a cluster is final and complete, in every run. Nothing but answers follows it in the
history, so it comes at most once, and its announcement comes before it; after the announcement no
tunnel is created and no other state is entered. A cluster that has ended has an empty pool and stopped
timers, every tunnel it ever created has been reported as closed, once, and it would do nothing more
than answer. At any time nothing follows the closing of a tunnel that is about that tunnel; and inside
a turn, whatever reports came before, a report of a tunnel that was closed changes nothing, as long as
the cluster has not crashed, nor does any report once the cluster has ended. -/
theorem reachable_destruction {config : Config} {now : Instant} {c : Cluster}
    (hrun : Reachable config now c) :
    (∀ before error after, c.outbox = before ++ .emit (.destroyed error) :: after →
      .emit (.state .destroyed) ∈ before ∧ ∀ event, .emit event ∉ after) ∧
    (∀ before after, c.outbox = before ++ .emit (.state .destroyed) :: after →
      (∀ id, .create id ∉ after) ∧ ∀ state, .emit (.state state) ∉ after) ∧
    (c.state = .destroyed ↔ ∃ error, .emit (.destroyed error) ∈ c.outbox) ∧
    (c.state = .destroyed →
      c.idleTimer.isRunning = false ∧ c.retryTimer.isRunning = false ∧ c.pool = [] ∧
      (∀ id, .create id ∈ c.outbox → c.outbox.countP (closes id) = 1) ∧
      ∀ later trigger, c.turn later trigger =
        match trigger with
        | .endRequested _ => c.act .acknowledge
        | _ => c) ∧
    (∀ before id error after, c.outbox = before ++ .emit (.tunnelClosed id error) :: after →
      ∀ action ∈ after, ¬ Concerns id action) ∧
    (∀ heard report, (c.hear heard).isCrashed = false →
      (∃ error, .emit (.tunnelClosed report.id error) ∈ (c.hear heard).outbox) →
      (c.hear heard).heed report = c.hear heard) ∧
    ∀ heard rest, (c.hear heard).state = .destroyed → c.hear (heard ++ rest) = c.hear heard := by
  have horderly := hrun.orderly
  refine ⟨?_, ?_, ?_, ?_, ?_, ?_, ?_⟩
  · intro before error after hsplit
    have hinOrder := horderly.inOrder
    have hmem : .emit (.destroyed error) ∈ c.outbox := hsplit ▸ by simp
    have hgone : c.state = .destroyed := by
      by_contra hlive
      exact Bool.false_ne_true (horderly.alive hlive _ hmem).symm
    have hannounced := (horderly.gone hgone).2.2.2.1
    rw [hsplit] at hinOrder hannounced
    have hlast : ∀ event, .emit event ∉ after := fun event hevent =>
      hinOrder.not_precludes hevent ClusterAction.noConfusion
    refine ⟨(List.mem_append.mp hannounced).resolve_right fun hrest => ?_, hlast⟩
    rcases List.mem_cons.mp hrest with hsame | hafter
    · cases hsame
    · exact hlast _ hafter
  · intro before after hsplit
    have hinOrder := horderly.inOrder
    rw [hsplit] at hinOrder
    exact ⟨fun id hcreate => hinOrder.not_precludes hcreate rfl,
      fun state hstate => hinOrder.not_precludes hstate rfl⟩
  · constructor
    · exact fun hgone => (horderly.gone hgone).2.2.2.2
    · rintro ⟨error, hmem⟩
      by_contra hlive
      exact Bool.false_ne_true (horderly.alive hlive _ hmem).symm
  · intro hgone
    obtain ⟨hempty, hidle, hretry, _⟩ := horderly.gone hgone
    exact ⟨hidle, hretry, hempty, fun _ hcreated => horderly.countP_closes hgone hcreated,
      turn_of_destroyed horderly hrun.intact hgone hrun.fillPending hrun.changed⟩
  · intro before id error after hsplit action haction
    have hinOrder := horderly.inOrder
    rw [hsplit] at hinOrder
    exact hinOrder.not_precludes haction
  · exact fun heard report hdone hclosed =>
      (horderly.hear hdone).notice_of_closed hclosed report.moment report.notice
  · intro heard rest hgone
    cases hdone : (c.hear heard).isCrashed with
    | false => rw [hear_append hdone, hear_of_empty hdone ((horderly.hear hdone).quiet hgone)]
    | true => exact hear_append_of_crashed hrun.intact hdone rest

/-- A cluster that ends in the middle of a batch: the relay forbids the session to the second of its
two tunnels, and then the first one, which the cluster has let go of by then, reports as well. -/
def forbiddenCluster : Cluster :=
  (((ofConfig loopbackConfig).start ⟨1⟩).turn ⟨2⟩ (.noticed [⟨⟨2⟩, 1, .activity⟩])).turn ⟨3⟩
    (.noticed [⟨⟨3⟩, 2, .destroyed (some (.forbidden 403))⟩, ⟨⟨3⟩, 1, .activity⟩,
      ⟨⟨3⟩, 1, .destroyed none⟩])

/-- Both tunnels of a cluster that ended in the middle of a batch were reported as closed once. -/
theorem destruction_in_mid_batch :
    Reachable loopbackConfig ⟨3⟩ forbiddenCluster ∧ forbiddenCluster.state = .destroyed ∧
      forbiddenCluster.outbox.countP (closes 1) = 1 ∧
      forbiddenCluster.outbox.countP (closes 2) = 1 := by
  have hactive := reachable_loopback.turn ⟨2⟩ (.noticed [⟨⟨2⟩, 1, .activity⟩])
    (by decide +kernel) (by decide) ⟨⟨List.cons_ne_nil _ _, by decide, trivial⟩, by decide +kernel⟩
  have hrun : Reachable loopbackConfig ⟨3⟩ forbiddenCluster :=
    hactive.turn ⟨3⟩ (.noticed [⟨⟨3⟩, 2, .destroyed (some (.forbidden 403))⟩, ⟨⟨3⟩, 1, .activity⟩,
        ⟨⟨3⟩, 1, .destroyed none⟩])
      (by decide +kernel) (by decide)
      ⟨⟨List.cons_ne_nil _ _, by decide, by decide, by decide, trivial⟩, by decide +kernel⟩
  have hgone : forbiddenCluster.state = .destroyed := by decide +kernel
  have hclosed := ((reachable_destruction hrun).2.2.2.1 hgone).2.2.2.1
  exact ⟨hrun, hgone, hclosed 1 (by decide +kernel), hclosed 2 (by decide +kernel)⟩

end RelayTunnel.Cluster
