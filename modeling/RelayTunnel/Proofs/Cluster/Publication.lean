import Mathlib.Data.List.Chain
import Mathlib.Data.List.DropRight
import RelayTunnel.Proofs.Cluster.Chronicle
import RelayTunnel.Proofs.Cluster.Crashes

/-!
# What a cluster publishes

A cluster shows itself in two ways: by its events, and by a snapshot that it replaces at the end of a
turn if something has changed. `Agrees` says that its state, its counter and its log are what its
chronicle tells, and that a snapshot that is not marked as out of date shows the cluster as it is.
Every move keeps this, so the two never contradict each other (`chronicle_published`).

Whoever asks a cluster to end waits until it has answered or is gone. Then the snapshot shows the end, unless
the cluster has crashed: a cluster that crashes leaves its last snapshot as it is. A usable configuration
does not exclude this (`endlessCluster_unpublished`).
-/

set_option autoImplicit false

namespace RelayTunnel.Cluster

/-! ## What a chronicle tells -/

namespace Record

/-- The state that a record announces. -/
def state? (r : Record) : Option ClusterState :=
  match r.event with
  | .state state => some state
  | _ => none

/-- How often the relay has been tried again as of a record. -/
def attempts? (r : Record) : Option Nat :=
  match r.event with
  | .connect _ => some 0
  | .reconnect n => some n
  | _ => none

/-- The message that a record adds to the log. A tunnel that fails adds one, and so does a cluster
that ends when its retry timer expires. Other ends are not logged again, or were asked for. -/
def message? (r : Record) : Option String :=
  match r.event with
  | .tunnelClosed _ (some error) => some error.message
  | .destroyed (some error) =>
      match r.trigger with
      | .retryExpired => some error.message
      | _ => none
  | _ => none

end Record

section Parting

variable {α : Type} {f : Record → Option α} (now : Instant) (trigger : Trigger)

/-- One event tells what it tells, and nothing besides. -/
theorem filterMap_emit (event : ClusterEvent) :
    (records now trigger [.emit event]).filterMap f = (f ⟨now, trigger, event⟩).toList := by
  rw [records, events_emit, events_nil, List.map_singleton, List.filterMap_cons]
  cases f ⟨now, trigger, event⟩ <;> rfl

/-- Letting go of tunnels tells nothing but their closings. -/
theorem filterMap_releases (h : ∀ id, f ⟨now, trigger, .tunnelClosed id none⟩ = none)
    (ids : List TunnelId) : (records now trigger (releases ids)).filterMap f = [] := by
  rw [records, events_releases, List.map_map]
  refine List.filterMap_eq_nil_iff.mpr fun r hr => ?_
  obtain ⟨id, _, rfl⟩ := List.mem_map.mp hr
  exact h id

/-- The end of a cluster tells of the state and of the end, if closings tell nothing. -/
theorem filterMap_farewell (h : ∀ id, f ⟨now, trigger, .tunnelClosed id none⟩ = none) (c : Cluster)
    (error : Option TunnelError) :
    (records now trigger (c.farewell error)).filterMap f =
      (f ⟨now, trigger, .state .destroyed⟩).toList ++ (f ⟨now, trigger, .destroyed error⟩).toList := by
  have hsplit : c.farewell error =
      [.emit (.state .destroyed)] ++ (releases c.pool.reverse ++ [.emit (.destroyed error)]) := rfl
  rw [hsplit, records_append, records_append, List.filterMap_append, List.filterMap_append,
    filterMap_releases now trigger h, filterMap_emit, filterMap_emit, List.nil_append]

/-- Becoming idle tells of the state only, if closings tell nothing. -/
theorem filterMap_calming (h : ∀ id, f ⟨now, trigger, .tunnelClosed id none⟩ = none)
    (ids : List TunnelId) (state : ClusterState) :
    (records now trigger (releases ids ++ [.emit (.state state)])).filterMap f =
      (f ⟨now, trigger, .state state⟩).toList := by
  rw [records_append, List.filterMap_append, filterMap_releases now trigger h, filterMap_emit,
    List.nil_append]

end Parting

/-- A log that keeps the most recent messages keeps the end of all messages. -/
theorem logged_rtake (all : List String) (message : String) :
    logged (all.rtake errorCapacity) message = (all ++ [message]).rtake errorCapacity := by
  have hlength : (all.rtake errorCapacity).length = min all.length errorCapacity := by
    rw [List.rtake, List.length_drop]
    omega
  rw [logged, hlength, List.rtake, List.rtake, List.length_append, List.length_singleton]
  by_cases hfull : errorCapacity ≤ all.length
  · have hpos : 0 < errorCapacity := by decide
    have hdrop : all.length + 1 - errorCapacity = all.length - errorCapacity + 1 := by omega
    rw [if_pos (Nat.min_eq_right hfull), List.drop_drop, hdrop,
      List.drop_append_of_le_length (by omega)]
  · have hnone : all.length - errorCapacity = 0 := by omega
    have hnone' : all.length + 1 - errorCapacity = 0 := by omega
    rw [if_neg (by omega), hnone, hnone', List.drop_zero, List.drop_zero]

/-! ## The cluster and its chronicle -/

/-- The cluster is what its chronicle tells, and the snapshot, unless it is marked as out of date,
shows the cluster. -/
structure Agrees (log : List Record) (c : Cluster) : Prop where
  state : c.state = (log.filterMap Record.state?).getLastD .idle
  changes : (.idle :: log.filterMap Record.state?).IsChain (· ≠ ·)
  attempts : c.attempts = (log.filterMap Record.attempts?).getLastD 0
  errors : c.errors = (log.filterMap Record.message?).rtake errorCapacity
  published : c.changed = false → c.snapshot = ⟨c.state, c.pool, c.errors, c.attempts⟩

namespace Agrees

variable {log new : List Record} {c c' : Cluster}

/-- A log may grow by records that tell what has changed, and that nothing has changed where they are
silent. -/
theorem grow (h : Agrees log c)
    (hstate : (new.filterMap Record.state? = [] ∧ c'.state = c.state) ∨
      (new.filterMap Record.state? = [c'.state] ∧ c'.state ≠ c.state))
    (hattempts : (new.filterMap Record.attempts? = [] ∧ c'.attempts = c.attempts) ∨
      new.filterMap Record.attempts? = [c'.attempts])
    (herrors : (new.filterMap Record.message? = [] ∧ c'.errors = c.errors) ∨
      ∃ message, new.filterMap Record.message? = [message] ∧ c'.errors = logged c.errors message)
    (hpublished : c'.changed = false → c'.snapshot = ⟨c'.state, c'.pool, c'.errors, c'.attempts⟩) :
    Agrees (log ++ new) c' := by
  refine ⟨?_, ?_, ?_, ?_, hpublished⟩
  · rw [List.filterMap_append]
    rcases hstate with ⟨hnone, hsame⟩ | ⟨hone, _⟩
    · rw [hnone, hsame, List.append_nil, h.state]
    · rw [hone, List.getLastD_concat]
  · rw [List.filterMap_append]
    rcases hstate with ⟨hnone, hsame⟩ | ⟨hone, hdiffers⟩
    · rw [hnone, List.append_nil]
      exact h.changes
    · rw [hone, ← List.cons_append, List.isChain_append]
      refine ⟨h.changes, List.isChain_singleton _, fun last hlast next hnext => ?_⟩
      obtain rfl : c'.state = next := Option.some.inj hnext
      rw [List.getLast?_cons, ← List.getLastD_eq_getLast?, ← h.state] at hlast
      obtain rfl : c.state = last := Option.some.inj hlast
      exact hdiffers.symm
  · rw [List.filterMap_append]
    rcases hattempts with ⟨hnone, hsame⟩ | hone
    · rw [hnone, hsame, List.append_nil, h.attempts]
    · rw [hone, List.getLastD_concat]
  · rw [List.filterMap_append]
    rcases herrors with ⟨hnone, hsame⟩ | ⟨message, hone, hlogged⟩
    · rw [hnone, hsame, List.append_nil, h.errors]
    · rw [hone, hlogged, h.errors, logged_rtake]

/-- Every move keeps the cluster and its chronicle in agreement. -/
theorem move {now : Instant} {trigger : Trigger} {added : List ClusterAction} (h : Agrees log c)
    (hmove : Move now trigger c added c') : Agrees (log ++ records now trigger added) c' := by
  cases hmove with
  | connected => exact h.grow (Or.inl ⟨rfl, rfl⟩) (Or.inr rfl) (Or.inl ⟨rfl, rfl⟩) nofun
  | woken hidle =>
    refine h.grow (Or.inr ⟨rfl, ?_⟩) (Or.inl ⟨rfl, rfl⟩) (Or.inl ⟨rfl, rfl⟩) nofun
    rw [hidle]
    exact ClusterState.noConfusion
  | stirred => exact h.grow (Or.inl ⟨rfl, rfl⟩) (Or.inl ⟨rfl, rfl⟩) (Or.inl ⟨rfl, rfl⟩) h.published
  | closed => exact h.grow (Or.inl ⟨rfl, rfl⟩) (Or.inl ⟨rfl, rfl⟩) (Or.inl ⟨rfl, rfl⟩) nofun
  | failed | condemned =>
    exact h.grow (Or.inl ⟨rfl, rfl⟩) (Or.inl ⟨rfl, rfl⟩) (Or.inr ⟨_, rfl, rfl⟩) nofun
  | @ended _ _ error hlive hcause =>
    -- what is logged at an end is logged when the retry timer expires, and this end has other causes
    have hunlogged : Record.message? ⟨now, trigger, .destroyed error⟩ = none := by
      cases hcause with
      | requested => cases error <;> rfl
      | abandoned | fatal => rfl
    refine h.grow (Or.inr ⟨filterMap_farewell now trigger (fun _ => rfl) c _, hlive.symm⟩)
      (Or.inl ⟨filterMap_farewell now trigger (fun _ => rfl) c _, rfl⟩) (Or.inl ⟨?_, rfl⟩) nofun
    rw [filterMap_farewell now trigger (fun _ => rfl), hunlogged]
    rfl
  | calmed hactive =>
    refine h.grow (Or.inr ⟨filterMap_calming now _ (fun _ => rfl) _ _, ?_⟩)
      (Or.inl ⟨filterMap_calming now _ (fun _ => rfl) _ _, rfl⟩)
      (Or.inl ⟨filterMap_calming now _ (fun _ => rfl) _ _, rfl⟩) nofun
    rw [hactive]
    exact ClusterState.noConfusion
  | dozed | spared | acknowledged =>
    exact h.grow (Or.inl ⟨rfl, rfl⟩) (Or.inl ⟨rfl, rfl⟩) (Or.inl ⟨rfl, rfl⟩) h.published
  | retried hlive =>
    refine h.grow ?_ (Or.inr ?_) (Or.inl ⟨?_, rfl⟩) nofun
    · by_cases hidle : c.state = .idle
      · rw [if_pos hidle]
        exact Or.inl ⟨rfl, hidle.symm⟩
      · rw [if_neg hidle]
        exact Or.inr ⟨rfl, fun hsame => hidle hsame.symm⟩
    · split <;> rfl
    · split <;> rfl
  | surrendered hlive =>
    exact h.grow (Or.inr ⟨filterMap_farewell now _ (fun _ => rfl) c _, hlive.symm⟩)
      (Or.inl ⟨filterMap_farewell now _ (fun _ => rfl) c _, rfl⟩)
      (Or.inr ⟨_, filterMap_farewell now _ (fun _ => rfl) c _, rfl⟩) nofun
  | filled =>
    have hnone : records now trigger (c.newcomers.map .create) = [] := by
      rw [records, events_creations, List.map_nil]
    rw [hnone]
    refine h.grow (Or.inl ⟨rfl, rfl⟩) (Or.inl ⟨rfl, rfl⟩) (Or.inl ⟨rfl, rfl⟩) fun hsame => ?_
    obtain ⟨hold, hmissing⟩ : c.changed = false ∧ c.missing = 0 := by simpa using hsame
    have hnew : c.newcomers = [] := by rw [newcomers, hmissing]; rfl
    show c.snapshot = ⟨c.state, c.pool ++ c.newcomers, c.errors, c.attempts⟩
    rw [hnew, List.append_nil, h.published hold]
  | published =>
    refine h.grow (Or.inl ⟨rfl, rfl⟩) (Or.inl ⟨rfl, rfl⟩) (Or.inl ⟨rfl, rfl⟩) fun _ => ?_
    cases hchanged : c.changed with
    | true => rfl
    | false => exact h.published hchanged

end Agrees

/-- A cluster that has just been started agrees with an empty chronicle. -/
theorem agrees_start {config : Config} (now : Instant)
    (hdone : ((ofConfig config).start now).isCrashed = false) :
    Agrees [] ((ofConfig config).start now) := by
  rw [start_eq hdone, publish_eq]
  exact ⟨rfl, List.isChain_singleton _, rfl, rfl, fun _ => rfl⟩

/-- In every run, the cluster and its chronicle agree. -/
theorem Chronicle.agrees {config : Config} {log : List Record} {now : Instant} {c : Cluster}
    (h : Chronicle config log now c) : Agrees log c :=
  h.keeps (I := fun log _ c => Agrees log c) agrees_start (fun _ _ _ _ _ h => h)
    fun _ _ _ _ _ _ hmove h => h.move hmove

/-! ## Answers -/

/-- A move that answers someone leaves the cluster gone. -/
theorem Move.destroyed_of_acknowledge {now : Instant} {trigger : Trigger} {c c' : Cluster}
    {added : List ClusterAction} (h : Move now trigger c added c')
    (hold : .acknowledge ∈ c.outbox → c.state = .destroyed) (hanswer : .acknowledge ∈ c'.outbox) :
    c'.state = .destroyed := by
  have hgone : .acknowledge ∉ added → c.state = .destroyed := by
    intro hnew
    rw [h.outbox] at hanswer
    exact hold ((List.mem_append.mp hanswer).resolve_right hnew)
  cases h with
  | ended | surrendered => rfl
  | acknowledged hended => exact hended
  | filled | published => exact hgone (by simp)
  | connected hlive | closed hlive | failed hlive | condemned hlive | spared hlive =>
    exact absurd (hgone (by simp)) hlive
  | retried hlive =>
    refine absurd (hgone ?_) hlive
    split <;> simp
  | woken hstate | stirred hstate | dozed hstate =>
    exact ClusterState.noConfusion (hstate.symm.trans (hgone (by simp)))
  | calmed hstate =>
    exact ClusterState.noConfusion (hstate.symm.trans (hgone (by simp [releases])))

/-- No one is answered before the cluster has ended. -/
theorem Chronicle.destroyed_of_acknowledge {config : Config} {log : List Record} {now : Instant}
    {c : Cluster} (h : Chronicle config log now c) :
    .acknowledge ∈ c.outbox → c.state = .destroyed := by
  refine h.keeps (I := fun _ _ c => .acknowledge ∈ c.outbox → c.state = .destroyed) ?_
    (fun _ _ _ _ _ h => h) fun _ _ _ _ _ _ hmove h => hmove.destroyed_of_acknowledge h
  intro now hdone hanswer
  rw [start_eq hdone, publish_eq] at hanswer
  cases List.mem_singleton.mp hanswer

/-- Whether whoever has asked a cluster to end waits no more: the cluster has answered, or it is gone, so
that nobody is left who could. -/
def Resolves (c : Cluster) : Prop := .acknowledge ∈ c.outbox ∨ c.isGone = true

/-- A snapshot of a cluster that has ended. -/
def ShowsEnd (s : Snapshot) : Prop := s.state = .destroyed ∧ s.tunnels = []

/-- After a turn, whoever waits no more finds the end. -/
theorem Chronicle.showsEnd {config : Config} {log : List Record} {now : Instant} {c : Cluster}
    (h : Chronicle config log now c) (hend : c.state = .destroyed ∨ Resolves c) :
    ShowsEnd c.snapshot := by
  have hreach := h.reachable
  have hgone : c.state = .destroyed := by
    rcases hend with hgone | hanswer | hgone
    · exact hgone
    · exact h.destroyed_of_acknowledge hanswer
    · simpa [isGone, hreach.intact] using hgone
  rw [h.agrees.published hreach.changed]
  exact ⟨hgone, hreach.orderly.quiet hgone⟩

/-- A live cluster publishes that it is alive. -/
theorem Chronicle.not_showsEnd {config : Config} {log : List Record} {now : Instant} {c : Cluster}
    (h : Chronicle config log now c) (hlive : c.state ≠ .destroyed) : ¬ ShowsEnd c.snapshot := by
  rw [h.agrees.published h.reachable.changed]
  exact fun hshows => hlive hshows.1

/-- Wherever a cluster is found, whoever waits no more finds the end exactly if it has not crashed. -/
theorem Found.showsEnd_iff {config : Config} {c : Cluster} (h : Found config c) (hwaits : Resolves c) :
    ShowsEnd c.snapshot ↔ c.isCrashed = false := by
  cases h with
  | settled hrun =>
    obtain ⟨log, hlog⟩ := hrun.chronicle
    exact iff_of_true (hlog.showsEnd (Or.inr hwaits)) hrun.intact
  | stillborn now hcrashed =>
    cases hshown : (now.after config.idleTimeout).isShown with
    | true =>
      rw [start_of_shown hshown, isCrashed_publish] at hcrashed
      cases hcrashed
    | false =>
      rw [start_of_hidden hshown]
      exact iff_of_false (fun hshows => ClusterState.noConfusion hshows.1) Bool.noConfusion
  | crashed later trigger hrun hlive _ _ hcrashed =>
    obtain ⟨log, hlog⟩ := hrun.chronicle
    rw [(silent_of_crashed hrun.intact hlive hcrashed).snapshot]
    exact iff_of_false (hlog.not_showsEnd hlive) (by simp [hcrashed])

/-- The events of a cluster and what it publishes agree, in every run. After every turn the snapshot
shows the cluster as it is. Its state is the one announced last, and no state is announced twice in a
row. Its counter is that of the last opening or retry, and its log holds the last hundred messages, of
tunnels that failed and of a retry timer that ended the cluster. Once the cluster has ended, and in any
case once someone has been answered, the snapshot shows the end and no tunnels; and whoever asks a live
cluster to end is answered with just that snapshot in place.

Wherever the cluster is found, be it after a turn or where it has crashed, whoever has asked it to end and
waits no more finds the end exactly if the cluster has not crashed. A turn in which it crashes leaves the
snapshot as it was, and answers no one. -/
theorem chronicle_published {config : Config} {log : List Record} {now : Instant} {c : Cluster}
    (hrun : Chronicle config log now c) :
    c.snapshot = ⟨c.state, c.pool, c.errors, c.attempts⟩ ∧
    c.snapshot.state = (log.filterMap Record.state?).getLastD .idle ∧
    (.idle :: log.filterMap Record.state?).IsChain (· ≠ ·) ∧
    c.snapshot.reconnectAttempts = (log.filterMap Record.attempts?).getLastD 0 ∧
    c.snapshot.errors = (log.filterMap Record.message?).rtake 100 ∧
    (c.state = .destroyed ∨ Resolves c → ShowsEnd c.snapshot) ∧
    (∀ later error, c.state ≠ .destroyed → ∃ told : Cluster,
      c.react later (.endRequested error) = told.act .acknowledge ∧ ShowsEnd told.snapshot) ∧
    (∀ later trigger, c.state ≠ .destroyed → (c.turn later trigger).isCrashed = true →
      (c.turn later trigger).snapshot = c.snapshot ∧
      (.acknowledge ∈ (c.turn later trigger).outbox → .acknowledge ∈ c.outbox)) ∧
    ∀ c', Found config c' → Resolves c' → (ShowsEnd c'.snapshot ↔ c'.isCrashed = false) := by
  have hagrees := hrun.agrees
  have hreach := hrun.reachable
  have hsnapshot := hagrees.published hreach.changed
  refine ⟨hsnapshot, ?_, hagrees.changes, ?_, ?_, hrun.showsEnd, ?_, ?_, ?_⟩
  · rw [hsnapshot]
    exact hagrees.state
  · rw [hsnapshot]
    exact hagrees.attempts
  · rw [hsnapshot]
    exact hagrees.errors
  · intro later error hlive
    refine ⟨(c.ended error).publish, ?_, ?_⟩
    · show (c.destroy error).publish.act .acknowledge = _
      rw [destroy_eq_ended hlive]
    · rw [publish_eq]
      exact ⟨rfl, rfl⟩
  · intro later trigger hlive hcrashed
    have hsilent := silent_of_crashed hreach.intact hlive hcrashed
    exact ⟨hsilent.snapshot, hsilent.unanswered⟩
  · exact fun c' hfound hwaits => hfound.showsEnd_iff hwaits

/-- A cluster that is asked to end after its first tunnel has failed. -/
def dismissedCluster : Cluster :=
  (((ofConfig loopbackConfig).start ⟨1⟩).turn ⟨2⟩
    (.noticed [⟨⟨2⟩, 1, .destroyed (some .openingClosed)⟩])).turn ⟨3⟩ (.endRequested none)

/-- The failure is all that such a cluster has logged, and the end is published. -/
theorem published_after_dismissal :
    ∃ log, Chronicle loopbackConfig log ⟨3⟩ dismissedCluster ∧
      (log.filterMap Record.message?).rtake 100 = ["relay closed the connection during handshake"] ∧
      dismissedCluster.snapshot.state = .destroyed ∧ dismissedCluster.snapshot.tunnels = [] := by
  have hfailed := reachable_loopback.turn ⟨2⟩ (.noticed [⟨⟨2⟩, 1, .destroyed (some .openingClosed)⟩])
    (by decide +kernel) (by decide) ⟨⟨List.cons_ne_nil _ _, by decide, trivial⟩, by decide +kernel⟩
  have hrun : Reachable loopbackConfig ⟨3⟩ dismissedCluster :=
    hfailed.turn ⟨3⟩ (.endRequested none) (by decide +kernel) (by decide) ⟨trivial, by decide +kernel⟩
  obtain ⟨log, hlog⟩ := hrun.chronicle
  obtain ⟨_, _, _, _, herrors, hend, _⟩ := chronicle_published hlog
  refine ⟨log, hlog, herrors.symm.trans ?_, hend (Or.inl (by decide +kernel))⟩
  decide +kernel

/-- A usable configuration by which a cluster becomes idle only after the longest time. -/
def endlessConfig : Config := { loopbackConfig with idleTimeout := endlessTime }

/-- The configuration is valid, as no option has an upper bound. -/
theorem validate_endlessConfig : endlessConfig.validate = .ok ⟨"[::1]", 80, false, false, "/abc"⟩ :=
  Config.eq_ok_of_toOption (by decide +kernel)

/-- A cluster with that configuration crashes as soon as it is started. Whoever asks it to end waits no more,
and finds it idle. -/
theorem endlessCluster_unpublished :
    endlessConfig.validate = .ok ⟨"[::1]", 80, false, false, "/abc"⟩ ∧
      Found endlessConfig ((ofConfig endlessConfig).start ⟨1⟩) ∧
      Resolves ((ofConfig endlessConfig).start ⟨1⟩) ∧
      ((ofConfig endlessConfig).start ⟨1⟩).snapshot.state = .idle := by
  have hcrashed : ((ofConfig endlessConfig).start ⟨1⟩).isCrashed = true := by decide +kernel
  exact ⟨validate_endlessConfig, .stillborn ⟨1⟩ hcrashed, Or.inr (by decide +kernel), by decide +kernel⟩

end RelayTunnel.Cluster
