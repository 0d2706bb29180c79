import RelayTunnel.Proofs.Cluster.Effects

/-!
# Runs of a cluster

`Reachable config now c` says that a cluster started with `config` can be in the state `c` after a
turn that came to its end at `now`. A turn may come at any later moment and for any reason that is at
hand: a request, an end of all interest, any reports in any order, or a timer that is due. Nobody empties
the outbox of `c`, so it is the history of all the cluster has ever wanted done.

A turn in which the cluster crashes does not come to its end, and a cluster that has crashed takes no
turn any more.
-/

set_option autoImplicit false

namespace RelayTunnel

namespace Cluster

/-! ## Turns -/

/-- No reports change nothing. -/
@[simp] theorem hear_nil (c : Cluster) : c.hear [] = c := rfl

/-- A cluster that does not crash over a report goes on to the next. -/
theorem hear_cons {c : Cluster} {report : Report} (hdone : (c.heed report).isCrashed = false)
    (reports : List Report) : c.hear (report :: reports) = (c.heed report).hear reports := by
  rw [hear]
  exact if_neg (by simp [hdone])

/-- A cluster that crashes over a report hears no more. -/
theorem hear_cons_of_crashed {c : Cluster} {report : Report}
    (hcrashed : (c.heed report).isCrashed = true) (reports : List Report) :
    c.hear (report :: reports) = c.heed report := by
  rw [hear]
  exact if_pos hcrashed

/-- A cluster that hears some reports to the end has not crashed over the first. -/
theorem heed_of_hear {c : Cluster} {report : Report} {reports : List Report}
    (hdone : (c.hear (report :: reports)).isCrashed = false) : (c.heed report).isCrashed = false := by
  cases hfirst : (c.heed report).isCrashed with
  | false => rfl
  | true => rwa [hear_cons_of_crashed hfirst, hfirst] at hdone

/-- Reports that are heard to the end may be heard in two parts. -/
theorem hear_append {c : Cluster} {front : List Report} (hdone : (c.hear front).isCrashed = false)
    (behind : List Report) : c.hear (front ++ behind) = (c.hear front).hear behind := by
  induction front generalizing c with
  | nil => rfl
  | cons report front ih =>
    have hfirst := heed_of_hear hdone
    rw [hear_cons hfirst] at hdone ⊢
    rw [List.cons_append, hear_cons hfirst, ih hdone]

/-- A crash over some reports is the end of all. -/
theorem hear_append_of_crashed {c : Cluster} (hdone : c.isCrashed = false) {front : List Report}
    (hcrashed : (c.hear front).isCrashed = true) (behind : List Report) :
    c.hear (front ++ behind) = c.hear front := by
  induction front generalizing c with
  | nil => exact absurd (hdone.symm.trans hcrashed) Bool.false_ne_true
  | cons report front ih =>
    rw [List.cons_append]
    cases hfirst : (c.heed report).isCrashed with
    | true => rw [hear_cons_of_crashed hfirst, hear_cons_of_crashed hfirst]
    | false =>
      rw [hear_cons hfirst] at hcrashed
      rw [hear_cons hfirst, hear_cons hfirst, ih hfirst hcrashed]

/-- What every report keeps holds after all of them, as far as the cluster does not crash. -/
theorem hear_induction {P : Cluster → Prop}
    (step : ∀ c report, P c → (c.heed report).isCrashed = false → P (c.heed report))
    {reports : List Report} {c : Cluster} (hdone : (c.hear reports).isCrashed = false) (h : P c) :
    P (c.hear reports) := by
  induction reports generalizing c with
  | nil => exact h
  | cons report reports ih =>
    have hfirst := heed_of_hear hdone
    rw [hear_cons hfirst] at hdone ⊢
    exact ih hdone (step c report h hfirst)

/-- To publish is to copy what can be seen, if it has changed. -/
theorem publish_eq (c : Cluster) :
    c.publish =
      { c with
        changed := false
        snapshot := if c.changed then ⟨c.state, c.pool, c.errors, c.attempts⟩ else c.snapshot } := by
  rw [publish]
  split
  · rfl
  · next hchanged =>
    rw [Bool.not_eq_true] at hchanged
    rw [← hchanged]

/-- A turn that has to fill the pool does so and then publishes. -/
theorem settle_of_pending {c : Cluster} (h : c.fillPending = true) :
    c.settle = { c with fillPending := false }.fill.publish := by
  rw [settle, if_pos h]

/-- Any other turn publishes only. -/
theorem settle_of_not_pending {c : Cluster} (h : c.fillPending = false) : c.settle = c.publish := by
  rw [settle, if_neg (by simp [h])]

/-- Ending a turn keeps what filling and publishing keep. -/
theorem settle_induction {P : Cluster → Prop} {c : Cluster}
    (filled : c.fillPending = true → P { c with fillPending := false }.fill)
    (unfilled : c.fillPending = false → P c)
    (publish : ∀ c : Cluster, P c → P c.publish) : P c.settle := by
  cases hpending : c.fillPending with
  | true => rw [settle_of_pending hpending]; exact publish _ (filled hpending)
  | false => rw [settle_of_not_pending hpending]; exact publish _ (unfilled hpending)

/-- Filling changes the pool, what the cluster wants done, and nothing else. -/
theorem fill_keeps (c : Cluster) : ∃ pool nextId changed outbox,
    c.fill = { c with pool := pool, nextId := nextId, changed := changed, outbox := outbox } := by
  by_cases hstate : c.state = .destroyed
  · exact ⟨c.pool, c.nextId, c.changed, c.outbox, fill_of_destroyed hstate⟩
  · exact ⟨_, _, _, _, fill_of_live hstate⟩

/-- The end of a turn changes the pool, what the cluster wants done, and what is published. -/
theorem settle_keeps (c : Cluster) : ∃ pool nextId outbox snapshot,
    c.settle = { c with
      pool := pool
      nextId := nextId
      outbox := outbox
      fillPending := false
      changed := false
      snapshot := snapshot } := by
  cases hpending : c.fillPending with
  | true =>
    obtain ⟨pool, nextId, changed, outbox, hfill⟩ := fill_keeps { c with fillPending := false }
    exact ⟨pool, nextId, outbox, _, by rw [settle_of_pending hpending, publish_eq, hfill]⟩
  | false =>
    exact ⟨c.pool, c.nextId, c.outbox, _, by rw [settle_of_not_pending hpending, publish_eq, ← hpending]⟩

/-- To publish is no danger. -/
theorem isCrashed_publish (c : Cluster) : c.publish.isCrashed = c.isCrashed := by
  rw [publish_eq]

/-- A turn leaves nothing to be filled. -/
theorem fillPending_settle (c : Cluster) : c.settle.fillPending = false := by
  obtain ⟨_, _, _, _, hsettle⟩ := c.settle_keeps
  rw [hsettle]

/-- A turn leaves nothing to be published. -/
theorem changed_settle (c : Cluster) : c.settle.changed = false := by
  obtain ⟨_, _, _, _, hsettle⟩ := c.settle_keeps
  rw [hsettle]

/-- The end of a turn does not change the state. -/
theorem state_settle (c : Cluster) : c.settle.state = c.state := by
  obtain ⟨_, _, _, _, hsettle⟩ := c.settle_keeps
  rw [hsettle]

/-- The end of a turn is no danger. -/
theorem isCrashed_settle (c : Cluster) : c.settle.isCrashed = c.isCrashed := by
  obtain ⟨_, _, _, _, hsettle⟩ := c.settle_keeps
  rw [hsettle]

/-- A turn crashes exactly if the reaction does. -/
theorem isCrashed_turn (c : Cluster) (now : Instant) (trigger : Trigger) :
    (c.turn now trigger).isCrashed = (c.react now trigger).isCrashed := by
  rw [turn]
  split
  · rfl
  · exact isCrashed_settle _

/-- A turn without a crash ends by filling the pool and publishing. -/
theorem turn_eq_settle {c : Cluster} {now : Instant} {trigger : Trigger}
    (hdone : (c.react now trigger).isCrashed = false) :
    c.turn now trigger = (c.react now trigger).settle := by
  rw [turn]
  exact if_neg (by simp [hdone])

/-- A turn with a crash stops there. -/
theorem turn_of_crashed {c : Cluster} {now : Instant} {trigger : Trigger}
    (hcrashed : (c.react now trigger).isCrashed = true) :
    c.turn now trigger = c.react now trigger := by
  rw [turn]
  exact if_pos hcrashed

/-- A cluster is there as long as it has neither crashed nor been destroyed. -/
theorem isGone_eq_false_iff {c : Cluster} :
    c.isGone = false ↔ c.isCrashed = false ∧ c.state ≠ .destroyed := by
  simp [isGone]

/-- When the last of some reports is heard, from a moment on. -/
def lastMoment (begin_ : Instant) : List Report → Instant
  | [] => begin_
  | report :: reports => lastMoment report.moment reports

/-- Whether reports are heard one after the other, from a moment on. -/
def InTurn (begin_ : Instant) : List Report → Prop
  | [] => True
  | report :: reports => begin_.notAfter report.moment = true ∧ InTurn report.moment reports

/-- Whether a cluster can react to a trigger at a moment: a timer has to be due, and reports come in
batches of at least one and are heard one after the other. -/
def Admits (c : Cluster) (now : Instant) : Trigger → Prop
  | .endRequested _ | .abandoned => True
  | .noticed reports => reports ≠ [] ∧ InTurn now reports
  | .idleExpired => c.idleTimer.isDue now = true
  | .retryExpired => c.retryTimer.isDue now = true

/-- A cluster can react to a trigger and does not crash over it. -/
structure Takes (c : Cluster) (now : Instant) (trigger : Trigger) : Prop where
  admits : c.Admits now trigger
  done : (c.turn now trigger).isCrashed = false

/-- The reaction of a turn that comes to its end does not crash. -/
theorem Takes.react {c : Cluster} {now : Instant} {trigger : Trigger} (h : c.Takes now trigger) :
    (c.react now trigger).isCrashed = false :=
  (isCrashed_turn c now trigger).symm.trans h.done

/-- A turn that comes to its end is the reaction and what ends a turn. -/
theorem Takes.turn_eq {c : Cluster} {now : Instant} {trigger : Trigger} (h : c.Takes now trigger) :
    c.turn now trigger = (c.react now trigger).settle :=
  turn_eq_settle h.react

end Cluster

/-- When a turn that begins at a moment comes to its end. -/
def Trigger.ends (begin_ : Instant) : Trigger → Instant
  | .noticed reports => Cluster.lastMoment begin_ reports
  | _ => begin_

namespace Cluster

/-- The states of a cluster after its turns, with the moment at which the last of them came to its end. A
cluster that is gone takes no turn. -/
inductive Reachable (config : Config) : Instant → Cluster → Prop where
  | start (now : Instant) :
      ((ofConfig config).start now).isCrashed = false → Reachable config now ((ofConfig config).start now)
  | turn {now : Instant} {c : Cluster} (later : Instant) (trigger : Trigger) :
      Reachable config now c → c.state ≠ .destroyed → now.notAfter later = true →
      c.Takes later trigger → Reachable config (trigger.ends later) (c.turn later trigger)

/-- A cluster that has come to the end of its turns has not crashed. -/
theorem Reachable.intact {config : Config} {now : Instant} {c : Cluster}
    (h : Reachable config now c) : c.isCrashed = false := by
  cases h with
  | start _ hdone => exact hdone
  | turn _ _ _ _ _ htakes => exact htakes.done

/-- A cluster that can start its idle timer creates its first tunnel and publishes it. -/
theorem start_of_shown {config : Config} {now : Instant}
    (hshown : (now.after config.idleTimeout).isShown = true) :
    (ofConfig config).start now =
      ({ ofConfig config with
        idleTimer := (ofConfig config).idleTimer.restart now
        pool := [1]
        nextId := 2
        outbox := [.create 1] }).publish := by
  have hstart : (ofConfig config).idleTimer.start? now = (ofConfig config).idleTimer.restart? now := rfl
  rw [start, hstart, Timer.restart?_eq, if_pos (by exact hshown)]
  rfl

/-- A cluster that cannot start its idle timer crashes before it does anything else. -/
theorem start_of_hidden {config : Config} {now : Instant}
    (hhidden : (now.after config.idleTimeout).isShown = false) :
    (ofConfig config).start now = (ofConfig config).crash := by
  have hstart : (ofConfig config).idleTimer.start? now = (ofConfig config).idleTimer.restart? now := rfl
  rw [start, hstart, Timer.restart?_eq, if_neg (by exact Bool.eq_false_iff.mp hhidden)]

/-- The first tunnel of a cluster that can start its idle timer. -/
theorem start_eq {config : Config} {now : Instant}
    (hdone : ((ofConfig config).start now).isCrashed = false) :
    (ofConfig config).start now =
      ({ ofConfig config with
        idleTimer := (ofConfig config).idleTimer.restart now
        pool := [1]
        nextId := 2
        outbox := [.create 1] }).publish := by
  cases hshown : (now.after config.idleTimeout).isShown with
  | true => exact start_of_shown hshown
  | false =>
    rw [start_of_hidden hshown] at hdone
    cases hdone

end Cluster

end RelayTunnel
