import RelayTunnel.Proofs.Cluster.Moves

/-!
# Chronicles

A chronicle notes every event that a cluster has emitted, with the moment at which it was emitted and
what the turn was taken for. The outbox says neither when nor why. `Chronicle.keeps` is the way
to prove something about a cluster and its chronicle together: it is enough that it holds at the
start, that time does not change it, and that every move keeps it.
-/

set_option autoImplicit false

namespace RelayTunnel.Cluster

/-- An entry of a log with one more behind it is the new one or was in the log before. -/
theorem split_concat {α : Type} {log before after : List α} {r s : α}
    (h : log ++ [r] = before ++ s :: after) :
    (before = log ∧ s = r) ∨ ∃ mid, log = before ++ s :: mid := by
  rcases List.eq_nil_or_concat after with rfl | ⟨mid, last, rfl⟩
  · obtain ⟨hlog, hlast⟩ := List.append_inj' h rfl
    exact Or.inl ⟨hlog.symm, (List.cons.inj hlast).1.symm⟩
  · have hmid : log ++ [r] = (before ++ s :: mid) ++ [last] := by
      rw [h, List.concat_eq_append, List.append_assoc, List.cons_append]
    exact Or.inr ⟨mid, (List.append_inj' hmid rfl).1⟩

/-- Whatever is emitted in some moves is emitted in one of them. -/
theorem Moves.move_of_mem {trigger : Trigger} {begin_ now : Instant} {c c' : Cluster} {new : List Record}
    {added : List ClusterAction} {event : ClusterEvent} (h : Moves trigger begin_ c new added now c')
    (hmem : event ∈ events added) :
    ∃ moment c₁ part c₂, Move moment trigger c₁ part c₂ ∧ event ∈ events part ∧
      events part ⊆ events added := by
  induction h with
  | none => exact absurd hmem List.not_mem_nil
  | wait _ _ ih => exact ih hmem
  | @next _ front added now c₁ c₂ _ hmove ih =>
    rw [events_append] at hmem ⊢
    rcases List.mem_append.mp hmem with hfront | hadded
    · obtain ⟨_, _, part, _, hpart, hin, hsubset⟩ := ih hfront
      exact ⟨_, _, part, _, hpart, hin, List.Subset.trans hsubset (List.subset_append_left _ _)⟩
    · exact ⟨now, c₁, added, c₂, hmove, hadded, List.subset_append_right _ _⟩

/-- A run as in `Reachable`, with all that was emitted in it. -/
inductive Chronicle (config : Config) : List Record → Instant → Cluster → Prop where
  | start (now : Instant) : ((ofConfig config).start now).isCrashed = false →
      Chronicle config [] now ((ofConfig config).start now)
  | turn {log : List Record} {now : Instant} {c : Cluster} (later : Instant) (trigger : Trigger) :
      Chronicle config log now c → c.state ≠ .destroyed → now.notAfter later = true →
      c.Takes later trigger →
      Chronicle config (log ++ c.turnRecords later trigger) (trigger.ends later) (c.turn later trigger)

/-- A run with a chronicle is a run. -/
theorem Chronicle.reachable {config : Config} {log : List Record} {now : Instant} {c : Cluster}
    (h : Chronicle config log now c) : Reachable config now c := by
  induction h with
  | start now hdone => exact .start now hdone
  | turn later trigger _ hlive hlater htakes ih => exact .turn later trigger ih hlive hlater htakes

/-- Every run has a chronicle. -/
theorem Reachable.chronicle {config : Config} {now : Instant} {c : Cluster}
    (h : Reachable config now c) : ∃ log, Chronicle config log now c := by
  induction h with
  | start now hdone => exact ⟨[], .start now hdone⟩
  | turn later trigger _ hlive hlater htakes ih =>
    obtain ⟨log, hlog⟩ := ih
    exact ⟨_, .turn later trigger hlog hlive hlater htakes⟩

/-- A chronicle holds exactly the events of the outbox, in their order. -/
theorem Chronicle.map_event {config : Config} {log : List Record} {now : Instant} {c : Cluster}
    (h : Chronicle config log now c) : log.map Record.event = events c.outbox := by
  induction h with
  | start _ hdone =>
    rw [start_eq hdone, publish_eq]
    rfl
  | turn later trigger _ hlive _ htakes ih =>
    obtain ⟨_, hmoves⟩ := moves_turn hlive htakes
    rw [hmoves.outbox, events_append, List.map_append, ih, hmoves.map_event]

section Keeping

variable {I : List Record → Instant → Cluster → Prop}

/-- What holds before some moves holds after them, if it is kept by time and by every move. -/
theorem Moves.keeps {trigger : Trigger} {begin_ now : Instant} {log new : List Record} {c c' : Cluster}
    {added : List ClusterAction}
    (wait : ∀ log now later c, now.notAfter later = true → I log now c → I log later c)
    (move : ∀ log now c added c', Move now trigger c added c' → I log now c →
      I (log ++ records now trigger added) now c')
    (h : Moves trigger begin_ c new added now c') (hc : I log begin_ c) : I (log ++ new) now c' := by
  induction h with
  | none => exact (List.append_nil log).symm ▸ hc
  | wait _ hlater ih => exact wait _ _ _ _ hlater ih
  | next _ hmove ih =>
    rw [← List.append_assoc]
    exact move _ _ _ _ _ hmove ih

/-- What holds at the start, does not depend on the passing of time, and is kept by every move holds
of every run and its chronicle. -/
theorem Chronicle.keeps {config : Config} {log : List Record} {now : Instant} {c : Cluster}
    (start : ∀ now, ((ofConfig config).start now).isCrashed = false →
      I [] now ((ofConfig config).start now))
    (wait : ∀ log now later c, now.notAfter later = true → I log now c → I log later c)
    (move : ∀ log now trigger c added c', Move now trigger c added c' → I log now c →
      I (log ++ records now trigger added) now c')
    (h : Chronicle config log now c) : I log now c := by
  induction h with
  | start now hdone => exact start now hdone
  | turn later trigger _ hlive hlater htakes ih =>
    obtain ⟨_, hmoves⟩ := moves_turn hlive htakes
    exact hmoves.keeps wait (fun log now c added c' => move log now trigger c added c')
      (wait _ _ _ _ hlater ih)

end Keeping

end RelayTunnel.Cluster
