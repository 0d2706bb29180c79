import Mathlib.Data.List.DropRight
import RelayTunnel.Proofs.Cluster.Chronicle
import RelayTunnel.Proofs.Cluster.Destruction

/-!
# The retry budget

The counter of a cluster says how often the relay has been tried again since a tunnel last opened its
session, and its retry timer never runs out earlier than the delay after the last retry. `Budgeted`
holds both against the chronicle. A retry needs the timer to be due and arms it again, and so the
retries are as many as the counter allows, numbered in order, and apart (`chronicle_retries`).
-/

set_option autoImplicit false

namespace RelayTunnel.Cluster

/-! ## Retries in a chronicle -/

namespace Record

def isConnect (r : Record) : Bool :=
  match r.event with
  | .connect _ => true
  | _ => false

/-- The number of a retry. -/
def retryNumber? (r : Record) : Option Nat :=
  match r.event with
  | .reconnect n => some n
  | _ => none

/-- The number of retries after which a cluster gives up on the relay. Whoever asks for the end of a
cluster may name the same error, but that is no surrender. -/
def surrender? (r : Record) : Option Nat :=
  match r.event with
  | .destroyed (some (.serverUnreachable n)) =>
      match r.trigger with
      | .endRequested _ => none
      | _ => some n
  | _ => none

/-- A record that has nothing to do with retries. -/
def IsAside (r : Record) : Prop := r.isConnect = false ∧ r.retryNumber? = none ∧ r.surrender? = none

section Aside

variable {now : Instant} {trigger : Trigger} {c : Cluster} {error : Option TunnelError}

/-- Activity has nothing to do with retries. -/
@[simp] theorem isAside_activity {id : TunnelId} : IsAside ⟨now, trigger, .activity id⟩ :=
  ⟨rfl, rfl, rfl⟩

/-- Nor has a change of the state. -/
@[simp] theorem isAside_state {state : ClusterState} : IsAside ⟨now, trigger, .state state⟩ :=
  ⟨rfl, rfl, rfl⟩

/-- Nor has the closing of a tunnel. -/
@[simp] theorem isAside_closing {id : TunnelId} : IsAside ⟨now, trigger, .tunnelClosed id error⟩ :=
  ⟨rfl, rfl, rfl⟩

/-- An end for which there is another cause is no surrender. -/
theorem isAside_destroyed (h : c.EndsWith trigger error) :
    IsAside ⟨now, trigger, .destroyed error⟩ := by
  refine ⟨rfl, rfl, ?_⟩
  cases h with
  | requested error =>
    cases error with
    | none => rfl
    | some error => cases error <;> rfl
  | abandoned => rfl
  | @fatal _ error hfatal =>
    cases error with
    | serverUnreachable => simp [isFatal, TunnelError.code] at hfatal
    | _ => rfl

/-- Such an end has nothing to do with retries, nor have the closings before it. -/
theorem isAside_farewell (h : c.EndsWith trigger error) :
    ∀ event ∈ events (c.farewell error), IsAside ⟨now, trigger, event⟩ := by
  simpa [events_farewell, or_imp, forall_and] using isAside_destroyed h

/-- Letting go of tunnels in order to become idle has nothing to do with retries. -/
theorem isAside_releases (ids : List TunnelId) (state : ClusterState) :
    ∀ event ∈ events (releases ids ++ [.emit (.state state)]), IsAside ⟨now, trigger, event⟩ := by
  simp [or_imp, forall_and]

end Aside

end Record

/-- How often the relay has been tried again since a tunnel last opened its session. -/
def retries (log : List Record) : Nat := (log.rtakeWhile (!·.isConnect)).countP (·.retryNumber?.isSome)

/-- The retries between two openings are numbered from one on. -/
def Numbered (log : List Record) : Prop :=
  ∀ before r after n, log = before ++ r :: after → r.retryNumber? = some n → n = retries before + 1

/-- A cluster gives up after exactly so many retries, and says so. -/
def Exhaustive (limit : Nat) (log : List Record) : Prop :=
  ∀ before r after n, log = before ++ r :: after → r.surrender? = some n →
    n = retries before ∧ n = limit

/-- Between a retry and the next one, and between a retry and a surrender, there is the delay. -/
def Apart (delay : Duration) (log : List Record) : Prop :=
  log.Pairwise fun earlier later => earlier.retryNumber?.isSome →
    later.retryNumber?.isSome ∨ later.surrender?.isSome →
    (earlier.moment.after delay).notAfter later.moment = true

section Counting

variable {log : List Record} {r : Record}

/-- A session that opens sets the count to zero. -/
theorem retries_concat_of_connect (h : r.isConnect = true) : retries (log ++ [r]) = 0 := by
  rw [retries, List.rtakeWhile_concat_neg _ _ _ (by simp [h])]
  rfl

/-- Anything else adds one to the count if it is a retry. -/
theorem retries_concat (h : r.isConnect = false) :
    retries (log ++ [r]) = retries log + if r.retryNumber?.isSome then 1 else 0 := by
  rw [retries, List.rtakeWhile_concat_pos _ _ _ (by simp [h]), List.countP_append,
    List.countP_singleton]
  rfl

/-- The numbers stay right if a retry that is added has the next one. -/
theorem Numbered.concat (h : Numbered log) (hr : ∀ n, r.retryNumber? = some n → n = retries log + 1) :
    Numbered (log ++ [r]) := by
  intro before s after n hsplit hs
  rcases split_concat hsplit with ⟨rfl, rfl⟩ | ⟨mid, hmid⟩
  · exact hr n hs
  · exact h before s mid n hmid hs

/-- A surrender that is added stands at the limit and says so. -/
theorem Exhaustive.concat {limit : Nat} (h : Exhaustive limit log)
    (hr : ∀ n, r.surrender? = some n → n = retries log ∧ n = limit) :
    Exhaustive limit (log ++ [r]) := by
  intro before s after n hsplit hs
  rcases split_concat hsplit with ⟨rfl, rfl⟩ | ⟨mid, hmid⟩
  · exact hr n hs
  · exact h before s mid n hmid hs

end Counting

/-! ## The counter, the timer and the chronicle -/

/-- The counter is the number of retries since a tunnel last opened its session, and it stays within
the limit. If the retry timer runs, then at least until the delay has passed since every retry. -/
structure Budgeted (config : Config) (log : List Record) (now : Instant) (c : Cluster) : Prop where
  limit : c.rules.retryCount = config.retryCount.toNat
  delay : c.retryTimer.delay = config.retryDelay
  counted : c.attempts = retries log
  within : c.attempts ≤ c.rules.retryCount
  numbered : Numbered log
  exhaustive : Exhaustive config.retryCount.toNat log
  apart : Apart config.retryDelay log
  past : ∀ r ∈ log, r.retryNumber?.isSome → r.moment.notAfter now = true
  waiting : ∀ r ∈ log, r.retryNumber?.isSome → ∀ deadline, c.retryTimer.deadline = some deadline →
    (r.moment.after config.retryDelay).notAfter deadline = true

namespace Budgeted

variable {config : Config} {log : List Record} {now : Instant} {trigger : Trigger} {c c' : Cluster}

/-- When the retry timer is due, the delay has passed since every retry. -/
theorem passed (h : Budgeted config log now c) (hdue : c.retryTimer.isDue now = true) :
    ∀ r ∈ log, r.retryNumber?.isSome → (r.moment.after config.retryDelay).notAfter now = true := by
  intro r hr hretry
  cases hdeadline : c.retryTimer.deadline with
  | none => simp [Timer.isDue, hdeadline] at hdue
  | some deadline =>
    have hcome : deadline.notAfter now = true := by simpa [Timer.isDue, hdeadline] using hdue
    exact Instant.notAfter_trans (h.waiting r hr hretry deadline hdeadline) hcome

/-- The timer may be left alone, stopped, or armed anew. -/
theorem waiting_of_timer (h : Budgeted config log now c)
    (htimer : c'.retryTimer = c.retryTimer ∨ c'.retryTimer = c.retryTimer.stop ∨
      c'.retryTimer = c.retryTimer.restart now) :
    c'.retryTimer.delay = config.retryDelay ∧
      ∀ r ∈ log, r.retryNumber?.isSome → ∀ deadline, c'.retryTimer.deadline = some deadline →
        (r.moment.after config.retryDelay).notAfter deadline = true := by
  rcases htimer with hsame | hstopped | harmed
  · rw [hsame]
    exact ⟨h.delay, h.waiting⟩
  · rw [hstopped]
    refine ⟨h.delay, fun r _ _ deadline hdeadline => ?_⟩
    cases hdeadline
  · rw [harmed]
    refine ⟨h.delay, fun r hr hretry deadline hdeadline => ?_⟩
    obtain rfl : now.after c.retryTimer.delay = deadline := Option.some.inj hdeadline
    rw [h.delay]
    exact Instant.after_notAfter (h.past r hr hretry) _

/-- Time that passes takes nothing from the budget. -/
theorem wait (h : Budgeted config log now c) {later : Instant} (hlater : now.notAfter later = true) :
    Budgeted config log later c :=
  { h with past := fun r hr hretry => Instant.notAfter_trans (h.past r hr hretry) hlater }

/-- A change of the cluster that the chronicle does not see. -/
theorem change (h : Budgeted config log now c) (hrules : c'.rules = c.rules)
    (hattempts : c'.attempts = c.attempts)
    (htimer : c'.retryTimer = c.retryTimer ∨ c'.retryTimer = c.retryTimer.stop ∨
      c'.retryTimer = c.retryTimer.restart now) : Budgeted config log now c' := by
  obtain ⟨hdelay, hwaiting⟩ := h.waiting_of_timer htimer
  refine ⟨?_, hdelay, ?_, ?_, h.numbered, h.exhaustive, h.apart, h.past, hwaiting⟩
  · rw [hrules, h.limit]
  · rw [hattempts, h.counted]
  · rw [hattempts, hrules]
    exact h.within

/-- One more record. A retry or a surrender needs the timer to be due, and a retry arms it again. -/
theorem concat (h : Budgeted config log now c) {event : ClusterEvent}
    (hrules : c'.rules = c.rules) (hwithin : c'.attempts ≤ c.rules.retryCount)
    (hcounted : c'.attempts = retries (log ++ [⟨now, trigger, event⟩]))
    (hretry : ∀ n, Record.retryNumber? ⟨now, trigger, event⟩ = some n →
      n = retries log + 1 ∧ c.retryTimer.isDue now = true ∧
        c'.retryTimer = c.retryTimer.restart now)
    (hsurrender : ∀ n, Record.surrender? ⟨now, trigger, event⟩ = some n →
      (n = retries log ∧ n = c.rules.retryCount) ∧ c.retryTimer.isDue now = true)
    (htimer : c'.retryTimer = c.retryTimer ∨ c'.retryTimer = c.retryTimer.stop ∨
      c'.retryTimer = c.retryTimer.restart now) :
    Budgeted config (log ++ [⟨now, trigger, event⟩]) now c' := by
  obtain ⟨hdelay, hwaiting⟩ := h.waiting_of_timer htimer
  have hnumbered := h.numbered.concat fun n hn => (hretry n hn).1
  have hexhaustive := h.exhaustive.concat fun n hn => h.limit ▸ (hsurrender n hn).1
  refine ⟨?_, hdelay, hcounted, ?_, hnumbered, hexhaustive, ?_, ?_, ?_⟩
  · rw [hrules, h.limit]
  · rw [hrules]
    exact hwithin
  · refine List.pairwise_append.mpr ⟨h.apart, List.pairwise_singleton _ _, ?_⟩
    intro earlier hearlier later hlater hagain hloud
    rw [List.mem_singleton.mp hlater] at hloud ⊢
    have hdue : c.retryTimer.isDue now = true := by
      rcases hloud with hloud | hloud
      · obtain ⟨n, hn⟩ := Option.isSome_iff_exists.mp hloud
        exact (hretry n hn).2.1
      · obtain ⟨n, hn⟩ := Option.isSome_iff_exists.mp hloud
        exact (hsurrender n hn).2
    exact h.passed hdue earlier hearlier hagain
  · intro r hr hagain
    rcases List.mem_append.mp hr with hold | hnew
    · exact h.past r hold hagain
    · rw [List.mem_singleton.mp hnew]
      exact Instant.notAfter_refl _
  · intro r hr hagain deadline hdeadline
    rcases List.mem_append.mp hr with hold | hnew
    · exact hwaiting r hold hagain deadline hdeadline
    · rw [List.mem_singleton.mp hnew] at hagain ⊢
      obtain ⟨n, hn⟩ := Option.isSome_iff_exists.mp hagain
      rw [(hretry n hn).2.2] at hdeadline
      rw [← Option.some.inj hdeadline, h.delay]
      exact Instant.notAfter_refl _

/-- Events that have nothing to do with retries may be added. -/
theorem append (h : Budgeted config log now c) {events : List ClusterEvent}
    (hnew : ∀ event ∈ events, Record.IsAside ⟨now, trigger, event⟩) :
    Budgeted config (log ++ events.map fun event => ⟨now, trigger, event⟩) now c := by
  induction events using List.reverseRecOn with
  | nil => rwa [List.map_nil, List.append_nil]
  | append_singleton front event ih =>
    have hfront := ih fun event hevent => hnew event (List.mem_append_left _ hevent)
    obtain ⟨hconnect, hretry, hsurrender⟩ := hnew event (by simp)
    rw [List.map_append, ← List.append_assoc]
    refine hfront.concat rfl hfront.within ?_ ?_ ?_ (Or.inl rfl)
    · rw [retries_concat hconnect, hretry, hfront.counted]
      rfl
    · simp [hretry]
    · simp [hsurrender]

/-- Every move keeps the cluster within its budget. -/
theorem move {added : List ClusterAction} (h : Budgeted config log now c)
    (hmove : Move now trigger c added c') :
    Budgeted config (log ++ records now trigger added) now c' := by
  cases hmove with
  | connected =>
    refine h.concat rfl (Nat.zero_le _) (retries_concat_of_connect rfl).symm ?_ ?_
      (Or.inr (Or.inl rfl))
    · intro n hn
      cases hn
    · intro n hn
      cases hn
  | woken | stirred | closed => exact (h.append (by simp)).change rfl rfl (Or.inl rfl)
  | failed => exact (h.append (by simp)).change rfl rfl (Or.inr (Or.inr rfl))
  | condemned => exact (h.append (by simp)).change rfl rfl (Or.inr (Or.inl rfl))
  | ended hlive hcause =>
    exact (h.append (Record.isAside_farewell hcause)).change rfl rfl (Or.inr (Or.inl rfl))
  | calmed => exact (h.append (Record.isAside_releases _ _)).change rfl rfl (Or.inl rfl)
  | dozed | filled | published | acknowledged =>
    exact (h.append (by simp)).change rfl rfl (Or.inl rfl)
  | spared => exact (h.append (by simp)).change rfl rfl (Or.inr (Or.inl rfl))
  | retried hlive hpool hleft hdue =>
    -- the state comes first, if it changes, and then the retry
    have hstate : ∀ event ∈ events (if c.state = .idle then [] else [.emit (.state .idle)]),
        Record.IsAside ⟨now, .retryExpired, event⟩ := by
      split <;> simp
    have hfront := h.append hstate
    rw [records_append, ← List.append_assoc]
    refine hfront.concat rfl hleft ?_ ?_ ?_ (Or.inr (Or.inr rfl))
    · rw [retries_concat rfl, ← hfront.counted]
      rfl
    · intro n hn
      rw [← hfront.counted, ← Option.some.inj hn]
      exact ⟨rfl, hdue, rfl⟩
    · intro n hn
      cases hn
  | surrendered hlive hpool hnone hdue =>
    have hspent : c.attempts = c.rules.retryCount :=
      Nat.le_antisymm h.within (Nat.le_of_not_lt hnone)
    -- there are no tunnels to let go of between the state and the end
    have hevents : events (c.farewell (some (.serverUnreachable c.attempts))) =
        [.state .destroyed] ++ [.destroyed (some (.serverUnreachable c.attempts))] := by
      rw [events_farewell, hpool]
      rfl
    have hstate : ∀ event ∈ [.state .destroyed], Record.IsAside ⟨now, .retryExpired, event⟩ := by
      simp
    have hfront := h.append hstate
    rw [records, hevents, List.map_append, ← List.append_assoc]
    refine hfront.concat rfl hfront.within ?_ ?_ ?_ (Or.inr (Or.inl rfl))
    · rw [retries_concat rfl, ← hfront.counted]
      rfl
    · intro n hn
      cases hn
    · intro n hn
      rw [← hfront.counted, ← Option.some.inj hn]
      exact ⟨⟨rfl, hspent⟩, hdue⟩

end Budgeted

/-- A cluster that has just been started has not retried. -/
theorem budgeted_start {config : Config} (now : Instant)
    (hdone : ((ofConfig config).start now).isCrashed = false) :
    Budgeted config [] now ((ofConfig config).start now) := by
  rw [start_eq hdone, publish_eq]
  constructor
  · rfl
  · rfl
  · rfl
  · exact Nat.zero_le _
  · intro before r after n hsplit
    simp at hsplit
  · intro before r after n hsplit
    simp at hsplit
  · exact .nil
  · exact fun r hr => absurd hr List.not_mem_nil
  · exact fun r hr => absurd hr List.not_mem_nil

/-- In every run, the cluster keeps to its budget. -/
theorem Chronicle.budgeted {config : Config} {log : List Record} {now : Instant} {c : Cluster}
    (h : Chronicle config log now c) : Budgeted config log now c :=
  h.keeps budgeted_start (fun _ _ _ _ hlater h => h.wait hlater)
    fun _ _ _ _ _ _ hmove h => h.move hmove

/-! ## The end of the budget -/

/-- Only the retry timer makes a cluster give up. -/
theorem Move.trigger_of_surrender {now : Instant} {trigger : Trigger} {c c' : Cluster}
    {added : List ClusterAction} (h : Move now trigger c added c') :
    ∀ r ∈ records now trigger added, r.surrender?.isSome → trigger = .retryExpired := by
  have haside : (∀ event ∈ events added, Record.IsAside ⟨now, trigger, event⟩) →
      ∀ r ∈ records now trigger added, r.surrender?.isSome → trigger = .retryExpired := by
    intro hnew r hr hsurrender
    obtain ⟨event, hevent, rfl⟩ := List.mem_map.mp hr
    rw [(hnew event hevent).2.2] at hsurrender
    cases hsurrender
  cases h with
  | retried | surrendered | spared => exact fun _ _ _ => rfl
  | ended hlive hcause => exact haside (Record.isAside_farewell hcause)
  | calmed => exact haside (Record.isAside_releases _ _)
  | connected =>
    intro r hr hsurrender
    rw [List.mem_singleton.mp hr] at hsurrender
    cases hsurrender
  | woken | stirred | closed | failed | condemned | dozed | filled | published | acknowledged =>
    exact haside (by simp)

/-- A surrender is made only when the retry timer expires. -/
theorem Moves.trigger_of_surrender {trigger : Trigger} {begin_ now : Instant} {c c' : Cluster}
    {new : List Record} {added : List ClusterAction} (h : Moves trigger begin_ c new added now c') :
    ∀ r ∈ new, r.surrender?.isSome → trigger = .retryExpired := by
  induction h with
  | none => exact fun r hr => absurd hr List.not_mem_nil
  | wait _ _ ih => exact ih
  | next _ hmove ih =>
    intro r hr
    rcases List.mem_append.mp hr with hold | hnew
    · exact ih r hold
    · exact hmove.trigger_of_surrender r hnew

/-- So it is in every run. -/
theorem Chronicle.trigger_of_surrender {config : Config} {log : List Record} {now : Instant}
    {c : Cluster} (h : Chronicle config log now c) :
    ∀ r ∈ log, r.surrender?.isSome → r.trigger = .retryExpired := by
  refine h.keeps (I := fun log _ _ => ∀ r ∈ log, r.surrender?.isSome → r.trigger = .retryExpired)
    (fun _ _ r hr => absurd hr List.not_mem_nil) (fun _ _ _ _ _ h => h) ?_
  intro log now trigger c added c' hmove hlog r hr hsurrender
  rcases List.mem_append.mp hr with hold | hnew
  · exact hlog r hold hsurrender
  · have htrigger := hmove.trigger_of_surrender r hnew hsurrender
    obtain ⟨event, _, rfl⟩ := List.mem_map.mp hnew
    exact htrigger

/-- The retry timer does not stir a cluster that has tunnels. -/
theorem turn_retryExpired_of_pool {c : Cluster} (hintact : c.isCrashed = false) (hpool : c.pool ≠ [])
    (hpending : c.fillPending = false) (hchanged : c.changed = false) (now : Instant) :
    c.turn now .retryExpired = { c with retryTimer := c.retryTimer.stop } := by
  have hreact : c.react now .retryExpired = { c with retryTimer := c.retryTimer.stop } := by
    show retryExpired { c with retryTimer := c.retryTimer.stop } now = _
    rw [retryExpired, if_pos (Or.inl (by simpa using hpool))]
  rw [turn_eq_settle (by rw [hreact]; exact hintact), hreact, settle_of_not_pending (by exact hpending),
    publish_of_unchanged (by exact hchanged)]

/-- The retry budget is exact, in every run. The counter is the number of retries since a tunnel last
opened its session, and at most the limit. Retries are numbered from one on after each such opening.
From a retry to the next one, or to a surrender, there is at least the delay. A cluster surrenders only
when the retry timer expires, after exactly as many retries as the limit allows, which it reports, and
only in a turn that found the pool empty. -/
theorem chronicle_retries {config : Config} {log : List Record} {now : Instant} {c : Cluster}
    (hrun : Chronicle config log now c) :
    c.attempts = retries log ∧ c.attempts ≤ config.retryCount.toNat ∧
    (∀ before r after n, log = before ++ r :: after → r.retryNumber? = some n → n = retries before + 1) ∧
    (log.Pairwise fun earlier later => earlier.retryNumber?.isSome →
      later.retryNumber?.isSome ∨ later.surrender?.isSome →
      (earlier.moment.after config.retryDelay).notAfter later.moment = true) ∧
    (∀ before r after n, log = before ++ r :: after → r.surrender? = some n →
      r.trigger = .retryExpired ∧ n = retries before ∧ n = config.retryCount.toNat) ∧
    ∀ later trigger, c.state ≠ .destroyed → now.notAfter later = true → c.Takes later trigger →
      (∃ r ∈ c.turnRecords later trigger, r.surrender?.isSome) →
      trigger = .retryExpired ∧ c.pool = [] := by
  have hbudget := hrun.budgeted
  refine ⟨hbudget.counted, hbudget.limit ▸ hbudget.within, hbudget.numbered, hbudget.apart, ?_, ?_⟩
  · intro before r after n hsplit hn
    have hmem : r ∈ log := by simp [hsplit]
    exact ⟨hrun.trigger_of_surrender r hmem (by simp [hn]), hbudget.exhaustive before r after n hsplit hn⟩
  · rintro later trigger hlive hlater htakes ⟨r, hr, hsurrender⟩
    obtain ⟨added, hmoves⟩ := moves_turn hlive htakes
    obtain rfl := hmoves.trigger_of_surrender r hr hsurrender
    refine ⟨rfl, ?_⟩
    by_contra hpool
    have hreach := hrun.reachable
    have hout := hmoves.outbox
    rw [turn_retryExpired_of_pool hreach.intact hpool hreach.fillPending hreach.changed] at hout
    have hnone : added = [] := List.self_eq_append_right.mp hout
    have hevent := List.mem_map_of_mem (f := Record.event) hr
    rw [hmoves.map_event, hnone] at hevent
    exact List.not_mem_nil hevent

/-- A configuration that allows for one retry. -/
def onceMoreConfig : Config := { url := "http://[::1]/abc", retryCount := 1 }

/-- A cluster whose relay never answers: two tunnels fail, with the only retry between them. -/
def unansweredCluster : Cluster :=
  (((((ofConfig onceMoreConfig).start ⟨1⟩).turn ⟨2⟩
    (.noticed [⟨⟨2⟩, 1, .destroyed (some .openingClosed)⟩])).turn ⟨1000000002⟩ .retryExpired).turn
    ⟨1000000003⟩ (.noticed [⟨⟨1000000003⟩, 2, .destroyed (some .openingClosed)⟩])).turn
    ⟨2000000003⟩ .retryExpired

/-- A cluster that allows for one retry surrenders after one. -/
theorem surrender_after_one_retry :
    Reachable onceMoreConfig ⟨2000000003⟩ unansweredCluster ∧
      .emit (.destroyed (some (.serverUnreachable 1))) ∈ unansweredCluster.outbox ∧
      ∃ log, Chronicle onceMoreConfig log ⟨2000000003⟩ unansweredCluster ∧ retries log = 1 := by
  have hstart : Reachable onceMoreConfig ⟨1⟩ ((ofConfig onceMoreConfig).start ⟨1⟩) :=
    .start ⟨1⟩ (by decide +kernel)
  have hfailed := hstart.turn ⟨2⟩ (.noticed [⟨⟨2⟩, 1, .destroyed (some .openingClosed)⟩])
    (by decide +kernel) (by decide) ⟨⟨List.cons_ne_nil _ _, by decide, trivial⟩, by decide +kernel⟩
  have hretried := hfailed.turn ⟨1000000002⟩ .retryExpired (by decide +kernel) (by decide)
    ⟨show Timer.isDue _ _ = true by decide +kernel, by decide +kernel⟩
  have hagain := hretried.turn ⟨1000000003⟩
    (.noticed [⟨⟨1000000003⟩, 2, .destroyed (some .openingClosed)⟩]) (by decide +kernel) (by decide)
    ⟨⟨List.cons_ne_nil _ _, by decide, trivial⟩, by decide +kernel⟩
  have hrun : Reachable onceMoreConfig ⟨2000000003⟩ unansweredCluster :=
    hagain.turn ⟨2000000003⟩ .retryExpired (by decide +kernel) (by decide)
      ⟨show Timer.isDue _ _ = true by decide +kernel, by decide +kernel⟩
  have hend : .emit (.destroyed (some (.serverUnreachable 1))) ∈ unansweredCluster.outbox := by
    decide +kernel
  have hattempts : unansweredCluster.attempts = 1 := by decide +kernel
  obtain ⟨log, hlog⟩ := hrun.chronicle
  exact ⟨hrun, hend, log, hlog, (chronicle_retries hlog).1.symm.trans hattempts⟩

end RelayTunnel.Cluster
