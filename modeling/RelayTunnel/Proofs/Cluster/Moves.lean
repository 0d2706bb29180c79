import RelayTunnel.Proofs.Cluster.Run

/-!
# The moves of a cluster

A turn is made of moves. `Move` lists every move there is: what has to hold for it, what the cluster
wants done through it, and the cluster afterwards. `moves_turn` says that every turn that comes to its
end is a sequence of moves, so what each of the moves keeps, every turn keeps. Each move has a moment, and
the events of the turn are noted with the moments of the moves that emit them (`turnRecords`).
-/

set_option autoImplicit false

namespace RelayTunnel.Cluster

/-! ## Events and records -/

/-- An event, with the moment at which it was emitted and the trigger of its turn. -/
structure Record where
  moment : Instant
  trigger : Trigger
  event : ClusterEvent

/-- The event that an action emits, if it emits one. -/
def emitted? : ClusterAction → Option ClusterEvent
  | .emit event => some event
  | _ => none

/-- The events among some actions, in their order. -/
def events (actions : List ClusterAction) : List ClusterEvent := actions.filterMap emitted?

/-- What is noted of actions that are added at a moment of a turn. -/
def records (now : Instant) (trigger : Trigger) (added : List ClusterAction) : List Record :=
  (events added).map fun event => ⟨now, trigger, event⟩

/-- No actions emit nothing. -/
@[simp] theorem events_nil : events [] = [] := rfl

/-- An event that is emitted stands in front of those of the other actions. -/
@[simp] theorem events_emit (event : ClusterEvent) (actions : List ClusterAction) :
    events (.emit event :: actions) = event :: events actions := rfl

/-- An answer emits nothing. -/
@[simp] theorem events_acknowledge (actions : List ClusterAction) :
    events (.acknowledge :: actions) = events actions := rfl

/-- The events of two histories stand one behind the other. -/
@[simp] theorem events_append (front behind : List ClusterAction) :
    events (front ++ behind) = events front ++ events behind :=
  List.filterMap_append

/-- The creation of tunnels emits nothing. -/
@[simp] theorem events_creations (ids : List TunnelId) : events (ids.map .create) = [] := by
  induction ids with
  | nil => rfl
  | cons id ids ih => exact ih

/-- Letting go of tunnels emits their closings. -/
@[simp] theorem events_releases (ids : List TunnelId) :
    events (releases ids) = ids.map fun id => .tunnelClosed id none := by
  induction ids with
  | nil => rfl
  | cons id ids ih => exact congrArg (.tunnelClosed id none :: ·) ih

/-- What is noted of actions are their events. -/
theorem map_event_records (now : Instant) (trigger : Trigger) (added : List ClusterAction) :
    (records now trigger added).map Record.event = events added := by
  rw [records, List.map_map]
  exact List.map_id _

/-- Two histories are noted one behind the other. -/
theorem records_append (now : Instant) (trigger : Trigger) (front behind : List ClusterAction) :
    records now trigger (front ++ behind) =
      records now trigger front ++ records now trigger behind := by
  rw [records, events_append, List.map_append]
  rfl

/-! ## The end of a cluster -/

/-- What a cluster wants done when it ends, in this order. -/
def farewell (c : Cluster) (error : Option TunnelError) : List ClusterAction :=
  .emit (.state .destroyed) :: (releases c.pool.reverse ++ [.emit (.destroyed error)])

/-- The cluster once it has ended. -/
def ended (c : Cluster) (error : Option TunnelError) : Cluster :=
  { c with
    state := .destroyed
    changed := true
    idleTimer := c.idleTimer.stop
    retryTimer := c.retryTimer.stop
    pool := []
    opened := c.opened.filter (· ∉ c.pool.reverse)
    outbox := c.outbox ++ c.farewell error }

/-- A live cluster that is destroyed has ended. -/
theorem destroy_eq_ended {c : Cluster} (hlive : c.state ≠ .destroyed) (error : Option TunnelError) :
    c.destroy error = c.ended error := by
  rw [destroy_of_live hlive]
  rfl

/-- What can end a cluster as long as it has retries left, and the error it ends with. -/
inductive EndsWith (c : Cluster) : Trigger → Option TunnelError → Prop
  | requested (error : Option TunnelError) : EndsWith c (.endRequested error) error
  | abandoned : EndsWith c .abandoned none
  | fatal {reports : List Report} {error : TunnelError} :
      c.isFatal error = true → EndsWith c (.noticed reports) (some error)

/-- The end of a cluster emits the state, the closings of its tunnels, and the end. -/
theorem events_farewell (c : Cluster) (error : Option TunnelError) :
    events (c.farewell error) =
      .state .destroyed :: (c.pool.reverse.map (fun id => .tunnelClosed id none) ++
        [.destroyed error]) := by
  simp [farewell]

/-! ## Moves -/

/-- How many tunnels are missing from the pool. -/
def missing (c : Cluster) : Nat := c.desired - c.pool.length

/-- The tunnels that a fill adds to the pool. -/
def newcomers (c : Cluster) : List TunnelId := List.range' c.nextId c.missing

/-- Everything a cluster can do in a turn that it takes for a trigger: the cluster before, what it
wants done, and the cluster afterwards. -/
inductive Move (now : Instant) : Trigger → Cluster → List ClusterAction → Cluster → Prop
  /-- A tunnel of the pool has opened its session. -/
  | connected {reports : List Report} {c : Cluster} {id : TunnelId}
      (hlive : c.state ≠ .destroyed) (hmem : id ∈ c.pool) :
      Move now (.noticed reports) c [.emit (.connect id)]
        { c with
          opened := if id ∈ c.opened then c.opened else c.opened ++ [id]
          retryTimer := c.retryTimer.stop
          attempts := 0
          changed := true
          outbox := c.outbox ++ [.emit (.connect id)] }
  /-- The first activity, which makes the cluster active. -/
  | woken {reports : List Report} {c : Cluster} {id : TunnelId}
      (hidle : c.state = .idle) (hmem : id ∈ c.pool) :
      Move now (.noticed reports) c [.emit (.activity id), .emit (.state .active)]
        { c with
          state := .active
          idleTimer := c.idleTimer.restart now
          fillPending := true
          changed := true
          outbox := c.outbox ++ [.emit (.activity id), .emit (.state .active)] }
  /-- Activity in a cluster that is active. -/
  | stirred {reports : List Report} {c : Cluster} {id : TunnelId}
      (hactive : c.state = .active) (hmem : id ∈ c.pool) :
      Move now (.noticed reports) c [.emit (.activity id)]
        { c with
          idleTimer := c.idleTimer.restart now
          fillPending := true
          outbox := c.outbox ++ [.emit (.activity id)] }
  /-- A tunnel of the pool has ended without error. -/
  | closed {reports : List Report} {c : Cluster} {id : TunnelId}
      (hlive : c.state ≠ .destroyed) (hmem : id ∈ c.pool) :
      Move now (.noticed reports) c [.emit (.tunnelClosed id none)]
        { c.withoutTunnel id none with fillPending := true }
  /-- A tunnel of the pool has failed, and the cluster goes on. -/
  | failed {reports : List Report} {c : Cluster} {id : TunnelId} {error : TunnelError}
      (hlive : c.state ≠ .destroyed) (hmem : id ∈ c.pool) (hfatal : c.isFatal error = false) :
      Move now (.noticed reports) c [.emit (.tunnelClosed id (some error))]
        { (c.withoutTunnel id (some error)).log error with
          retryTimer := c.retryTimer.restart now
          fillPending :=
            c.fillPending || (decide (id ∈ c.opened) && error.code != .serverDisconnect) }
  /-- A tunnel of the pool has failed, and the cluster is about to end for it. -/
  | condemned {reports : List Report} {c : Cluster} {id : TunnelId}
      {error : TunnelError} (hlive : c.state ≠ .destroyed) (hmem : id ∈ c.pool)
      (hfatal : c.isFatal error = true) :
      Move now (.noticed reports) c [.emit (.tunnelClosed id (some error))]
        { (c.withoutTunnel id (some error)).log error with retryTimer := c.retryTimer.stop }
  /-- The cluster ends while it has retries left. -/
  | ended {trigger : Trigger} {c : Cluster} {error : Option TunnelError}
      (hlive : c.state ≠ .destroyed) (hcause : c.EndsWith trigger error) :
      Move now trigger c (c.farewell error) (c.ended error)
  /-- There has been no activity for a while, so the cluster becomes idle. -/
  | calmed {c : Cluster} (hactive : c.state = .active) (hdue : c.idleTimer.isDue now = true) :
      Move now .idleExpired c (releases (c.pool.drop 1).reverse ++ [.emit (.state .idle)])
        { c with
          state := .idle
          changed := true
          idleTimer := c.idleTimer.stop
          pool := c.pool.take 1
          opened := c.opened.filter (· ∉ (c.pool.drop 1).reverse)
          outbox := c.outbox ++ (releases (c.pool.drop 1).reverse ++ [.emit (.state .idle)]) }
  /-- The idle timer expires in a cluster that is idle. -/
  | dozed {c : Cluster} (hidle : c.state = .idle) (hdue : c.idleTimer.isDue now = true) :
      Move now .idleExpired c [] { c with idleTimer := c.idleTimer.stop }
  /-- The retry timer expires while there are tunnels. -/
  | spared {c : Cluster} (hlive : c.state ≠ .destroyed) (hpool : c.pool ≠ [])
      (hdue : c.retryTimer.isDue now = true) :
      Move now .retryExpired c [] { c with retryTimer := c.retryTimer.stop }
  /-- The relay is tried again. -/
  | retried {c : Cluster} (hlive : c.state ≠ .destroyed) (hpool : c.pool = [])
      (hleft : c.attempts < c.rules.retryCount) (hdue : c.retryTimer.isDue now = true) :
      Move now .retryExpired c
        ((if c.state = .idle then [] else [.emit (.state .idle)])
          ++ [.emit (.reconnect (c.attempts + 1))])
        { c with
          attempts := c.attempts + 1
          state := .idle
          changed := true
          idleTimer := c.idleTimer.restart now
          retryTimer := c.retryTimer.restart now
          fillPending := true
          outbox := c.outbox ++ ((if c.state = .idle then [] else [.emit (.state .idle)])
            ++ [.emit (.reconnect (c.attempts + 1))]) }
  /-- The relay has been tried too often, so the cluster ends. -/
  | surrendered {c : Cluster} (hlive : c.state ≠ .destroyed) (hpool : c.pool = [])
      (hnone : ¬ c.attempts < c.rules.retryCount) (hdue : c.retryTimer.isDue now = true) :
      Move now .retryExpired c (c.farewell (some (.serverUnreachable c.attempts)))
        ((c.log (.serverUnreachable c.attempts)).ended (some (.serverUnreachable c.attempts)))
  /-- The pool is filled. A cluster that is gone has no tunnel missing. -/
  | filled {trigger : Trigger} {c : Cluster} (hpending : c.fillPending = true) :
      Move now trigger c (c.newcomers.map .create)
        { c with
          fillPending := false
          pool := c.pool ++ c.newcomers
          nextId := c.nextId + c.missing
          changed := c.changed || c.missing != 0
          outbox := c.outbox ++ c.newcomers.map .create }
  | published {trigger : Trigger} {c : Cluster} :
      Move now trigger c []
        { c with
          changed := false
          snapshot := if c.changed then ⟨c.state, c.pool, c.errors, c.attempts⟩ else c.snapshot }
  /-- The one who asked for the end is answered. -/
  | acknowledged {error : Option TunnelError} {c : Cluster} (hgone : c.state = .destroyed)
      (hknown : c.snapshot.state = .destroyed ∧ c.snapshot.tunnels = []) :
      Move now (.endRequested error) c [.acknowledge]
        { c with outbox := c.outbox ++ [.acknowledge] }

/-- Any number of moves, one after the other, from a moment on: what is noted of them, all that the
cluster wants done through them, and the moment and the cluster afterwards. -/
inductive Moves (trigger : Trigger) (begin_ : Instant) (c : Cluster) :
    List Record → List ClusterAction → Instant → Cluster → Prop
  | none : Moves trigger begin_ c [] [] begin_ c
  /-- Time passes. -/
  | wait {new : List Record} {front : List ClusterAction} {now later : Instant} {c' : Cluster} :
      Moves trigger begin_ c new front now c' → now.notAfter later = true →
      Moves trigger begin_ c new front later c'
  | next {new : List Record} {front added : List ClusterAction} {now : Instant} {c' c'' : Cluster} :
      Moves trigger begin_ c new front now c' → Move now trigger c' added c'' →
      Moves trigger begin_ c (new ++ records now trigger added) (front ++ added) now c''

/-- A move adds to the outbox what it says. -/
theorem Move.outbox {now : Instant} {trigger : Trigger} {c c' : Cluster}
    {added : List ClusterAction} (h : Move now trigger c added c') :
    c'.outbox = c.outbox ++ added := by
  cases h with
  | dozed | spared | published => exact (List.append_nil _).symm
  | _ => rfl

/-- The tunnels of a cluster that has ended have all left its pool. -/
def Quiet (c : Cluster) : Prop := c.state = .destroyed → c.pool = []

/-- A quiet cluster that has a tunnel is alive. -/
theorem Quiet.live_of_mem {c : Cluster} {id : TunnelId} (h : c.Quiet) (hmem : id ∈ c.pool) :
    c.state ≠ .destroyed := by
  intro hgone
  rw [h hgone] at hmem
  exact absurd hmem List.not_mem_nil

/-- A live cluster is idle or active. -/
theorem idle_or_active {c : Cluster} (hlive : c.state ≠ .destroyed) :
    c.state = .idle ∨ c.state = .active := by
  cases hstate : c.state with
  | idle => exact Or.inl rfl
  | active => exact Or.inr rfl
  | destroyed => exact absurd hstate hlive

/-- No tunnel is missing from a cluster that is gone. -/
theorem missing_of_destroyed {c : Cluster} (h : c.state = .destroyed) : c.missing = 0 := by
  rw [missing, desired_of_destroyed h, Nat.zero_sub]

/-- So none is added to it. -/
theorem newcomers_of_destroyed {c : Cluster} (h : c.state = .destroyed) : c.newcomers = [] := by
  rw [newcomers, missing_of_destroyed h]
  rfl

/-- No move gives a cluster that is gone a tunnel. -/
theorem Move.quiet {now : Instant} {trigger : Trigger} {c c' : Cluster}
    {added : List ClusterAction} (h : Move now trigger c added c') (hquiet : c.Quiet) :
    c'.Quiet := by
  intro hgone
  cases h with
  | connected hlive | closed hlive | failed hlive | condemned hlive | spared hlive =>
    exact absurd hgone hlive
  | stirred hactive => exact ClusterState.noConfusion (hactive.symm.trans hgone)
  | dozed hidle => exact ClusterState.noConfusion (hidle.symm.trans hgone)
  | woken | calmed | retried => exact ClusterState.noConfusion hgone
  | ended | surrendered => rfl
  | filled =>
    have hgone : c.state = .destroyed := hgone
    show c.pool ++ c.newcomers = []
    rw [newcomers_of_destroyed hgone, hquiet hgone]
    rfl
  | published | acknowledged => exact hquiet hgone

namespace Moves

variable {trigger : Trigger} {begin_ now later : Instant} {c c' c'' : Cluster} {new new' : List Record}
  {front added : List ClusterAction}

/-- One move is a sequence of moves. -/
theorem single (h : Move now trigger c added c') :
    Moves trigger now c (records now trigger added) added now c' :=
  .next .none h

/-- A move more at the same moment. -/
theorem andThen (h : Moves trigger begin_ c (records now trigger front) front now c')
    (hmove : Move now trigger c' added c'') :
    Moves trigger begin_ c (records now trigger (front ++ added)) (front ++ added) now c'' := by
  rw [records_append]
  exact .next h hmove

/-- Two sequences of moves may be made one after the other. -/
theorem trans (h : Moves trigger begin_ c new front now c')
    (h' : Moves trigger now c' new' added later c'') :
    Moves trigger begin_ c (new ++ new') (front ++ added) later c'' := by
  induction h' with
  | none => rwa [List.append_nil, List.append_nil]
  | wait _ hlater ih => exact .wait ih hlater
  | next _ hmove ih =>
    rw [← List.append_assoc, ← List.append_assoc]
    exact .next ih hmove

/-- Some moves add to the outbox what they say. -/
theorem outbox (h : Moves trigger begin_ c new added now c') : c'.outbox = c.outbox ++ added := by
  induction h with
  | none => exact (List.append_nil _).symm
  | wait _ _ ih => exact ih
  | next _ hmove ih => rw [hmove.outbox, ih, List.append_assoc]

/-- What is noted are the events. -/
theorem map_event (h : Moves trigger begin_ c new added now c') :
    new.map Record.event = events added := by
  induction h with
  | none => rfl
  | wait _ _ ih => exact ih
  | next _ _ ih => rw [List.map_append, events_append, ih, map_event_records]

/-- No moves give a cluster that is gone a tunnel. -/
theorem quiet (h : Moves trigger begin_ c new added now c') (hquiet : c.Quiet) : c'.Quiet := by
  induction h with
  | none => exact hquiet
  | wait _ _ ih => exact ih
  | next _ hmove ih => exact hmove.quiet ih

end Moves

/-! ## What a turn notes -/

/-- What a cluster has come to want since it was another. -/
def news (c c' : Cluster) : List ClusterAction := c'.outbox.drop c.outbox.length

/-- What is noted of reports, each at its own moment. -/
def reportRecords (trigger : Trigger) (c : Cluster) : List Report → List Record
  | [] => []
  | report :: reports =>
      records report.moment trigger (c.news (c.heed report)) ++
        reportRecords trigger (c.heed report) reports

/-- What is noted of a turn. Filling the pool and publishing emits nothing. -/
def turnRecords (c : Cluster) (now : Instant) : Trigger → List Record
  | .noticed reports => c.reportRecords (.noticed reports) reports
  | trigger => records now trigger (c.news (c.react now trigger))

/-- What has come into the outbox is what the moves have added. -/
theorem Moves.news_eq {trigger : Trigger} {begin_ now : Instant} {c c' : Cluster} {new : List Record}
    {added : List ClusterAction} (h : Moves trigger begin_ c new added now c') : c.news c' = added := by
  rw [news, h.outbox, List.drop_left]

/-! ## Turns are made of moves -/

section Turns

variable {now : Instant} {c : Cluster}

/-- A report is at most two moves, all at the moment at which it is heard. -/
theorem moves_notice {id : TunnelId} {n : Notice} (reports : List Report) (hquiet : c.Quiet)
    (hdone : (c.notice now id n).isCrashed = false) :
    ∃ added, Moves (.noticed reports) now c (records now (.noticed reports) added) added now
      (c.notice now id n) := by
  refine notice_cases
    (P := fun c' => ∃ added,
      Moves (.noticed reports) now c (records now (.noticed reports) added) added now c')
    hdone ?_ ?_ ?_ ?_ ?_ ?_
  · intro _
    exact ⟨[], .none⟩
  · intro hmem _
    exact ⟨_, .single (.connected (hquiet.live_of_mem hmem) hmem)⟩
  · intro hmem _
    rcases idle_or_active (hquiet.live_of_mem hmem) with hidle | hactive
    · rw [enter_active_of_idle (by exact hidle)]
      simp only [emit, act, List.append_assoc]
      exact ⟨_, .single (.woken hidle hmem)⟩
    · rw [enter_of_same (by exact hactive)]
      exact ⟨_, .single (.stirred hactive hmem)⟩
  · intro hmem _
    exact ⟨_, .single (.closed (hquiet.live_of_mem hmem) hmem)⟩
  · intro error hmem _ hfatal
    have hlive := hquiet.live_of_mem hmem
    rw [destroy_eq_ended (by exact hlive)]
    exact ⟨_, (Moves.single (.condemned hlive hmem hfatal)).andThen (.ended hlive (.fatal hfatal))⟩
  · intro error hmem _ hfatal
    exact ⟨_, .single (.failed (hquiet.live_of_mem hmem) hmem hfatal)⟩

/-- The reports of a batch are moves, each at its own moment. -/
theorem moves_hear {begin_ : Instant} {reports : List Report} (all : List Report) (hquiet : c.Quiet)
    (hturn : InTurn begin_ reports) (hdone : (c.hear reports).isCrashed = false) :
    ∃ added, Moves (.noticed all) begin_ c (c.reportRecords (.noticed all) reports) added
      (lastMoment begin_ reports) (c.hear reports) := by
  induction reports generalizing c begin_ with
  | nil => exact ⟨_, .none⟩
  | cons report reports ih =>
    obtain ⟨hlater, hturn⟩ := hturn
    have hheed := heed_of_hear hdone
    rw [hear_cons hheed] at hdone ⊢
    obtain ⟨first, hfirst⟩ : ∃ first, Moves (.noticed all) report.moment c
        (records report.moment (.noticed all) first) first report.moment (c.heed report) :=
      moves_notice all hquiet hheed
    obtain ⟨rest, hrest⟩ := ih (hfirst.quiet hquiet) hturn hdone
    rw [reportRecords, hfirst.news_eq]
    exact ⟨_, (Moves.none.wait hlater).trans (hfirst.trans hrest)⟩

/-- An expiry of the retry timer is one or two moves. -/
theorem moves_retryExpired (hlive : c.state ≠ .destroyed) (hdue : c.retryTimer.isDue now = true)
    (hdone : (retryExpired { c with retryTimer := c.retryTimer.stop } now).isCrashed = false) :
    ∃ added, Moves .retryExpired now c (records now .retryExpired added) added now
      (retryExpired { c with retryTimer := c.retryTimer.stop } now) := by
  refine retryExpired_cases
    (P := fun c' => ∃ added, Moves .retryExpired now c (records now .retryExpired added) added now c')
    hdone (by exact hlive) ?_ ?_ ?_
  · intro hpool
    exact ⟨_, .single (.spared hlive hpool hdue)⟩
  · intro hpool hleft
    exact ⟨_, .single (.retried hlive hpool hleft hdue)⟩
  · intro hpool hnone
    rw [destroy_eq_ended (by exact hlive)]
    exact ⟨_, .single (.surrendered hlive hpool hnone hdue)⟩

/-- Anything but reports is handled at one moment. -/
theorem moves_handle {trigger : Trigger} (hlive : c.state ≠ .destroyed)
    (hadmits : c.Admits now trigger) (hdone : (c.react now trigger).isCrashed = false)
    (hother : ∀ reports, trigger ≠ .noticed reports) :
    ∃ added, Moves trigger now c (records now trigger added) added now (c.react now trigger) := by
  cases trigger with
  | endRequested error =>
    show ∃ added, Moves _ _ _ _ added _ ((c.destroy error).publish.act .acknowledge)
    rw [destroy_eq_ended hlive, publish_eq]
    have hended : Move now (.endRequested error) c _ (c.ended error) := .ended hlive (.requested error)
    exact ⟨_, ((Moves.single hended).andThen .published).andThen (.acknowledged rfl ⟨rfl, rfl⟩)⟩
  | abandoned =>
    show ∃ added, Moves _ _ _ _ added _ (c.destroy none)
    rw [destroy_eq_ended hlive]
    exact ⟨_, .single (.ended hlive .abandoned)⟩
  | noticed reports => exact absurd rfl (hother reports)
  | idleExpired =>
    show ∃ added, Moves _ _ _ _ added _ (idleExpired _)
    rcases idle_or_active hlive with hidle | hactive
    · rw [idleExpired_of_not_active (by simp [hidle])]
      exact ⟨_, .single (.dozed hidle hadmits)⟩
    · rw [idleExpired_of_active (by exact hactive), enter_idle_of_active (by exact hactive), shrink_eq]
      simp only [List.append_assoc]
      exact ⟨_, .single (.calmed hactive hadmits)⟩
  | retryExpired => exact moves_retryExpired hlive hadmits hdone

/-- The reaction of a turn is a sequence of moves. -/
theorem moves_react {trigger : Trigger} (hlive : c.state ≠ .destroyed)
    (hadmits : c.Admits now trigger) (hdone : (c.react now trigger).isCrashed = false) :
    ∃ added, Moves trigger now c (c.turnRecords now trigger) added (trigger.ends now)
      (c.react now trigger) := by
  cases trigger with
  | noticed reports => exact moves_hear reports (fun hgone => absurd hgone hlive) hadmits.2 hdone
  | endRequested | abandoned | idleExpired | retryExpired =>
    obtain ⟨added, hmoves⟩ := moves_handle hlive hadmits hdone (by simp)
    have hrecords := hmoves
    rw [← hmoves.news_eq] at hrecords
    exact ⟨_, hrecords⟩

/-- Filling adds the newcomers, also if there are none. -/
theorem fill_eq (c : Cluster) :
    { c with fillPending := false }.fill =
      { c with
        fillPending := false
        pool := c.pool ++ c.newcomers
        nextId := c.nextId + c.missing
        changed := c.changed || c.missing != 0
        outbox := c.outbox ++ c.newcomers.map .create } := by
  by_cases hgone : c.state = .destroyed
  · rw [fill_of_destroyed (by exact hgone), newcomers_of_destroyed hgone, missing_of_destroyed hgone]
    simp
  · exact fill_of_live (by exact hgone)

/-- The end of a turn emits nothing. -/
theorem moves_settle (now : Instant) (trigger : Trigger) (c : Cluster) :
    ∃ added, Moves trigger now c [] added now c.settle := by
  cases hpending : c.fillPending with
  | false =>
    rw [settle_of_not_pending hpending, publish_eq]
    exact ⟨_, .next .none .published⟩
  | true =>
    rw [settle_of_pending hpending, publish_eq, fill_eq]
    have hnone : records now trigger (c.newcomers.map .create) = [] := by
      rw [records, events_creations, List.map_nil]
    have hfilled : Moves trigger now c _ _ now _ := .single (.filled hpending)
    rw [hnone] at hfilled
    exact ⟨_, .next hfilled .published⟩

/-- Every turn that a cluster takes is a sequence of moves. -/
theorem moves_turn {trigger : Trigger} (hlive : c.state ≠ .destroyed) (htakes : c.Takes now trigger) :
    ∃ added, Moves trigger now c (c.turnRecords now trigger) added (trigger.ends now)
      (c.turn now trigger) := by
  obtain ⟨reaction, hreact⟩ := moves_react hlive htakes.admits htakes.react
  obtain ⟨rest, hsettle⟩ := moves_settle (trigger.ends now) trigger (c.react now trigger)
  have hturn := hreact.trans hsettle
  rw [List.append_nil] at hturn
  rw [htakes.turn_eq]
  exact ⟨_, hturn⟩

/-- The outbox tells which actions the moves of a turn have added. -/
theorem moves_of_outbox {trigger : Trigger} {added : List ClusterAction} (hlive : c.state ≠ .destroyed)
    (htakes : c.Takes now trigger) (hout : (c.turn now trigger).outbox = c.outbox ++ added) :
    Moves trigger now c (c.turnRecords now trigger) added (trigger.ends now) (c.turn now trigger) := by
  obtain ⟨added', hmoves⟩ := moves_turn hlive htakes
  obtain rfl := List.append_cancel_left (hout.symm.trans hmoves.outbox)
  exact hmoves

end Turns

end RelayTunnel.Cluster
