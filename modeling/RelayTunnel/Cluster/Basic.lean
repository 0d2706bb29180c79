import RelayTunnel.Timer
import RelayTunnel.Tunnel.Basic

/-!
# Clusters

A cluster keeps a pool of tunnels that serve one session. While it is idle it keeps one tunnel;
from the first activity on it is active and keeps as many as it may; when there has been no activity
for a while it becomes idle again and lets go of all tunnels but the oldest. It crashes when it has to
arm a timer for a deadline that the clock cannot show.

This file holds the state of a cluster, what it tells its subscribers, and the snapshot of itself that
it publishes. What it does is in `RelayTunnel.Cluster.Turn`.
-/

set_option autoImplicit false

namespace RelayTunnel

/-- Tunnels are numbered in order of creation, from 1 on. -/
abbrev TunnelId := Nat

/-- Whether there is traffic. -/
inductive ClusterState where
  | idle
  | active
  /-- The cluster is gone for good. -/
  | destroyed
  deriving DecidableEq

def ClusterState.label : ClusterState → String
  | .idle => "idle"
  | .active => "active"
  | .destroyed => "destroyed"

/-- What a cluster tells its subscribers. -/
inductive ClusterEvent where
  /-- A tunnel has opened its session. -/
  | connect (id : TunnelId)
  /-- A tunnel has seen data. -/
  | activity (id : TunnelId)
  | state (state : ClusterState)
  /-- The pool has run empty and the relay is tried again. -/
  | reconnect (attempt : Nat)
  /-- A tunnel has left the pool. -/
  | tunnelClosed (id : TunnelId) (error : Option TunnelError)
  /-- The cluster is gone. -/
  | destroyed (error : Option TunnelError)
  deriving DecidableEq

/-- What a cluster wants done. -/
inductive ClusterAction where
  | emit (event : ClusterEvent)
  | create (id : TunnelId)
  /-- Destroys a tunnel that has left the pool. -/
  | release (id : TunnelId)
  /-- Answers the one who asked for the cluster to be destroyed. -/
  | acknowledge
  deriving DecidableEq

/-- What can be seen of a cluster. -/
structure Snapshot where
  state : ClusterState
  /-- The pool, oldest tunnel first. -/
  tunnels : List TunnelId
  /-- Recent error messages, oldest first. -/
  errors : List String
  reconnectAttempts : Nat
  deriving DecidableEq

/-- What can be seen of a cluster that has not done anything. -/
def Snapshot.initial : Snapshot := ⟨.idle, [], [], 0⟩

/-- The options that decide what a cluster does. -/
structure ClusterRules where
  maxConnections : Nat
  retryCount : Nat
  disconnectIsFatal : Bool
  deriving DecidableEq

/-- The state of a cluster. -/
structure Cluster where
  rules : ClusterRules
  state : ClusterState
  /-- The tunnels it keeps, oldest first. -/
  pool : List TunnelId
  /-- Those of the pool that have opened their session. -/
  opened : List TunnelId
  /-- How often the relay has been tried again since a tunnel last opened its session. -/
  attempts : Nat
  idleTimer : Timer
  retryTimer : Timer
  /-- Recent error messages, oldest first. -/
  errors : List String
  /-- Whether the pool has to be filled at the end of the turn. -/
  fillPending : Bool
  /-- Whether the published snapshot is out of date. -/
  changed : Bool
  snapshot : Snapshot
  /-- The number of the next tunnel. -/
  nextId : TunnelId
  /-- Whether it has given up in the middle of a turn, since the clock could not show a deadline. -/
  isCrashed : Bool
  /-- What it wants done, oldest first. -/
  outbox : List ClusterAction

namespace Cluster

def errorCapacity : Nat := 100

/-- Adds a message to a log that keeps the most recent ones. -/
def logged (errors : List String) (message : String) : List String :=
  (if errors.length = errorCapacity then errors.drop 1 else errors) ++ [message]

/-- A cluster that has not done anything. -/
def ofConfig (config : Config) : Cluster where
  rules := ⟨config.maxConnections.toNat, config.retryCount.toNat, config.disconnectIsFatal⟩
  state := .idle
  pool := []
  opened := []
  attempts := 0
  idleTimer := .stopped config.idleTimeout
  retryTimer := .stopped config.retryDelay
  errors := []
  fillPending := false
  changed := true
  snapshot := .initial
  nextId := 1
  isCrashed := false
  outbox := []

def act (c : Cluster) (action : ClusterAction) : Cluster :=
  { c with outbox := c.outbox ++ [action] }

def emit (c : Cluster) (event : ClusterEvent) : Cluster := c.act (.emit event)

/-- Gives up in the middle of a turn. Nothing is done any more, and the snapshot stays as it is. -/
def crash (c : Cluster) : Cluster := { c with isCrashed := true }

/-- Whether nothing is done any more. -/
def isGone (c : Cluster) : Bool := c.isCrashed || c.state = .destroyed

/-- Arms the idle timer with its full delay, and goes on. -/
def rearmIdle (now : Instant) (goOn : Cluster → Cluster) (c : Cluster) : Cluster :=
  match c.idleTimer.restart? now with
  | some timer => goOn { c with idleTimer := timer }
  | none => c.crash

/-- Arms the retry timer with its full delay, and goes on. -/
def rearmRetry (now : Instant) (goOn : Cluster → Cluster) (c : Cluster) : Cluster :=
  match c.retryTimer.restart? now with
  | some timer => goOn { c with retryTimer := timer }
  | none => c.crash

/-- Publishes a snapshot if the last one is out of date. -/
def publish (c : Cluster) : Cluster :=
  if c.changed then
    { c with
      changed := false
      snapshot := ⟨c.state, c.pool, c.errors, c.attempts⟩ }
  else c

/-- Adds a new tunnel to the pool, unless the cluster is gone. -/
def create (c : Cluster) : Cluster :=
  match c.state with
  | .destroyed => c
  | _ =>
      act { c with
        pool := c.pool ++ [c.nextId]
        nextId := c.nextId + 1
        changed := true } (.create c.nextId)

/-- How many tunnels the cluster wants to keep. -/
def desired (c : Cluster) : Nat :=
  match c.state with
  | .destroyed => 0
  | .idle => 1
  | .active => c.rules.maxConnections

/-- Creates tunnels until there are as many as wanted. -/
def fill (c : Cluster) : Cluster := (c.desired - c.pool.length).repeat create c

/-- Lets go of a tunnel that has left the pool. -/
def release (c : Cluster) (id : TunnelId) : Cluster :=
  ({ c with opened := c.opened.filter (· != id) }.act (.release id)).emit (.tunnelClosed id none)

/-- Lets go of the newest tunnels until `keep` are left. -/
def shrink (keep : Nat) (c : Cluster) : Cluster :=
  (c.pool.drop keep).reverse.foldl release { c with pool := c.pool.take keep }

end Cluster

end RelayTunnel
