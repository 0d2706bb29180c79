import RelayTunnel.Cluster.Basic

/-!
# What a cluster does

A cluster does something when it is told to end, when tunnels report, and when one of its two timers
expires: the idle timer that ends the active state, and the retry timer that tries the relay again
when the pool has run empty. Each such turn ends by filling the pool, if it has to be filled, and by
publishing a snapshot, if anything has changed.

A cluster ends when it is told to, when the relay forbids the session, when the relay ends the session
and that counts as fatal, and when the relay stays out of reach for too long. A turn in which it crashes
stops right there.
-/

set_option autoImplicit false

namespace RelayTunnel

/-- What a tunnel has reported. -/
structure Report where
  /-- When the cluster gets to it. -/
  moment : Instant
  id : TunnelId
  notice : Notice
  deriving DecidableEq

/-- What makes a cluster do something. -/
inductive Trigger where
  /-- It is asked to end. -/
  | endRequested (error : Option TunnelError)
  /-- Nobody holds on to it any more. -/
  | abandoned
  /-- Tunnels have reported, in this order. -/
  | noticed (reports : List Report)
  | idleExpired
  | retryExpired
  deriving DecidableEq

namespace Cluster

def destroy (c : Cluster) (error : Option TunnelError) : Cluster :=
  match c.state with
  | .destroyed => c
  | _ =>
      let c := { c with state := .destroyed, changed := true }.emit (.state .destroyed)
      let c := { c with idleTimer := c.idleTimer.stop, retryTimer := c.retryTimer.stop }
      (c.shrink 0).emit (.destroyed error)

/-- Changes between idle and active. One that becomes idle keeps its oldest tunnel only. -/
def enter (c : Cluster) (state : ClusterState) : Cluster :=
  if c.state = .destroyed ∨ c.state = state then c
  else
    let c := if state = .idle then c.shrink 1 else c
    { c with state := state, changed := true }.emit (.state state)

/-- Whether a tunnel's error ends the cluster. -/
def isFatal (c : Cluster) (error : TunnelError) : Bool :=
  error.code = .forbidden || (error.code = .serverDisconnect && c.rules.disconnectIsFatal)

def log (c : Cluster) (error : TunnelError) : Cluster :=
  { c with errors := logged c.errors error.message }

/-- A tunnel of the pool has failed. One that had opened its session shows that the relay is in reach,
so it is replaced at once, unless the relay ended the session. -/
def tunnelFailed (c : Cluster) (error : TunnelError) (wasOpened : Bool) (now : Instant) : Cluster :=
  let c := c.log error
  if c.isFatal error then { c with retryTimer := c.retryTimer.stop }.destroy (some error)
  else
    c.rearmRetry now fun c =>
      if wasOpened && error.code != .serverDisconnect then { c with fillPending := true } else c

/-- A tunnel has reported. Tunnels that have left the pool are not listened to. -/
def notice (now : Instant) (c : Cluster) (id : TunnelId) (notice : Notice) : Cluster :=
  if id ∉ c.pool then c
  else
    match notice with
    | .connected =>
        { c with
          opened := if id ∈ c.opened then c.opened else c.opened ++ [id]
          retryTimer := c.retryTimer.stop
          attempts := 0
          changed := true }.emit (.connect id)
    | .activity =>
        (c.emit (.activity id)).rearmIdle now fun c => { c.enter .active with fillPending := true }
    | .destroyed error =>
        let wasOpened := decide (id ∈ c.opened)
        let c := { c with
          pool := c.pool.erase id
          opened := c.opened.filter (· != id)
          changed := true }.emit (.tunnelClosed id error)
        match error with
        | none => { c with fillPending := true }
        | some error => c.tunnelFailed error wasOpened now

/-- Hears a report. -/
def heed (c : Cluster) (report : Report) : Cluster :=
  c.notice report.moment report.id report.notice

/-- Hears reports one after the other, up to one at which it crashes. -/
def hear (c : Cluster) : List Report → Cluster
  | [] => c
  | report :: reports =>
      let c := c.heed report
      if c.isCrashed then c else c.hear reports

/-- There has been no activity for a while. -/
def idleExpired (c : Cluster) : Cluster :=
  match c.state with
  | .active => c.enter .idle
  | _ => c

/-- It is time to try the relay again, if the pool is empty. -/
def retryExpired (c : Cluster) (now : Instant) : Cluster :=
  if !c.pool.isEmpty ∨ c.state = .destroyed then c
  else if c.attempts < c.rules.retryCount then
    let c := { c with attempts := c.attempts + 1, changed := true }.enter .idle
    c.rearmIdle now fun c =>
      { c.emit (.reconnect c.attempts) with fillPending := true }.rearmRetry now fun c => c
  else
    let error : TunnelError := .serverUnreachable c.attempts
    (c.log error).destroy (some error)

/-- Reacts to what has happened. Reports have moments of their own, and everything else happens now. A
timer that expires is stopped. -/
def react (c : Cluster) (now : Instant) : Trigger → Cluster
  | .endRequested error => (c.destroy error).publish.act .acknowledge
  | .abandoned => c.destroy none
  | .noticed reports => c.hear reports
  | .idleExpired => { c with idleTimer := c.idleTimer.stop }.idleExpired
  | .retryExpired => { c with retryTimer := c.retryTimer.stop }.retryExpired now

/-- Fills the pool if it has to be filled, and publishes. -/
def settle (c : Cluster) : Cluster :=
  let c := if c.fillPending then { c with fillPending := false }.fill else c
  c.publish

/-- One turn, unless the cluster crashes on the way. -/
def turn (c : Cluster) (now : Instant) (trigger : Trigger) : Cluster :=
  let c := c.react now trigger
  if c.isCrashed then c else c.settle

/-- Starts the idle timer and the first tunnel. -/
def start (c : Cluster) (now : Instant) : Cluster :=
  match c.idleTimer.start? now with
  | some timer => (create { c with idleTimer := timer }).publish
  | none => c.crash

/-- What is waiting for a cluster. -/
structure Pending where
  /-- Requests to end, oldest first. -/
  requests : List (Option TunnelError)
  isAbandoned : Bool
  /-- Reports of tunnels, oldest first. -/
  reports : List Report

/-- What the cluster reacts to next, and what is left waiting. Of several things that are waiting, a
request to end comes first, then reports, all at once, then the idle timer and then the retry
timer. -/
def next? (c : Cluster) (now : Instant) (p : Pending) : Option (Trigger × Pending) :=
  if c.isGone then none
  else
    match p.requests with
    | error :: requests => some (.endRequested error, { p with requests := requests })
    | [] =>
        if p.isAbandoned then some (.abandoned, p)
        else if !p.reports.isEmpty then some (.noticed p.reports, { p with reports := [] })
        else if c.idleTimer.isDue now then some (.idleExpired, p)
        else if c.retryTimer.isDue now then some (.retryExpired, p)
        else none

/-- When a cluster has something to do even if nothing comes up. -/
def alarms (c : Cluster) : List Instant :=
  if c.isGone then [] else c.idleTimer.deadline.toList ++ c.retryTimer.deadline.toList

end Cluster

end RelayTunnel
