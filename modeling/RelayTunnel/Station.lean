import RelayTunnel.Cluster.Turn
import RelayTunnel.Crew

/-!
# Stations

A station is a cluster at work: the cluster owns a crew of tunnels, creates and destroys them as it
wants to, and is told what they report.
-/

set_option autoImplicit false

namespace RelayTunnel

/-- A cluster with what is waiting for it and what it has told its subscribers. -/
structure Station where
  cluster : Cluster
  /-- Whether the cluster has begun to work. -/
  isStarted : Bool
  relay : Endpoint
  options : TunnelOptions
  /-- Requests to end, oldest first. -/
  requests : List (Option TunnelError)
  isAbandoned : Bool
  /-- What the subscribers have not been told yet, oldest first. -/
  events : List ClusterEvent

namespace Station

/-- A cluster that has not begun to work. -/
def ofConfig (config : Config) (relay : Endpoint) : Station :=
  ⟨.ofConfig config, false, relay, .ofConfig config, [], false, []⟩

def request (s : Station) (error : Option TunnelError) : Station :=
  { s with requests := s.requests ++ [error] }

def abandon (s : Station) : Station := { s with isAbandoned := true }

def carryOut (crew : Crew Tunnel) (s : Station) : List ClusterAction → Station × Crew Tunnel
  | [] => (s, crew)
  | .emit event :: rest => carryOut crew { s with events := s.events ++ [event] } rest
  | .create id :: rest => carryOut (crew.add id (.spawn s.relay s.options)) s rest
  | .release id :: rest => carryOut (crew.update id (·.destroy none)) s rest
  | .acknowledge :: rest => carryOut crew s rest

/-- Does what the cluster has come to want. -/
def flush (s : Station) (crew : Crew Tunnel) : Station × Crew Tunnel :=
  carryOut crew { s with cluster := { s.cluster with outbox := [] } } s.cluster.outbox

/-- What is waiting for the cluster. It gets to all reports at once. -/
def pending (now : Instant) (s : Station) (crew : Crew Tunnel) : Cluster.Pending :=
  ⟨s.requests, s.isAbandoned, crew.notices.map fun (id, notice) => ⟨now, id, notice⟩⟩

/-- Lets the cluster react to all that is waiting for it. The cluster ends or runs out of things to
react to long before `limit` turns. -/
def react (now : Instant) : Nat → Station → Crew Tunnel → Station × Crew Tunnel
  | 0, s, crew => (s, crew)
  | limit + 1, s, crew =>
      match s.cluster.next? now (s.pending now crew) with
      | none => (s, crew)
      | some (trigger, left) =>
          let s := { s with
            cluster := s.cluster.turn now trigger
            requests := left.requests }
          let (s, crew) := s.flush
            { crew with notices := left.reports.map fun report => (report.id, report.notice) }
          react now limit s crew

/-- More turns than a cluster ever takes at one instant. -/
def turnLimit : Nat := 1000000

/-- Reacts to all that is waiting, and then waits for the cluster's timers. -/
def work (now : Instant) (s : Station) (crew : Crew Tunnel) : Station × Crew Tunnel :=
  let (s, crew) := react now turnLimit s crew
  (s, crew.setAlarms .owner s.cluster.alarms)

/-- Begins to work, or reacts to what is waiting. Where nothing is, the cluster goes on waiting. -/
def act (s : Station) (crew : Crew Tunnel) (now : Instant) : Station × Crew Tunnel :=
  if !s.isStarted then
    let (s, crew) := { s with cluster := s.cluster.start now, isStarted := true }.flush crew
    work now s crew
  else if (s.cluster.next? now (s.pending now crew)).isSome then
    work now s crew
  else (s, crew)

instance : Owner Station Tunnel where
  act := act

end Station

end RelayTunnel
