import RelayTunnel.Cluster.Turn

/-!
# Drills

A drill exercises a cluster alone: its tunnels do nothing by themselves, a script says what they
report, and time passes only when the script says so.
-/

set_option autoImplicit false

namespace RelayTunnel

/-- A cluster with what is waiting for it. -/
structure Drill where
  cluster : Cluster
  now : Instant
  pending : Cluster.Pending

namespace Drill

/-- A cluster that has just begun to work. -/
def start (config : Config) : Drill :=
  ⟨(Cluster.ofConfig config).start .zero, .zero, ⟨[], false, []⟩⟩

/-- More turns than a cluster ever takes in a drill. -/
def turnLimit : Nat := 1000000

/-- Lets the cluster react to all that is waiting for it. -/
def settleWithin (d : Drill) : Nat → Drill
  | 0 => d
  | limit + 1 =>
      match d.cluster.next? d.now d.pending with
      | none => d
      | some (trigger, pending) =>
          settleWithin { d with cluster := d.cluster.turn d.now trigger, pending := pending } limit

/-- Lets the cluster react to all that is waiting for it. -/
def settle (d : Drill) : Drill := d.settleWithin turnLimit

def report (d : Drill) (notices : List (TunnelId × Notice)) : Drill :=
  let reports := notices.map fun (id, notice) => (⟨d.now, id, notice⟩ : Report)
  settle { d with pending := { d.pending with reports := d.pending.reports ++ reports } }

def request (d : Drill) (error : Option TunnelError) : Drill :=
  settle { d with pending := { d.pending with requests := d.pending.requests ++ [error] } }

/-- Nobody holds on to the cluster any more. -/
def abandon (d : Drill) : Drill := settle { d with pending := { d.pending with isAbandoned := true } }

/-- The next moment at which a timer of the cluster expires. -/
def nextExpiry? (d : Drill) : Option Instant :=
  match d.cluster.alarms with
  | [] => none
  | first :: rest => some (rest.foldl Instant.earliest first)

/-- Lets time pass until the given instant, stopping whenever a timer expires. -/
def passWithin (target : Instant) (d : Drill) : Nat → Drill
  | 0 => d
  | limit + 1 =>
      match d.nextExpiry? with
      | some moment =>
          if moment.notAfter target then
            (settle { d with now := d.now.latest moment }).passWithin target limit
          else { d with now := target }
      | none => { d with now := target }

def pass (d : Drill) (span : Duration) : Drill := d.passWithin (d.now.after span) turnLimit

/-- What the cluster has come to want since the last time. -/
def takeActions (d : Drill) : List ClusterAction × Drill :=
  (d.cluster.outbox, { d with cluster := { d.cluster with outbox := [] } })

end Drill

end RelayTunnel
