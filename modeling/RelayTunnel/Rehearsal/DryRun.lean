import RelayTunnel.CommandLine.Program
import RelayTunnel.Rehearsal.Basic

/-!
# Dry runs

A dry run of the program on a network where every connection is refused: what it would log and how it
would exit.
-/

set_option autoImplicit false

namespace RelayTunnel

/-- What a run of the program comes to. -/
structure RunReport where
  exit : UInt32
  log : List Program.LogLine

namespace DryRun

/-- Lets a cluster work until it is gone, and gives what it has told. -/
def play (config : Config) (relay : Endpoint) : List ClusterEvent :=
  let r : Rehearsal Station Tunnel :=
    .start (.ofConfig config relay) (Crew.empty.wake .owner) [] .refuse
  let tries := config.retryCount.toNat + 2
  let span : Duration := ⟨config.retryDelay.nanos * tries⟩
  (r.settle.pass span).company.owner.events

/-- Runs the program with the given arguments and environment. -/
def run (texts : List String) (env : Arguments.Environment)
    (readFile : String → Except ConfigError Bytes) : RunReport :=
  match Arguments.parse texts env with
  | .error exit => ⟨Program.exitCode exit, []⟩
  | .ok arguments =>
      match Program.configure arguments (arguments.config.map readFile) with
      | .error error => ⟨Program.misuse, [Program.configLine error]⟩
      | .ok (config, relay) =>
          let events := play config relay
          ⟨(events.findSome? Program.eventExit?).getD Program.success,
            events.flatMap (Program.eventLines relay.session)⟩

end DryRun

end RelayTunnel
