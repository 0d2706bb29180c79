import RelayTunnel.CommandLine.Arguments
import RelayTunnel.Config.File
import RelayTunnel.Station

/-!
# The program

What the program does with its arguments up to the point where the cluster starts, what it says about
what the cluster tells, and how it exits.
-/

set_option autoImplicit false

namespace RelayTunnel.Program

/-- How much a line of the log matters. -/
inductive Level where
  | error
  | warn
  | info
  | debug
  deriving DecidableEq

/-- A line of the log. -/
structure LogLine where
  level : Level
  text : String
  deriving DecidableEq

/-- The exit code after all went well. -/
def success : UInt32 := 0

/-- The exit code after the cluster has failed. -/
def failure : UInt32 := 1

/-- The exit code if the arguments or the configuration cannot be used. -/
def misuse : UInt32 := 2

/-- The exit code of a program that does not get to work. -/
def exitCode : EarlyExit → UInt32
  | .help | .version => success
  | .misuse _ => misuse

/-- The configuration that the arguments and the file make up, and the relay's endpoint. -/
def configure (arguments : Arguments) (file : Option (Except ConfigError Bytes)) :
    Except ConfigError (Config × Endpoint) := do
  let base ← match file with
    | some content => Config.ofJson (← content)
    | none => .ok {}
  let config := arguments.override base
  return (config, ← config.validate)

/-- What is said of a configuration that cannot be used. -/
def configLine (error : ConfigError) : LogLine :=
  ⟨.error, "invalid configuration cause=" ++ error.message⟩

/-- The code and the cause of an error as they are logged. -/
def cause (error : TunnelError) : String :=
  "code=" ++ error.code.label ++ " cause=" ++ error.message

/-- What is said about an event of the cluster. -/
def eventLines (session : String) : ClusterEvent → List LogLine
  | .connect id => [⟨.debug, "tunnel ready tunnel=" ++ Text.decimalString id⟩]
  | .activity _ => []
  | .state state => [⟨.info, "cluster state changed state=" ++ state.label⟩]
  | .reconnect attempt =>
      [⟨.warn, "relay lost, reconnecting attempt=" ++ Text.decimalString attempt⟩]
  | .tunnelClosed _ (some error) =>
      [⟨.warn, "tunnel error session=\"" ++ session ++ "\" " ++ cause error⟩]
  | .tunnelClosed _ none => []
  | .destroyed (some error) =>
      [⟨.error, "tunnel cluster failed session=\"" ++ session ++ "\" " ++ cause error⟩,
        ⟨.error, "tunnel cluster stopped " ++ cause error⟩]
  | .destroyed none => []

/-- The exit code that an event of the cluster brings about, if it ends the program. -/
def eventExit? : ClusterEvent → Option UInt32
  | .destroyed (some _) => some failure
  | .destroyed none => some success
  | _ => none

end RelayTunnel.Program
