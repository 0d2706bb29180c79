import RelayTunnel.CommandLine.Arguments

/-!
# What the program says of itself

The texts that are shown instead of any work: help, version, and what is wrong with the arguments.
-/

set_option autoImplicit false

namespace RelayTunnel.Usage

def name : String := "rv-client"

/-- The name and the version of the program. -/
def version : String := name ++ " 0.3.0"

def synopsis : String := "Usage: " ++ name ++ " [OPTIONS] [URL]"

/-- What a switch does, as help shows it. -/
def describe : Switch → String
  | .config => "JSON config file; flags override its values"
  | .maxConnections => "Tunnels kept open while requests are flowing [env: RV_MAX_CONNECTIONS=]"
  | .idleTimeout => "Milliseconds without activity before the pool shrinks to one tunnel"
  | .retryCount => "Reconnect attempts before giving up"
  | .retryDelay => "Milliseconds between reconnect attempts"
  | .disconnectIsFatal => "Stop when the relay closes the session instead of reconnecting"
  | .insecure => "Skip relay certificate verification (development only)"
  | .verbose => "Log at debug level"
  | .help => "Print help"
  | .version => "Print version"

/-- What stands for the value of a switch, if it takes one. -/
def valueName? : Switch → Option String
  | .config => some "CONFIG"
  | .maxConnections => some "MAX_CONNECTIONS"
  | .idleTimeout | .retryDelay => some "MS"
  | .retryCount => some "RETRY_COUNT"
  | _ => none

/-- How a switch is written, as help shows it. -/
def spelling (switch : Switch) : String :=
  let letter := match switch.letter? with
    | some letter => "-" ++ String.singleton letter ++ ", "
    | none => "    "
  let value := match valueName? switch with
    | some value => " <" ++ value ++ ">"
    | none => ""
  "  " ++ letter ++ "--" ++ switch.longName ++ value

/-- The column at which help describes a switch. -/
def column : Nat := 43

def line (switch : Switch) : String :=
  let start := spelling switch
  start ++ "".pushn ' ' (column - start.length) ++ describe switch

def help : String :=
  "\n".intercalate
    (["Keeps a pool of tunnels open to an rv relay and forwards relayed requests to the "
        ++ "destination the relay names",
      "",
      synopsis,
      "",
      "Arguments:",
      "  [URL]  Relay session url, e.g. https://relay.example.com/my-session [env: RV_URL=]",
      "",
      "Options:"] ++ Switch.all.map line)

/-- What is said of arguments that make no sense. -/
def complaint (reason : String) : String :=
  "error: " ++ reason ++ "\n\n" ++ synopsis ++ "\n\nFor more information, try '--help'."

end RelayTunnel.Usage
