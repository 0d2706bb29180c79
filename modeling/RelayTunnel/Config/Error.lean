import RelayTunnel.Endpoint
import RelayTunnel.Json.Reader

/-!
# Faults in a configuration

Why a cluster cannot be configured as asked, and the wording of each fault.
-/

set_option autoImplicit false

namespace RelayTunnel

/-- Why a configuration cannot be used. -/
inductive ConfigError where
  | missingUrl
  | badEndpoint (error : EndpointError)
  /-- The relay's url has no path that could be a session. -/
  | missingSession
  | invalidOption (name reason : String)
  /-- The file cannot be read. -/
  | unreadableFile (reason : String)
  /-- The file is not a configuration. -/
  | malformedFile (fault : Json.JsonFault)
  deriving DecidableEq

namespace ConfigError

/-- What is said of a file that cannot be found. -/
def noSuchFile : ConfigError := .unreadableFile "No such file or directory (os error 2)"

def message : ConfigError → String
  | .missingUrl => "relay url must be set"
  | .badEndpoint error => error.message
  | .missingSession => "relay url must carry a session path"
  | .invalidOption name reason => "invalid option " ++ name ++ ": " ++ reason
  | .unreadableFile reason => "failed to read config file: " ++ reason
  | .malformedFile _ => "failed to parse config file"

end ConfigError

end RelayTunnel
