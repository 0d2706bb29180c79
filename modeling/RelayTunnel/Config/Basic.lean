import RelayTunnel.Config.Error
import RelayTunnel.Config.ExtraFields
import RelayTunnel.Http.HeadSyntax
import RelayTunnel.Text.Utf8
import RelayTunnel.Time

/-!
# Configuration of a cluster

`Config.validate` checks a configuration and gives the endpoint of its relay. It reports the first
fault in a fixed order: the url, the number of connections, the durations, and then the extra fields
by name.
-/

set_option autoImplicit false

namespace RelayTunnel

/-- The options of a cluster. -/
structure Config where
  /-- The relay's url; its path is the session. -/
  url : String := ""
  /-- How many tunnels are kept while there is traffic. -/
  maxConnections : UInt64 := 2
  /-- How long there is no traffic before only one tunnel is kept. -/
  idleTimeout : Duration := .ofSeconds 5
  /-- How often in a row the relay is tried again. -/
  retryCount : UInt32 := 5
  retryDelay : Duration := .ofSeconds 1
  /-- How long a destination may be silent. -/
  destinationTimeout : Duration := .ofSeconds 30
  /-- Whether the cluster ends when the relay closes the session. -/
  disconnectIsFatal : Bool := false
  /-- Whether any certificate is accepted. -/
  insecure : Bool := false
  /-- Header fields added to the opening request of a tunnel. -/
  headers : ExtraFields := .empty
  deriving DecidableEq

namespace Config

/-- The longest name of a header field. -/
def maxFieldName : Nat := 65535

/-- Whether a text can be the name of a header field. -/
def isFieldName (name : String) : Bool :=
  let octets := Text.Utf8.ofString name
  !octets.isEmpty && octets.length ≤ maxFieldName && octets.all Http.HeadSyntax.isTokenChar

/-- Whether a text can be the value of a header field: no control but the tab. -/
def isFieldValue (value : String) : Bool :=
  (Text.Utf8.ofString value).all Http.HeadSyntax.isTextChar

/-- What is wrong with an extra field, if anything. -/
def fieldFault? (field : String × String) : Option String :=
  if !isFieldName field.1 then some (field.1 ++ ": invalid HTTP header name")
  else if !isFieldValue field.2 then some (field.1 ++ ": failed to parse header value")
  else none

/-- What is said of a number that must not be zero. -/
def mustBePositive : String := "must be greater than 0"

/-- The durations that must not be zero, with their names. -/
def positiveDurations (config : Config) : List (String × Duration) :=
  [("idleTimeout", config.idleTimeout), ("retryDelay", config.retryDelay),
    ("destinationTimeout", config.destinationTimeout)]

/-- What is wrong with an option other than the url, if anything. -/
def optionFault? (config : Config) : Option ConfigError :=
  if config.maxConnections = 0 then some (.invalidOption "maxConnections" mustBePositive)
  else
    match config.positiveDurations.find? fun d => d.2.nanos == 0 with
    | some (name, _) => some (.invalidOption name mustBePositive)
    | none => (config.headers.toList.findSome? fieldFault?).map (.invalidOption "headers")

/-- The endpoint of the relay, if every option is usable. -/
def validate (config : Config) : Except ConfigError Endpoint :=
  if (Text.trim config.url.toList).isEmpty then .error .missingUrl
  else
    match Endpoint.parse config.url with
    | .error error => .error (.badEndpoint error)
    | .ok relay =>
        if relay.session.isEmpty then .error .missingSession
        else
          match config.optionFault? with
          | some error => .error error
          | none => .ok relay

end Config

end RelayTunnel
