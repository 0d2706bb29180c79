/-!
# Faults in urls

Why a text is no absolute url, and the wording of each fault.
-/

set_option autoImplicit false

namespace RelayTunnel.Url

/-- Why a text is no absolute url. -/
inductive UrlFault where
  | noScheme
  | emptyHost
  | badPort
  | badIpv4
  | badIpv6
  | badDomain
  | badHostCharacter
  deriving DecidableEq

/-- The wording of a fault in a url. -/
def UrlFault.message : UrlFault → String
  | .noScheme => "relative URL without a base"
  | .emptyHost => "empty host"
  | .badPort => "invalid port number"
  | .badIpv4 => "invalid IPv4 address"
  | .badIpv6 => "invalid IPv6 address"
  | .badDomain => "invalid international domain name"
  | .badHostCharacter => "invalid domain character"

end RelayTunnel.Url
