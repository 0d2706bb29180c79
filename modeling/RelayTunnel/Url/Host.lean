import RelayTunnel.Url.Address
import RelayTunnel.Url.Domain
import RelayTunnel.Url.Percent

/-!
# Hosts

The host of a url of a known scheme is an IPv6 address in brackets, an IPv4 address or a domain
name, each written in its normal form. Other schemes leave the host as it is, apart from
percent-encoding, and only refuse characters that would end it.
-/

set_option autoImplicit false

namespace RelayTunnel.Url

def bracketedHost (text : List Char) : Except UrlFault (List Char) :=
  if text.getLast? = some ']' then
    (ipv6? (text.drop 1).dropLast).map fun pieces => ['['] ++ ipv6Chars pieces ++ [']']
  else .error .badIpv6

/-- The normal form of the host of a known scheme. -/
def knownHost (text : List Char) : Except UrlFault (List Char) :=
  if text.head? = some '[' then bracketedHost text
  else do
    let name ← Domain.toAscii (percentDecode (Text.Utf8.encode text))
    if name.isEmpty then .error .emptyHost
    else if endsInNumber name then (ipv4? name).map ipv4Chars
    else .ok name

/-- Characters that must not stand in any host. -/
def endsAnyHost (c : Char) : Bool :=
  ['\x00', '\t', '\n', '\r', ' ', '#', '/', ':', '<', '>', '?', '@', '[', '\\', ']', '^', '|'].contains c

/-- The normal form of the host of an unknown scheme. -/
def opaqueHost (text : List Char) : Except UrlFault (List Char) :=
  if text.head? = some '[' then bracketedHost text
  else if text.any endsAnyHost then .error .badHostCharacter
  else .ok (percentEncode isAlwaysEncoded text)

end RelayTunnel.Url
