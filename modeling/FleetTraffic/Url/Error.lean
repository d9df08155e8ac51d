/-!
# Errors of URLs

Why a text is no URL, or why a URL leads to no other one.
-/

namespace FleetTraffic

/-- Why there is no URL. -/
inductive UrlError where
  /-- The text has no scheme, and there is nothing that it could be relative to. -/
  | noScheme
  /-- The URL has no hierarchy in which another one could be beside it. -/
  | noHierarchy
  | emptyHost
  | invalidPort
  | invalidIpv4
  | invalidIpv6
  /-- The host is no domain name. -/
  | invalidDomain
  /-- The host has a character that no host may have. -/
  | invalidHostCharacter
  deriving DecidableEq

namespace UrlError

/-- The error in words. -/
def message : UrlError → String
  | .noScheme => "relative URL without a base"
  | .noHierarchy => "relative URL with a cannot-be-a-base base"
  | .emptyHost => "empty host"
  | .invalidPort => "invalid port number"
  | .invalidIpv4 => "invalid IPv4 address"
  | .invalidIpv6 => "invalid IPv6 address"
  | .invalidDomain => "invalid international domain name"
  | .invalidHostCharacter => "invalid domain character"

end UrlError

end FleetTraffic
