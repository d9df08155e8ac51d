/-!
# Errors of the service

What the server answers when it cannot do what a request asks.
-/

namespace FleetTraffic

/-- Why a request is not served. -/
inductive ServiceError where
  /-- The body is not what the route takes. -/
  | malformedRequest (reason : String)
  /-- There is no traffic with the domain. -/
  | unknownDomain (domain : String)
  deriving DecidableEq

namespace ServiceError

/-- The error in words. -/
def message : ServiceError → String
  | .malformedRequest reason => "invalid request body: " ++ reason
  | .unknownDomain domain => "domain " ++ domain ++ " not found"

/-- The HTTP status of the answer. -/
def status : ServiceError → Nat
  | .malformedRequest _ => 400
  | .unknownDomain _ => 404

end ServiceError

end FleetTraffic
