/-!
# Errors of delivery

What can go wrong between an agent and the server. A failed connection, an unexpected status and a
refusal may pass, so the agent tries again; the other errors would only repeat.
-/

namespace FleetTraffic

/-- Why a snapshot or a request was not delivered. -/
inductive DeliveryError where
  /-- The queue of snapshots is full. -/
  | queueFull
  /-- The reporter was stopped. -/
  | stopped
  /-- The connection failed; the cause in words. -/
  | transport (cause : String)
  /-- The server answered with an unexpected status. -/
  | status (code : Nat)
  /-- The server refused the request, or its answer cannot be read. -/
  | rejected (reason : String)
  /-- The request has no written form. -/
  | serialization (cause : String)
  /-- An address is no URL. -/
  | invalidUrl (url : String) (reason : String)
  deriving DecidableEq

namespace DeliveryError

/-- The error in words. -/
def message : DeliveryError → String
  | .queueFull => "report queue is full, snapshot dropped"
  | .stopped => "reporter is stopped"
  | .transport cause => "transport error: " ++ cause
  | .status code => "server returned status " ++ toString code
  | .rejected reason => "server rejected report: " ++ reason
  | .serialization cause => "serialization error: " ++ cause
  | .invalidUrl url reason => "invalid url " ++ url ++ ": " ++ reason

/-- Whether another attempt may succeed. -/
def isRetryable : DeliveryError → Bool
  | .transport _ => true
  | .status _ => true
  | .rejected _ => true
  | _ => false

end DeliveryError

end FleetTraffic
