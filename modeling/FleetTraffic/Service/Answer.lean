import FleetTraffic.Fleet
import FleetTraffic.Identity
import FleetTraffic.Json.Document
import FleetTraffic.Json.Printer
import FleetTraffic.Service.Error
import FleetTraffic.Service.Route
import FleetTraffic.Text.Blank
import FleetTraffic.Wire.Agent

/-!
# Answers of the service

What the service answers to a request, and what becomes of its fleet. A submission changes the fleet
only if its body can be read and its agent has a name; a question changes at most what a recomputing
fleet keeps of its sums.

A web framework may turn a body away before the service sees it, by default from 2 MiB on. This limit is left
out here: bodies of every size come through.
-/

namespace FleetTraffic

namespace HttpResponse

/-- A response with a value as its body. -/
def ofJson (status : Nat) (value : Json) : HttpResponse where
  status := status
  headers := [("content-type", "application/json")]
  body := value.toText.toUTF8

/-- A response with words as its body. -/
def ofText (status : Nat) (words : String) : HttpResponse where
  status := status
  headers := [("content-type", "text/plain; charset=utf-8")]
  body := words.toUTF8

/-- The answer to a submission that was taken. -/
def accepted (message : String) (now : Instant) : HttpResponse :=
  ofJson 200 (JsonCodec.response.write { success := true, message, timestamp := now })

/-- The answer to a request that is not served. -/
def refused (error : ServiceError) (now : Instant) : HttpResponse :=
  ofJson error.status
    (JsonCodec.response.write { success := false, message := error.message, timestamp := now })

end HttpResponse

namespace Service

/-- The value in the body of a request. -/
def read {α : Type} (codec : JsonCodec α) (body : ByteArray) : Except ServiceError α :=
  (codec.decode (Document.ofBytes body)).mapError fun fault => .malformedRequest fault.text

/-- The report in the body of a submission. Its agent must have a name that is not blank. -/
def readReport (body : ByteArray) : Except ServiceError Report := do
  let request ← read .request body
  if Text.isAllBlank request.agentId.toList then
    .error (.malformedRequest "agent_id must be non-empty")
  else return Report.ofRequest request

/-- Take a submitted report in. -/
def submitReport (fleet : Fleet) (now : Instant) (body : ByteArray) : HttpResponse × Fleet :=
  match readReport body with
  | .error error => (.refused error now, fleet)
  | .ok report =>
    let (verdict, fleet) := fleet.report report now
    let message := if verdict.restarted then "metrics processed, agent restart detected"
      else "metrics processed"
    (.accepted message now, fleet)

/-- Take a submitted heartbeat in. -/
def submitHeartbeat (fleet : Fleet) (now : Instant) (body : ByteArray) : HttpResponse × Fleet :=
  match read .heartbeat body with
  | .error error => (.refused error now, fleet)
  | .ok heartbeat =>
    let (known, fleet) := fleet.introduce heartbeat now
    (.accepted (if known then "heartbeat recorded" else "agent not yet known") now, fleet)

/-- Show the traffic with one domain. -/
def showDomain (fleet : Fleet) (age : Nat) (now : Instant) (written : String) :
    HttpResponse × Fleet :=
  match Text.percentDecodeText? written.toList with
  | none => (.ofText 400 "Invalid URL: Invalid UTF-8 in \x60domain\x60", fleet)
  | some domain =>
    let (usage, fleet) := fleet.usage? age now domain
    match usage with
    | some usage => (.ofJson 200 (JsonCodec.usage.write usage), fleet)
    | none => (.refused (.unknownDomain domain) now, fleet)

/-- Show the traffic of the whole fleet. -/
def showFleet (fleet : Fleet) (age : Nat) (now : Instant) : HttpResponse × Fleet :=
  let (view, fleet) := fleet.view age now
  (.ofJson 200 (JsonCodec.fleetView.write view), fleet)

/-- Show all agents. -/
def showAgents (fleet : Fleet) (now : Instant) : HttpResponse :=
  .ofJson 200 (Json.ofItems ((fleet.summaries now).map JsonCodec.summary.write))

/-- Show that the service runs, and how much it knows. -/
def showHealth (fleet : Fleet) (age : Nat) (now : Instant) : HttpResponse × Fleet :=
  let (stats, fleet) := fleet.stats age now
  (.ofJson 200 (Json.ofFields
    [ ("status", .ofText "ok"),
      ("agents", .natural stats.agents),
      ("active_agents", .natural stats.liveAgents),
      ("domains", .natural stats.domains) ]), fleet)

/-- Show name and version of the service. -/
def showVersion : HttpResponse :=
  .ofJson 200 (Json.ofFields [("name", .ofText serviceName), ("version", .ofText serviceVersion)])

/-- The answer of a route to a request with a method that it takes. The sums that a recomputing fleet
keeps are `age` nanoseconds old. -/
def answer (fleet : Fleet) (age : Nat) (now : Instant) (body : ByteArray) :
    Route → HttpResponse × Fleet
  | .metrics => submitReport fleet now body
  | .heartbeat => submitHeartbeat fleet now body
  | .cumulative => showFleet fleet age now
  | .domain written => showDomain fleet age now written
  | .agents => (showAgents fleet now, fleet)
  | .health => showHealth fleet age now
  | .version => (showVersion, fleet)

/-- The answer to a request on a route. The answer to HEAD is the one to GET without its body. -/
def answerOn (fleet : Fleet) (age : Nat) (now : Instant) (request : HttpRequest) (route : Route) :
    HttpResponse × Fleet :=
  if request.method = .options then ({ status := 200, headers := [route.allowHeader] }, fleet)
  else if request.method ∈ route.methods then
    let (response, fleet) := answer fleet age now request.body route
    (if request.method = .head then { response with body := .empty } else response, fleet)
  else ({ status := 405, headers := [route.allowHeader] }, fleet)

/-- The answer to a request. Pages of any origin may read it. -/
def serve (fleet : Fleet) (age : Nat) (now : Instant) (request : HttpRequest) :
    HttpResponse × Fleet :=
  let (response, fleet) := match Route.ofTarget? request.target with
    | some route => answerOn fleet age now request route
    | none => ({ status := if request.method = HttpMethod.options then 200 else 404 }, fleet)
  ({ response with headers := ("access-control-allow-origin", "*") :: response.headers }, fleet)

end Service

end FleetTraffic
