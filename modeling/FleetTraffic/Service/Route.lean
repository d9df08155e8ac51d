import FleetTraffic.Http.Message
import FleetTraffic.Text.Percent

/-!
# Routes

The paths that the service knows, and the methods that each of them takes. A path is compared as it is
written; only the name of a domain is looked at further.
-/

namespace FleetTraffic

/-- A path of the service. -/
inductive Route where
  /-- Agents submit what they measured. -/
  | metrics
  /-- Agents show that they run. -/
  | heartbeat
  /-- The traffic of the whole fleet. -/
  | cumulative
  /-- The traffic with one domain, by its name as it is written in the path. -/
  | domain (written : String)
  /-- All agents with their status. -/
  | agents
  /-- Whether the service runs, and how much it knows. -/
  | health
  /-- Name and version of the service. -/
  | version
  deriving DecidableEq

namespace Route

/-- The path in the target of a request, without what follows a question mark or a number sign. -/
def pathOf (target : String) : String :=
  String.ofList (target.toList.takeWhile fun c => c != '?' && c != '#')

/-- The route of a target, if the service knows it. -/
def ofTarget? (target : String) : Option Route :=
  match (pathOf target).splitOn "/" with
  | ["", "metrics"] => some .metrics
  | ["", "heartbeat"] => some .heartbeat
  | ["", "api", "cumulative"] => some .cumulative
  | ["", "api", "domains", written] => if written = "" then none else some (.domain written)
  | ["", "api", "agents"] => some .agents
  | ["", "health"] => some .health
  | ["", "version"] => some .version
  | _ => none

/-- The methods that a route takes. -/
def methods : Route → List HttpMethod
  | .metrics => [.post]
  | .heartbeat => [.post]
  | _ => [.get, .head]

/-- The methods that a route takes, as a header. -/
def allowHeader (route : Route) : String × String :=
  ("allow", ",".intercalate (route.methods.map HttpMethod.name))

end Route

end FleetTraffic
