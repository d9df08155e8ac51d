import FleetTraffic.Identity
import FleetTraffic.Usage.Snapshot

/-!
# Reports

An agent submits a snapshot in a request, and the server files it as a report: usages by domain since
the agent's startup, under their own names, with totals of the host. Between submissions an agent
sends heartbeats that describe it.
-/

namespace FleetTraffic

/-- What an agent submits. Old agents do not say when they started. -/
structure ReportRequest where
  agentId : String
  hostname : String
  timestamp : Instant
  startup : Option Instant
  snapshot : Snapshot
  deriving DecidableEq

/-- The answer to a submission or a heartbeat. -/
structure ReportResponse where
  success : Bool
  message : String
  timestamp : Instant
  deriving DecidableEq

/-- Totals of one host, or of all of them. -/
structure HostTotals where
  hostname : String := ""
  connections : UInt64 := 0
  bytesSent : UInt64 := 0
  bytesReceived : UInt64 := 0
  activeDomains : UInt64 := 0
  uptimeSeconds : UInt64 := 0
  deriving DecidableEq

/-- How a report came about. -/
structure ReportMetadata where
  version : String := ""
  mode : String := ""
  tags : SortedMap String String := SortedMap.empty
  deriving DecidableEq

/-- The usages of one agent at the time of the report, counted since its startup. -/
structure Report where
  agentId : String
  startup : Instant
  time : Instant
  domains : UsageTable
  host : HostTotals
  metadata : ReportMetadata
  deriving DecidableEq

/-- What an agent says about itself while it runs. -/
structure Heartbeat where
  agentId : String
  hostname : String
  version : String
  startup : Instant
  lastSeen : Instant
  status : String
  deriving DecidableEq

/-- The whole seconds between two instants, none if the second is not the earlier one. -/
def secondsBetween (later earlier : Instant) : UInt64 :=
  UInt64.ofNat (later.since earlier).wholeSeconds.toNat

/-- The report that a request makes. An unknown startup counts as 1970, which is later than no other
startup. -/
def Report.ofRequest (request : ReportRequest) : Report :=
  let startup := request.startup.getD Instant.epoch
  let domains := request.snapshot.domains.named
  { agentId := request.agentId
    startup
    time := request.timestamp
    domains
    host :=
      { hostname := request.hostname
        connections := request.snapshot.totals.connections
        bytesSent := request.snapshot.totals.bytesSent
        bytesReceived := request.snapshot.totals.bytesReceived
        activeDomains := UInt64.ofNat domains.size
        uptimeSeconds := secondsBetween request.timestamp startup }
    metadata := { version := serviceVersion, mode := "cumulative" } }

end FleetTraffic
