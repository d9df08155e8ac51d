import FleetTraffic.Report

/-!
# Agents as the server sees them

The record that the server keeps of each agent, the verdict on whether an agent has restarted, and
the views of the whole fleet that it shows.
-/

namespace FleetTraffic

/-- What the server remembers of an agent. -/
structure AgentRecord where
  agentId : String
  hostname : String
  version : String
  lastStartup : Instant
  lastReport : Instant
  lastHeartbeat : Instant
  /-- How often the agent has restarted, taken to be fewer than 2^32 times. -/
  restarts : UInt32
  active : Bool
  deriving DecidableEq

/-- Whether an agent was heard from lately. -/
inductive AgentStatus where
  | online
  | offline
  deriving DecidableEq

/-- A record together with the agent's status at the time of asking. -/
structure AgentSummary where
  record : AgentRecord
  status : AgentStatus
  deriving DecidableEq

/-- How a restart was noticed. -/
inductive RestartReason where
  /-- The reported startup is later than the known one. -/
  | startupAdvanced
  /-- Some counter of a domain is smaller than in the previous report. -/
  | countersDropped
  deriving DecidableEq

/-- Whether a report shows that its agent has restarted. -/
structure RestartVerdict where
  restarted : Bool
  reason : Option RestartReason
  previousStartup : Option Instant
  startup : Instant
  restarts : UInt32
  deriving DecidableEq

namespace RestartVerdict

/-- There was no restart. -/
def none (startup : Instant) : RestartVerdict := ⟨false, .none, .none, startup, 0⟩

/-- The agent of a record has restarted. -/
def restart (record : AgentRecord) (startup : Instant) (reason : RestartReason) : RestartVerdict :=
  ⟨true, some reason, some record.lastStartup, startup, record.restarts + 1⟩

end RestartVerdict

/-- The usages of the whole fleet at one time. -/
structure FleetView where
  domains : UsageTable
  totals : HostTotals
  generatedAt : Instant
  /-- The agents that were heard from lately. -/
  sources : List String
  deriving DecidableEq

/-- Totals over a table of usages. -/
def HostTotals.ofUsages (domains : UsageTable) : HostTotals :=
  domains.values.foldl
    (fun totals usage =>
      { totals with
        connections := Counter.plus totals.connections usage.counters.connections
        bytesSent := Counter.plus totals.bytesSent usage.counters.bytesSent
        bytesReceived := Counter.plus totals.bytesReceived usage.counters.bytesReceived })
    { activeDomains := UInt64.ofNat domains.size }

/-- The view that a table of usages gives. -/
def FleetView.ofUsages (domains : UsageTable) (sources : List String) (now : Instant) : FleetView where
  domains := domains
  totals := HostTotals.ofUsages domains
  generatedAt := now
  sources := sources

end FleetTraffic
