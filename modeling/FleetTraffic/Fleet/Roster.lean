import FleetTraffic.Agent

/-!
# The roster of agents

For each agent the roster holds its record, its latest report and, once it has restarted, a baseline:
what its earlier lifetimes add up to. The counters of an agent start again from zero when it restarts,
so what it contributes is its baseline together with its latest report.

A restart shows in a later startup or, if an agent does not say when it started, in a counter that is
smaller than in the report before. Agents count as live for a while after they were last heard from.
-/

namespace FleetTraffic

/-- How the server treats its agents. -/
structure FleetOptions where
  /-- How long an agent counts as live after it was heard from. -/
  timeout : Duration
  /-- Whether restarts are looked for at all. -/
  detectsRestarts : Bool
  /-- Whether the reports of earlier lifetimes are kept as baselines. -/
  keepsBaselines : Bool
  deriving DecidableEq

/-- What the server knows of each agent. -/
structure Roster where
  reports : SortedMap String Report := SortedMap.empty
  records : SortedMap String AgentRecord := SortedMap.empty
  baselines : SortedMap String UsageTable := SortedMap.empty
  deriving DecidableEq

namespace Roster

/-- Whether some domain of a report has a smaller counter than in the report before. -/
def countersDropped (report previous : Report) : Bool :=
  report.domains.entries.any fun entry =>
    match previous.domains.get? entry.1 with
    | none => false
    | some before => entry.2.droppedSince before

/-- The verdict on a report. The first report of an agent is no restart. -/
def detect (roster : Roster) (options : FleetOptions) (report : Report) : RestartVerdict :=
  if options.detectsRestarts then
    match roster.records.get? report.agentId with
    | none => .none report.startup
    | some record =>
      if record.lastStartup < report.startup then
        .restart record report.startup .startupAdvanced
      else
        match roster.reports.get? report.agentId with
        | none => .none report.startup
        | some previous =>
          if countersDropped report previous then
            .restart record report.startup .countersDropped
          else .none report.startup
  else .none report.startup

/-- The baselines with an agent's latest report added to its own. -/
def carryForward (roster : Roster) (agent : String) : SortedMap String UsageTable :=
  match roster.reports.get? agent with
  | none => roster.baselines
  | some previous =>
    roster.baselines.alter agent fun baseline => some ((baseline.getD .empty).add previous.domains)

/-- The record of an agent at its first report. -/
def firstRecord (report : Report) (now : Instant) : AgentRecord where
  agentId := report.agentId
  hostname := ""
  version := ""
  lastStartup := report.startup
  lastReport := report.time
  lastHeartbeat := now
  restarts := 0
  active := true

/-- The record of an agent after a report. -/
def updateRecord (record : AgentRecord) (report : Report) (verdict : RestartVerdict)
    (now : Instant) : AgentRecord where
  agentId := record.agentId
  hostname := if report.host.hostname = "" then record.hostname else report.host.hostname
  version := record.version
  lastStartup := if verdict.restarted then report.startup else record.lastStartup
  lastReport := report.time
  lastHeartbeat := now
  restarts := if verdict.restarted then record.restarts + 1 else record.restarts
  active := true

/-- Take a report in: judge it, carry the previous report into the baseline on a restart, update the
record and keep the report as the latest. -/
def observe (roster : Roster) (options : FleetOptions) (report : Report) (now : Instant) :
    RestartVerdict × Roster :=
  let verdict := roster.detect options report
  (verdict,
    { reports := roster.reports.insert report.agentId report
      records := roster.records.alter report.agentId fun record =>
        some (updateRecord (record.getD (firstRecord report now)) report verdict now)
      baselines :=
        if verdict.restarted && options.keepsBaselines then roster.carryForward report.agentId
        else roster.baselines })

/-- What an agent contributes: its baseline and its latest report, by domain. -/
def contribution (roster : Roster) (agent : String) : UsageTable :=
  let baseline := (roster.baselines.get? agent).getD .empty
  match roster.reports.get? agent with
  | none => baseline.named
  | some report => (baseline.add report.domains).named

/-- The record of an agent that was heard from. -/
def refreshRecord (now : Instant) (record : AgentRecord) : AgentRecord :=
  { record with lastHeartbeat := now, active := true }

/-- An agent was heard from. The answer says whether it is known; unknown agents stay unknown. -/
def touch (roster : Roster) (agent : String) (now : Instant) : Bool × Roster :=
  (roster.records.contains agent,
    { roster with records := roster.records.modify agent (refreshRecord now) })

/-- An agent was heard from and described itself. Empty descriptions leave the record as it is. -/
def introduce (roster : Roster) (heartbeat : Heartbeat) (now : Instant) : Bool × Roster :=
  let describe (record : AgentRecord) : AgentRecord :=
    { refreshRecord now record with
      hostname := if heartbeat.hostname = "" then record.hostname else heartbeat.hostname
      version := if heartbeat.version = "" then record.version else heartbeat.version }
  (roster.records.contains heartbeat.agentId,
    { roster with records := roster.records.modify heartbeat.agentId describe })

/-- Whether an agent was heard from within a time. -/
def isLive (record : AgentRecord) (timeout : Duration) (now : Instant) : Bool :=
  record.active && (now.since record.lastHeartbeat).shorter timeout.toSpan

/-- The agents that were heard from within a time, in the order of their names. -/
def liveAgents (roster : Roster) (timeout : Duration) (now : Instant) : List String :=
  (roster.records.values.filter fun record => isLive record timeout now).map AgentRecord.agentId

/-- A record with the status of its agent. -/
def summarize (timeout : Duration) (now : Instant) (record : AgentRecord) : AgentSummary where
  record := record
  status := if isLive record timeout now then .online else .offline

/-- All agents with their status, in the order of their names. -/
def summaries (roster : Roster) (timeout : Duration) (now : Instant) : List AgentSummary :=
  roster.records.values.map (summarize timeout now)

/-- Whether an agent was last heard from more than a time ago. -/
def isExpired (record : AgentRecord) (maxAge : Duration) (now : Instant) : Bool :=
  maxAge.toSpan.shorter (now.since record.lastHeartbeat)

/-- The agents that were last heard from more than a time ago, in the order of their names. -/
def expiredAgents (roster : Roster) (maxAge : Duration) (now : Instant) : List String :=
  (roster.records.values.filter fun record => isExpired record maxAge now).map AgentRecord.agentId

/-- Forget an agent. -/
def remove (roster : Roster) (agent : String) : Roster where
  reports := roster.reports.erase agent
  records := roster.records.erase agent
  baselines := roster.baselines.erase agent

end Roster

end FleetTraffic
