import FleetTraffic.Agent
import FleetTraffic.Json.Generic
import FleetTraffic.Wire.Report

/-!
# Agent records, verdicts and fleet views as JSON

The field names of the wire format for what the server shows. A summary is one flat object: the
fields of the record and the status. When it is read, the fields of the record are set aside until
the object ends, and only then decoded.
-/

namespace FleetTraffic.JsonCodec

/-- The fields of a record. -/
def agentFields : List (Field JsonCodec) :=
  [ .required "agent_id" text,
    .withDefault "hostname" text "",
    .withDefault "version" text "",
    .required "last_startup_time" instant,
    .required "last_report_time" instant,
    .required "last_heartbeat" instant,
    .required "restart_count" word32,
    .required "is_active" bool ]

/-- The record made of the values of its fields. -/
def agentOfValues : Values agentFields → AgentRecord :=
  fun (agentId, hostname, version, lastStartup, lastReport, lastHeartbeat, restarts, active, ()) =>
    { agentId, hostname, version, lastStartup, lastReport, lastHeartbeat, restarts, active }

/-- The values of the fields of a record. -/
def valuesOfAgent (agent : AgentRecord) : Values agentFields :=
  (agent.agentId, agent.hostname, agent.version, agent.lastStartup, agent.lastReport,
    agent.lastHeartbeat, agent.restarts, agent.active, ())

/-- A record as JSON. -/
def agent : JsonCodec AgentRecord := record agentFields agentOfValues valuesOfAgent

/-- A status as JSON. -/
def status : JsonCodec AgentStatus :=
  enumeration [("online", .online), ("offline", .offline)] fun
    | .online => "online"
    | .offline => "offline"

/-- The greatest number of containers inside each other in a field that is set aside. -/
def heldDepth : Nat := 126

/-- The status and the fields that were set aside, in the order in which they stand. -/
def readSummaryFields : List (List Glyph × Json) → Option AgentStatus → List (String × Json) →
    Except Fault (Option AgentStatus × List (String × Json))
  | [], found, aside => .ok (found, aside.reverse)
  | (key, content) :: rest, found, aside => do
    let name ← readGlyphs key
    if name = "status" then
      match found with
      | some _ => .error (.duplicateField "status")
      | none => do
        let value ← status.read content
        readSummaryFields rest (some value) aside
    else if content.isHoldable heldDepth then
      readSummaryFields rest found ((name, content) :: aside)
    else .error .malformed

/-- Fill the slots of a record from fields that were set aside. -/
def fillAside : List (String × Json) → Slots agentFields → Except Fault (Slots agentFields)
  | [], slots => .ok slots
  | (name, content) :: rest, slots => do
    match ← slots.fill agentFields name content with
    | some slots => fillAside rest slots
    | none => fillAside rest slots

/-- A summary as JSON. -/
def summary : JsonCodec AgentSummary where
  write summary :=
    Json.ofFields (Values.toFields JsonCodec.write agentFields (valuesOfAgent summary.record) ++
      [("status", status.write summary.status)])
  read
    | .object fields closed => do
      let (found, aside) ← readSummaryFields fields none []
      if closed then
        match found with
        | none => .error (.missingField "status")
        | some found => do
          let slots ← fillAside aside (Slots.vacant agentFields)
          let values ← slots.finish agentFields
          return ⟨agentOfValues values, found⟩
      else .error .malformed
    | _ => .error .malformed

/-- A reason as JSON. -/
def reason : JsonCodec RestartReason :=
  enumeration
    [("startup_time_advanced", .startupAdvanced), ("counters_decreased", .countersDropped)] fun
    | .startupAdvanced => "startup_time_advanced"
    | .countersDropped => "counters_decreased"

/-- The fields of a verdict. -/
def verdictFields : List (Field JsonCodec) :=
  [ .required "is_restart" bool,
    .namedOrDefault "reason" (optional reason) none,
    .namedOrDefault "previous_startup" (optional instant) none,
    .required "current_startup" instant,
    .required "restart_count" word32 ]

/-- A verdict as JSON. -/
def verdict : JsonCodec RestartVerdict :=
  record verdictFields
    (fun (restarted, reason, previousStartup, startup, restarts, ()) =>
      { restarted, reason, previousStartup, startup, restarts })
    (fun verdict =>
      (verdict.restarted, verdict.reason, verdict.previousStartup, verdict.startup,
        verdict.restarts, ()))

/-- The fields of a fleet view. -/
def fleetViewFields : List (Field JsonCodec) :=
  [ .required "domain_stats" usageTable,
    .required "system_stats" totals,
    .required "generated_at" instant,
    .required "data_sources" (list text) ]

/-- A fleet view as JSON. -/
def fleetView : JsonCodec FleetView :=
  record fleetViewFields
    (fun (domains, totals, generatedAt, sources, ()) => { domains, totals, generatedAt, sources })
    (fun view => (view.domains, view.totals, view.generatedAt, view.sources, ()))

end FleetTraffic.JsonCodec
