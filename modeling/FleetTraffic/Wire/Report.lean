import FleetTraffic.Report
import FleetTraffic.Wire.Usage

/-!
# Requests, reports and heartbeats as JSON

The field names of the wire format for what agents send and what the server files. A request leaves
an unknown startup out.
-/

namespace FleetTraffic.JsonCodec

/-- The fields of a request. -/
def requestFields : List (Field JsonCodec) :=
  [ .required "agent_id" text,
    .withDefault "hostname" text "",
    .required "timestamp" instant,
    .omittedWhen "startup_time" (optional instant) none Option.isNone,
    .required "metrics" snapshot ]

/-- A request as JSON. -/
def request : JsonCodec ReportRequest :=
  record requestFields
    (fun (agentId, hostname, timestamp, startup, snapshot, ()) =>
      { agentId, hostname, timestamp, startup, snapshot })
    (fun request =>
      (request.agentId, request.hostname, request.timestamp, request.startup, request.snapshot, ()))

/-- The fields of a response. -/
def responseFields : List (Field JsonCodec) :=
  [ .required "success" bool,
    .withDefault "message" text "",
    .required "timestamp" instant ]

/-- A response as JSON. -/
def response : JsonCodec ReportResponse :=
  record responseFields
    (fun (success, message, timestamp, ()) => { success, message, timestamp })
    (fun response => (response.success, response.message, response.timestamp, ()))

/-- The fields of a host's totals. -/
def totalsFields : List (Field JsonCodec) :=
  [ .withDefault "hostname" text "",
    .withDefault "total_connections" word64 0,
    .withDefault "total_bytes_sent" word64 0,
    .withDefault "total_bytes_received" word64 0,
    .withDefault "active_domains" word64 0,
    .withDefault "uptime_seconds" word64 0 ]

/-- A host's totals as JSON. -/
def totals : JsonCodec HostTotals :=
  record totalsFields
    (fun (hostname, connections, bytesSent, bytesReceived, activeDomains, uptimeSeconds, ()) =>
      { hostname, connections, bytesSent, bytesReceived, activeDomains, uptimeSeconds })
    (fun totals =>
      (totals.hostname, totals.connections, totals.bytesSent, totals.bytesReceived,
        totals.activeDomains, totals.uptimeSeconds, ()))

/-- The fields of a report's metadata. -/
def metadataFields : List (Field JsonCodec) :=
  [ .withDefault "version" text "",
    .withDefault "report_mode" text "",
    .omittedWhen "tags" (map text) .empty SortedMap.isEmpty ]

/-- A report's metadata as JSON. -/
def metadata : JsonCodec ReportMetadata :=
  record metadataFields
    (fun (version, mode, tags, ()) => { version, mode, tags })
    (fun metadata => (metadata.version, metadata.mode, metadata.tags, ()))

/-- The fields of a report. -/
def reportFields : List (Field JsonCodec) :=
  [ .required "agent_id" text,
    .required "startup_time" instant,
    .required "report_time" instant,
    .withDefault "delta_stats" usageTable .empty,
    .withDefault "system_info" totals {},
    .withDefault "metadata" metadata {} ]

/-- A report as JSON. -/
def report : JsonCodec Report :=
  record reportFields
    (fun (agentId, startup, time, domains, host, metadata, ()) =>
      { agentId, startup, time, domains, host, metadata })
    (fun report =>
      (report.agentId, report.startup, report.time, report.domains, report.host, report.metadata, ()))

/-- The fields of a heartbeat. -/
def heartbeatFields : List (Field JsonCodec) :=
  [ .required "id" text,
    .withDefault "hostname" text "",
    .withDefault "version" text "",
    .required "start_time" instant,
    .required "last_seen" instant,
    .withDefault "status" text "" ]

/-- A heartbeat as JSON. -/
def heartbeat : JsonCodec Heartbeat :=
  record heartbeatFields
    (fun (agentId, hostname, version, startup, lastSeen, status, ()) =>
      { agentId, hostname, version, startup, lastSeen, status })
    (fun heartbeat =>
      (heartbeat.agentId, heartbeat.hostname, heartbeat.version, heartbeat.startup,
        heartbeat.lastSeen, heartbeat.status, ()))

end FleetTraffic.JsonCodec
