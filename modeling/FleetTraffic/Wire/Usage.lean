import FleetTraffic.Json.Codec
import FleetTraffic.Usage.Snapshot

/-!
# Usages and snapshots as JSON

The field names of the wire format. Everything but the name of a domain has a default. A usage leaves
its counts by protocol and port out when there are none; a snapshot writes every field.
-/

namespace FleetTraffic.JsonCodec

/-- The fields of a usage. -/
def usageFields : List (Field JsonCodec) :=
  [ .required "domain" text,
    .withDefault "access_count" word64 0,
    .withDefault "bytes_sent" word64 0,
    .withDefault "bytes_received" word64 0,
    .withDefault "connection_count" word64 0,
    .withDefault "last_access_time" instant Instant.epoch,
    .omittedWhen "protocol_stats" (map word64) .empty SortedMap.isEmpty,
    .omittedWhen "port_stats" (portMap word64) .empty SortedMap.isEmpty ]

/-- A usage as JSON. -/
def usage : JsonCodec DomainUsage :=
  record usageFields
    (fun (domain, accesses, bytesSent, bytesReceived, connections, lastAccess, protocols, ports, ()) =>
      { domain, lastAccess, protocols, ports
        counters := { accesses, bytesSent, bytesReceived, connections } })
    (fun usage =>
      (usage.domain, usage.counters.accesses, usage.counters.bytesSent,
        usage.counters.bytesReceived, usage.counters.connections, usage.lastAccess, usage.protocols,
        usage.ports, ()))

/-- A table of usages as JSON. -/
def usageTable : JsonCodec UsageTable := map usage

/-- The fields of a snapshot. -/
def snapshotFields : List (Field JsonCodec) :=
  [ .withDefault "timestamp" instant Instant.epoch,
    .withDefault "host_id" text "",
    .withDefault "hostname" text "",
    .withDefault "total_connections" word64 0,
    .withDefault "total_bytes_sent" word64 0,
    .withDefault "total_bytes_received" word64 0,
    .withDefault "total_packets_sent" word64 0,
    .withDefault "total_packets_received" word64 0,
    .withDefault "domain_stats" usageTable .empty,
    .withDefault "ips_accessed" (map word64) .empty,
    .withDefault "protocol_stats" (map word64) .empty,
    .withDefault "port_stats" (portMap word64) .empty ]

/-- A snapshot as JSON. -/
def snapshot : JsonCodec Snapshot :=
  record snapshotFields
    (fun (timestamp, hostId, hostname, connections, bytesSent, bytesReceived, packetsSent,
        packetsReceived, domains, addresses, protocols, ports, ()) =>
      { timestamp, hostId, hostname, domains, addresses, protocols, ports
        totals := { connections, bytesSent, bytesReceived, packetsSent, packetsReceived } })
    (fun snapshot =>
      (snapshot.timestamp, snapshot.hostId, snapshot.hostname, snapshot.totals.connections,
        snapshot.totals.bytesSent, snapshot.totals.bytesReceived, snapshot.totals.packetsSent,
        snapshot.totals.packetsReceived, snapshot.domains, snapshot.addresses, snapshot.protocols,
        snapshot.ports, ()))

end FleetTraffic.JsonCodec
