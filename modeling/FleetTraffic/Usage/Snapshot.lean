import FleetTraffic.Usage.DomainUsage

/-!
# Snapshots

The network traffic of one host at one time: totals, usages by domain and counts by address,
protocol and port. Several snapshots are merged from the first to the last.
-/

namespace FleetTraffic

/-- The traffic of a host as a whole. -/
structure PacketTotals where
  connections : UInt64 := 0
  bytesSent : UInt64 := 0
  bytesReceived : UInt64 := 0
  packetsSent : UInt64 := 0
  packetsReceived : UInt64 := 0
  deriving DecidableEq

/-- The clamped sums of two hosts' totals. -/
def PacketTotals.plus (first second : PacketTotals) : PacketTotals where
  connections := Counter.plus first.connections second.connections
  bytesSent := Counter.plus first.bytesSent second.bytesSent
  bytesReceived := Counter.plus first.bytesReceived second.bytesReceived
  packetsSent := Counter.plus first.packetsSent second.packetsSent
  packetsReceived := Counter.plus first.packetsReceived second.packetsReceived

/-- The traffic of a host at one time. -/
structure Snapshot where
  timestamp : Instant := Instant.epoch
  hostId : String := ""
  hostname : String := ""
  totals : PacketTotals := {}
  domains : UsageTable := SortedMap.empty
  addresses : CountMap String := SortedMap.empty
  protocols : CountMap String := SortedMap.empty
  ports : CountMap UInt16 := SortedMap.empty
  deriving DecidableEq

namespace Snapshot

/-- Add the traffic of another snapshot. The later timestamp is kept, and the names of the host unless
they are empty. -/
def merge (snapshot added : Snapshot) : Snapshot where
  timestamp := snapshot.timestamp.later added.timestamp
  hostId := if snapshot.hostId = "" then added.hostId else snapshot.hostId
  hostname := if snapshot.hostname = "" then added.hostname else snapshot.hostname
  totals := snapshot.totals.plus added.totals
  domains := snapshot.domains.add added.domains
  addresses := snapshot.addresses.addAll added.addresses
  protocols := snapshot.protocols.addAll added.protocols
  ports := snapshot.ports.addAll added.ports

/-- The snapshots of a batch merged into the first of them. -/
def mergeAll? : List Snapshot → Option Snapshot
  | [] => none
  | first :: rest => some (rest.foldl merge first)

end Snapshot

end FleetTraffic
