import FleetTraffic.Calendar.Instant
import FleetTraffic.Counter
import FleetTraffic.SortedMap

/-!
# Traffic of one domain

How often and with how much traffic a domain was used: four counters, the time of the latest access,
and counts by protocol and by port. Usages are added and subtracted counter by counter. A count of
zero by protocol or port is never added to a usage, and one that a subtraction brings to zero is
taken out.
-/

namespace FleetTraffic

/-- Counts under names or numbers. -/
abbrev CountMap (κ : Type) [Ord κ] : Type := SortedMap κ UInt64

namespace CountMap

variable {κ : Type} [Ord κ] [Std.TransOrd κ]

/-- Add every count of the second map to the first, also one of zero. -/
def addAll (counts added : CountMap κ) : CountMap κ :=
  counts.absorb (fun _ count present => some (Counter.plus (present.getD 0) count)) added

/-- Add every count of the second map but those of zero to the first. -/
def add (counts added : CountMap κ) : CountMap κ :=
  counts.absorb
    (fun _ count present => if count = 0 then present else some (Counter.plus (present.getD 0) count))
    added

/-- Subtract every count of the second map from the first. A count that the subtraction brings to
zero is taken out. -/
def subtract (counts removed : CountMap κ) : CountMap κ :=
  counts.absorb
    (fun _ count present => present.bind fun value =>
      let left := Counter.minus value count
      if left = 0 then none else some left)
    removed

end CountMap

/-- The four counters of a domain. -/
structure Counters where
  accesses : UInt64 := 0
  bytesSent : UInt64 := 0
  bytesReceived : UInt64 := 0
  connections : UInt64 := 0
  deriving DecidableEq

namespace Counters

/-- Combine two sets of counters counter by counter. -/
def zipWith (combine : UInt64 → UInt64 → UInt64) (first second : Counters) : Counters where
  accesses := combine first.accesses second.accesses
  bytesSent := combine first.bytesSent second.bytesSent
  bytesReceived := combine first.bytesReceived second.bytesReceived
  connections := combine first.connections second.connections

/-- The clamped sums. -/
def plus (first second : Counters) : Counters := zipWith Counter.plus first second

/-- The clamped differences. -/
def minus (first second : Counters) : Counters := zipWith Counter.minus first second

/-- Whether some counter is smaller than before. -/
def droppedSince (now before : Counters) : Bool :=
  now.accesses < before.accesses || now.bytesSent < before.bytesSent ||
    now.bytesReceived < before.bytesReceived || now.connections < before.connections

end Counters

/-- What is known about the traffic with one domain. -/
structure DomainUsage where
  domain : String
  counters : Counters := {}
  lastAccess : Instant := Instant.epoch
  protocols : CountMap String := SortedMap.empty
  ports : CountMap UInt16 := SortedMap.empty
  deriving DecidableEq

namespace DomainUsage

/-- No traffic with a domain. -/
def none (domain : String) : DomainUsage where
  domain := domain

/-- Add the traffic of another usage, and keep the later time of access. -/
def add (usage added : DomainUsage) : DomainUsage where
  domain := usage.domain
  counters := usage.counters.plus added.counters
  lastAccess := usage.lastAccess.later added.lastAccess
  protocols := usage.protocols.add added.protocols
  ports := usage.ports.add added.ports

/-- Take the traffic of another usage away. The time of access stays. -/
def subtract (usage removed : DomainUsage) : DomainUsage where
  domain := usage.domain
  counters := usage.counters.minus removed.counters
  lastAccess := usage.lastAccess
  protocols := usage.protocols.subtract removed.protocols
  ports := usage.ports.subtract removed.ports

/-- Whether there is no traffic: every counter is zero and nothing is counted by protocol or port. -/
def isZero (usage : DomainUsage) : Bool :=
  usage.counters == {} && usage.protocols.isEmpty && usage.ports.isEmpty

/-- Whether some counter is smaller than in an earlier usage. -/
def droppedSince (now before : DomainUsage) : Bool := now.counters.droppedSince before.counters

end DomainUsage

/-- Usages by the name of the domain. -/
abbrev UsageTable : Type := SortedMap String DomainUsage

namespace UsageTable

/-- Add every usage of the second table to the first, under its key. -/
def add (table added : UsageTable) : UsageTable :=
  table.absorb
    (fun domain usage present => some ((present.getD (DomainUsage.none domain)).add usage)) added

/-- Give every usage its key as the name of its domain. -/
def named (table : UsageTable) : UsageTable :=
  table.mapValues fun domain usage => { usage with domain }

/-- The table without the domains that have no traffic. -/
def dropZeros (table : UsageTable) : UsageTable := table.filter fun _ usage => !usage.isZero

end UsageTable

end FleetTraffic
