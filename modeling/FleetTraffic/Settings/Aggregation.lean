import FleetTraffic.Fleet.Roster

/-!
# Settings of the aggregation

How the server adds up its fleet, with the values that hold when a setting is left out. Ages and
intervals are in seconds.
-/

namespace FleetTraffic

/-- How the sums over the fleet are obtained. -/
inductive Strategy where
  /-- Changed with each report. -/
  | incremental
  /-- Added up when asked for. -/
  | recompute
  deriving DecidableEq

/-- Settings of the aggregation. -/
structure AggregationSettings where
  strategy : Strategy := .incremental
  agentTimeout : UInt64 := 300
  cleanupInterval : UInt64 := 3600
  /-- The age at which silent agents are forgotten, if it is set. -/
  cleanupMaxAge? : Option UInt64 := none
  restartDetection : Bool := true
  baselineTracking : Bool := true
  cacheTtl : UInt64 := 30
  deriving DecidableEq

namespace AggregationSettings

/-- The age at which silent agents are forgotten: as set, or twice the time for which they count as
live. -/
def cleanupMaxAge (settings : AggregationSettings) : UInt64 :=
  settings.cleanupMaxAge?.getD (Counter.clamp (2 * settings.agentTimeout.toNat))

/-- How the server treats its agents under these settings. -/
def options (settings : AggregationSettings) : FleetOptions where
  timeout := .ofSeconds settings.agentTimeout
  detectsRestarts := settings.restartDetection
  keepsBaselines := settings.baselineTracking

end AggregationSettings

end FleetTraffic
