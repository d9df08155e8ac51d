import FleetTraffic.Fleet
import FleetTraffic.Wire.Agent

/-!
# The whole state of a fleet as JSON

For inspection, an incremental fleet shows everything that it holds, each part by agent.
-/

namespace FleetTraffic

open JsonCodec

/-- Everything that an incremental fleet holds. -/
def IncrementalFleet.toJson (fleet : IncrementalFleet) : Json :=
  Json.ofFields
    [ ("raw_metrics", (map JsonCodec.report).write fleet.roster.reports),
      ("agent_states", (map agent).write fleet.roster.records),
      ("restart_baselines", (map usageTable).write fleet.roster.baselines),
      ("contributions", (map usageTable).write fleet.ledger.entries),
      ("global_cumulative", usageTable.write fleet.ledger.sums),
      ("last_updated", (optional instant).write fleet.updated) ]

end FleetTraffic
