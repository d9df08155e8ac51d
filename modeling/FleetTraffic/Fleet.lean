import FleetTraffic.Fleet.Incremental
import FleetTraffic.Fleet.Recomputing
import FleetTraffic.Settings.Aggregation

/-!
# The fleet under either strategy

One interface to both ways of adding up the fleet. Questions may change what a recomputing fleet
keeps, so they answer with the fleet after them; `age` is the age of what is kept.
-/

namespace FleetTraffic

/-- The server's picture of its fleet, under the strategy that was chosen at the start. -/
inductive Fleet where
  | incremental (options : FleetOptions) (fleet : IncrementalFleet)
  | recomputing (options : FleetOptions) (keep : Duration) (fleet : RecomputingFleet)
  deriving DecidableEq

namespace Fleet

/-- An empty fleet under the given settings. -/
def ofSettings (settings : AggregationSettings) : Fleet :=
  match settings.strategy with
  | .incremental => .incremental settings.options {}
  | .recompute => .recomputing settings.options (.ofSeconds settings.cacheTtl) {}

/-- How agents are treated. -/
def options : Fleet → FleetOptions
  | .incremental options _ => options
  | .recomputing options _ _ => options

/-- What is known of each agent. -/
def roster : Fleet → Roster
  | .incremental _ fleet => fleet.roster
  | .recomputing _ _ fleet => fleet.roster

/-- The answer to an operation and the fleet after it. -/
def apply (operation : FleetOperation) : Fleet → FleetAnswer × Fleet
  | .incremental options fleet =>
    let (answer, fleet) := fleet.apply options operation
    (answer, .incremental options fleet)
  | .recomputing options keep fleet =>
    let (answer, fleet) := fleet.apply options operation
    (answer, .recomputing options keep fleet)

/-- The verdict on a report, and the fleet after it. -/
def report (fleet : Fleet) (report : Report) (now : Instant) : RestartVerdict × Fleet :=
  match fleet with
  | .incremental options fleet =>
    let (verdict, fleet) := fleet.report options report now
    (verdict, .incremental options fleet)
  | .recomputing options keep fleet =>
    let (verdict, fleet) := fleet.report options report now
    (verdict, .recomputing options keep fleet)

/-- Whether the agent that describes itself is known, and the fleet after it. -/
def introduce (fleet : Fleet) (heartbeat : Heartbeat) (now : Instant) : Bool × Fleet :=
  match fleet with
  | .incremental options fleet =>
    let (known, fleet) := fleet.introduce heartbeat now
    (known, .incremental options fleet)
  | .recomputing options keep fleet =>
    let (known, fleet) := fleet.introduce heartbeat now
    (known, .recomputing options keep fleet)

/-- Forget every agent that was last heard from more than `maxAge` ago. -/
def expire (fleet : Fleet) (maxAge : Duration) (now : Instant) : List String × Fleet :=
  match fleet with
  | .incremental options fleet =>
    let (expired, fleet) := fleet.expire maxAge now
    (expired, .incremental options fleet)
  | .recomputing options keep fleet =>
    let (expired, fleet) := fleet.expire maxAge now
    (expired, .recomputing options keep fleet)

/-- The view of the fleet at a time. -/
def view (age : Nat) (now : Instant) : Fleet → FleetView × Fleet
  | .incremental options fleet => (fleet.view options now, .incremental options fleet)
  | .recomputing options keep fleet =>
    let (view, fleet) := fleet.view options keep.nanos age now
    (view, .recomputing options keep fleet)

/-- The usage of one domain at a time, if it has traffic. -/
def usage? (age : Nat) (now : Instant) (domain : String) : Fleet → Option DomainUsage × Fleet
  | .incremental options fleet => (fleet.usage? domain, .incremental options fleet)
  | .recomputing options keep fleet =>
    let (usage, fleet) :=
      fleet.usage? options keep.nanos age now domain
    (usage, .recomputing options keep fleet)

/-- How much there is at a time. -/
def stats (age : Nat) (now : Instant) : Fleet → FleetStats × Fleet
  | .incremental options fleet => (fleet.stats options now, .incremental options fleet)
  | .recomputing options keep fleet =>
    let (stats, fleet) := fleet.stats options keep.nanos age now
    (stats, .recomputing options keep fleet)

/-- The records of all agents, in the order of their names. -/
def agents (fleet : Fleet) : List AgentRecord := fleet.roster.records.values

/-- All agents with their status, in the order of their names. -/
def summaries (fleet : Fleet) (now : Instant) : List AgentSummary :=
  fleet.roster.summaries fleet.options.timeout now

end Fleet

end FleetTraffic
