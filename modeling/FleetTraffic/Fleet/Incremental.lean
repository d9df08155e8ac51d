import FleetTraffic.Fleet.Ledger
import FleetTraffic.Fleet.Operation
import FleetTraffic.Fleet.Roster

/-!
# The incremental fleet

The sums over all agents are kept in a ledger and changed with each report: the old contribution of
the agent is replaced by the new one. Every known agent counts, live or not, until it expires.
-/

namespace FleetTraffic

/-- A roster with the ledger of its contributions. -/
structure IncrementalFleet where
  roster : Roster := {}
  ledger : Ledger := {}
  /-- When contributions last changed. -/
  updated : Option Instant := none
  deriving DecidableEq

namespace IncrementalFleet

/-- Take a report in and replace what its agent contributes. -/
def report (fleet : IncrementalFleet) (options : FleetOptions) (report : Report) (now : Instant) :
    RestartVerdict × IncrementalFleet :=
  let (verdict, roster) := fleet.roster.observe options report now
  (verdict,
    { roster
      ledger := (fleet.ledger.replace report.agentId (roster.contribution report.agentId)).2
      updated := some now })

/-- An agent describes itself. The answer says whether it is known. -/
def introduce (fleet : IncrementalFleet) (heartbeat : Heartbeat) (now : Instant) :
    Bool × IncrementalFleet :=
  let (known, roster) := fleet.roster.introduce heartbeat now
  (known, { fleet with roster })

/-- Forget one agent and what it contributed. -/
def forget (fleet : IncrementalFleet) (agent : String) : IncrementalFleet :=
  { fleet with
    roster := fleet.roster.remove agent
    ledger := (fleet.ledger.remove agent).2 }

/-- Forget every agent that was last heard from more than `maxAge` ago. -/
def expire (fleet : IncrementalFleet) (maxAge : Duration) (now : Instant) :
    List String × IncrementalFleet :=
  let expired := fleet.roster.expiredAgents maxAge now
  let left := expired.foldl forget fleet
  (expired, { left with updated := if expired.isEmpty then left.updated else some now })

/-- The answer to an operation and the fleet after it. -/
def apply (fleet : IncrementalFleet) (options : FleetOptions) :
    FleetOperation → FleetAnswer × IncrementalFleet
  | .report report now =>
    let (verdict, fleet) := fleet.report options report now
    (.verdict verdict, fleet)
  | .touch agent now =>
    let (known, roster) := fleet.roster.touch agent now
    (.known known, { fleet with roster })
  | .heartbeat heartbeat now =>
    let (known, fleet) := fleet.introduce heartbeat now
    (.known known, fleet)
  | .expire maxAge now =>
    let (expired, fleet) := fleet.expire maxAge now
    (.forgotten expired, fleet)

/-- The fleet after a sequence of operations. -/
def run (options : FleetOptions) (operations : List FleetOperation) : IncrementalFleet :=
  operations.foldl (fun fleet operation => (fleet.apply options operation).2) {}

/-- The view of the fleet at a time. -/
def view (fleet : IncrementalFleet) (options : FleetOptions) (now : Instant) : FleetView :=
  FleetView.ofUsages fleet.ledger.sums (fleet.roster.liveAgents options.timeout now) now

/-- The usage of one domain, if it has traffic. -/
def usage? (fleet : IncrementalFleet) (domain : String) : Option DomainUsage :=
  fleet.ledger.sums.get? domain

/-- How much there is at a time. -/
def stats (fleet : IncrementalFleet) (options : FleetOptions) (now : Instant) : FleetStats where
  agents := fleet.roster.records.size
  liveAgents := (fleet.roster.liveAgents options.timeout now).length
  domains := fleet.ledger.sums.size

end IncrementalFleet

end FleetTraffic
