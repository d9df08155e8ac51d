import FleetTraffic.Fleet.Operation
import FleetTraffic.Fleet.Roster

/-!
# The recomputing fleet

The sums are added up from the live agents' contributions whenever they are asked for. The result is
kept for a while, and serves again as long as the same agents are live; every change of the fleet
drops it. The age of what is kept is a reading of a clock that only runs forward, and is part of the
question.
-/

namespace FleetTraffic

/-- Sums that were added up before, and the agents that they cover. -/
structure KeptSums where
  sources : List String
  sums : UsageTable
  deriving DecidableEq

/-- A roster, and the sums that were last asked for. -/
structure RecomputingFleet where
  roster : Roster := {}
  kept : Option KeptSums := none
  deriving DecidableEq

namespace RecomputingFleet

/-- What some agents contribute together, without the domains that have no traffic. -/
def sumOver (roster : Roster) (agents : List String) : UsageTable :=
  UsageTable.dropZeros
    (agents.foldl (fun (sums : UsageTable) agent => sums.add (roster.contribution agent)) .empty)

/-- The sums over the agents that are live at a time, and those agents. Sums younger than `keep`
nanoseconds that cover the same agents are taken as they are. -/
def sums (fleet : RecomputingFleet) (options : FleetOptions) (keep age : Nat) (now : Instant) :
    KeptSums × RecomputingFleet :=
  let sources := fleet.roster.liveAgents options.timeout now
  let fresh : KeptSums := ⟨sources, sumOver fleet.roster sources⟩
  match fleet.kept with
  | none => (fresh, { fleet with kept := some fresh })
  | some kept =>
    if age < keep ∧ kept.sources = sources then (kept, fleet)
    else (fresh, { fleet with kept := some fresh })

/-- Take a report in. The kept sums are no longer right. -/
def report (fleet : RecomputingFleet) (options : FleetOptions) (report : Report) (now : Instant) :
    RestartVerdict × RecomputingFleet :=
  let (verdict, roster) := fleet.roster.observe options report now
  (verdict, { roster })

/-- An agent describes itself. The answer says whether it is known. -/
def introduce (fleet : RecomputingFleet) (heartbeat : Heartbeat) (now : Instant) :
    Bool × RecomputingFleet :=
  let (known, roster) := fleet.roster.introduce heartbeat now
  (known, { roster, kept := if known then none else fleet.kept })

/-- Forget every agent that was last heard from more than `maxAge` ago. -/
def expire (fleet : RecomputingFleet) (maxAge : Duration) (now : Instant) :
    List String × RecomputingFleet :=
  let expired := fleet.roster.expiredAgents maxAge now
  (expired,
    { roster := expired.foldl Roster.remove fleet.roster
      kept := if expired.isEmpty then fleet.kept else none })

/-- The answer to an operation and the fleet after it. -/
def apply (fleet : RecomputingFleet) (options : FleetOptions) :
    FleetOperation → FleetAnswer × RecomputingFleet
  | .report report now =>
    let (verdict, fleet) := fleet.report options report now
    (.verdict verdict, fleet)
  | .touch agent now =>
    let (known, roster) := fleet.roster.touch agent now
    (.known known, { roster, kept := if known then none else fleet.kept })
  | .heartbeat heartbeat now =>
    let (known, fleet) := fleet.introduce heartbeat now
    (.known known, fleet)
  | .expire maxAge now =>
    let (expired, fleet) := fleet.expire maxAge now
    (.forgotten expired, fleet)

/-- The view of the fleet at a time. -/
def view (fleet : RecomputingFleet) (options : FleetOptions) (keep age : Nat) (now : Instant) :
    FleetView × RecomputingFleet :=
  let (found, fleet) := fleet.sums options keep age now
  (FleetView.ofUsages found.sums found.sources now, fleet)

/-- The usage of one domain at a time, if it has traffic. -/
def usage? (fleet : RecomputingFleet) (options : FleetOptions) (keep age : Nat) (now : Instant)
    (domain : String) : Option DomainUsage × RecomputingFleet :=
  let (found, fleet) := fleet.sums options keep age now
  (found.sums.get? domain, fleet)

/-- How much there is at a time. -/
def stats (fleet : RecomputingFleet) (options : FleetOptions) (keep age : Nat) (now : Instant) :
    FleetStats × RecomputingFleet :=
  let (found, after) := fleet.sums options keep age now
  (⟨fleet.roster.records.size, found.sources.length, found.sums.size⟩, after)

end RecomputingFleet

end FleetTraffic
