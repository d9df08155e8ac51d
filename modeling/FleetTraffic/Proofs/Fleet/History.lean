import FleetTraffic.Fleet.Incremental
import FleetTraffic.Proofs.Ledger.Change

/-!
# The ledger behind a fleet

Each operation on an incremental fleet makes some changes of its ledger: a report replaces the
contribution of its agent, an expiry removes every expired agent, and signs of life change nothing.
The ledger of a fleet is the run of all the changes that its operations made, so what holds of every
run of a ledger holds of every fleet.
-/

namespace FleetTraffic

/-- An instant on the first day of 1970, told by its second. -/
def Instant.early (second : Nat) : Instant := (of? epoch.date second 0).getD epoch

/-- A report of one domain that was accessed a number of times since the agent's startup. -/
def Report.single (agentId : String) (startup : Instant) (domain : String) (number : UInt64) :
    Report where
  agentId := agentId
  startup := startup
  time := startup
  domains := .single domain number
  host := {}
  metadata := {}

namespace IncrementalFleet

/-- Agents count as live for five minutes, restarts are looked for and baselines are kept. -/
def usualOptions : FleetOptions := ⟨.ofSeconds 300, true, true⟩

/-- The changes of the ledger that an operation makes. -/
def ledgerChanges (options : FleetOptions) (fleet : IncrementalFleet) :
    FleetOperation → List LedgerChange
  | .report report now =>
    [.replace report.agentId
      ((fleet.roster.observe options report now).2.contribution report.agentId)]
  | .touch _ _ => []
  | .heartbeat _ _ => []
  | .expire maxAge now => (fleet.roster.expiredAgents maxAge now).map .remove

/-- The changes of the ledger that a sequence of operations makes from a fleet on. -/
def ledgerHistoryFrom (options : FleetOptions) (fleet : IncrementalFleet) :
    List FleetOperation → List LedgerChange
  | [] => []
  | operation :: rest =>
    fleet.ledgerChanges options operation ++
      ledgerHistoryFrom options (fleet.apply options operation).2 rest

/-- The changes of the ledger that a sequence of operations makes on an empty fleet. -/
def ledgerHistory (options : FleetOptions) (operations : List FleetOperation) : List LedgerChange :=
  ledgerHistoryFrom options {} operations

/-- A run with one operation more. -/
theorem run_concat (options : FleetOptions) (operations : List FleetOperation)
    (last : FleetOperation) :
    run options (operations ++ [last]) = ((run options operations).apply options last).2 := by
  simp only [run, List.foldl_append, List.foldl_cons, List.foldl_nil]

/-- Forgetting agents one after the other removes them from the ledger in that order. -/
theorem ledger_foldl_forget (agents : List String) (fleet : IncrementalFleet) :
    (agents.foldl forget fleet).ledger = (agents.map .remove).foldl Ledger.change fleet.ledger := by
  induction agents generalizing fleet with
  | nil => rfl
  | cons agent rest inductionHypothesis => exact inductionHypothesis (fleet.forget agent)

/-- An operation changes the ledger as its list of changes says. -/
theorem ledger_apply (options : FleetOptions) (fleet : IncrementalFleet)
    (operation : FleetOperation) :
    (fleet.apply options operation).2.ledger =
      (fleet.ledgerChanges options operation).foldl Ledger.change fleet.ledger := by
  cases operation with
  | report report now => rfl
  | touch agent now => rfl
  | heartbeat heartbeat now => rfl
  | expire maxAge now => exact ledger_foldl_forget (fleet.roster.expiredAgents maxAge now) fleet

/-- The ledger after operations is the ledger before them under all their changes. -/
theorem ledger_foldl_apply (options : FleetOptions) (operations : List FleetOperation)
    (fleet : IncrementalFleet) :
    (operations.foldl (fun fleet operation => (fleet.apply options operation).2) fleet).ledger =
      (fleet.ledgerHistoryFrom options operations).foldl Ledger.change fleet.ledger := by
  induction operations generalizing fleet with
  | nil => rfl
  | cons operation rest inductionHypothesis =>
    rw [List.foldl_cons, inductionHypothesis, ledgerHistoryFrom, List.foldl_append, ledger_apply]

/-- The ledger of a fleet is the run of the changes that its operations made. -/
theorem ledger_run (options : FleetOptions) (operations : List FleetOperation) :
    (run options operations).ledger = Ledger.run (ledgerHistory options operations) :=
  ledger_foldl_apply options operations {}

end IncrementalFleet

end FleetTraffic
