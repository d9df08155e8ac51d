import FleetTraffic.Fleet
import FleetTraffic.Proofs.Fleet.Files

/-!
# The kept sums of a recomputing fleet

A recomputing fleet keeps the sums that it was last asked for, together with the agents that they cover.
Whatever is kept is what these agents contribute now: a change that touches a contribution drops it, and
the changes that keep it leave every contribution as it is. A question is therefore answered as if nothing
were kept, however old the kept sums are and at whatever time it is asked.

Changes and questions come in any order. They make up the calls of a fleet, which take either strategy to
its next state.
-/

namespace FleetTraffic

/-- What is asked of a fleet: a change, or a question about its sums at a time. `age` is the age of what the
fleet keeps when it is asked. -/
inductive FleetCall where
  | change (operation : FleetOperation)
  | view (age : Nat) (now : Instant)
  | usage (age : Nat) (now : Instant) (domain : String)
  | stats (age : Nat) (now : Instant)
  deriving DecidableEq

/-- The change that a call asks for. -/
def FleetCall.operation? : FleetCall → Option FleetOperation
  | .change operation => some operation
  | .view _ _ | .usage _ _ _ | .stats _ _ => none

/-- The changes among some calls. -/
def FleetCall.changes (calls : List FleetCall) : List FleetOperation := calls.filterMap operation?

/-- The changes with one call more. -/
theorem FleetCall.changes_concat (calls : List FleetCall) (last : FleetCall) :
    changes (calls ++ [last]) = changes calls ++ last.operation?.toList := by
  rw [changes, List.filterMap_append, changes]
  cases asked : last.operation? with
  | none => simp [asked]
  | some operation => simp [asked]

namespace RecomputingFleet

variable {fleet : RecomputingFleet}

/-- What is kept is what the agents that it covers contribute now. -/
def Fresh (fleet : RecomputingFleet) : Prop :=
  ∀ kept, fleet.kept = some kept → kept.sums = sumOver fleet.roster kept.sources

/-- Where nothing is kept, nothing is out of date. -/
theorem fresh_of_dropped (dropped : fleet.kept = none) : fleet.Fresh := by
  intro kept found
  rw [dropped] at found
  cases found

/-! ## Questions -/

/-- Sums are found as they are now, for the agents that are live now. -/
theorem sums_of_fresh (fresh : fleet.Fresh) (options : FleetOptions) (keep age : Nat) (now : Instant) :
    (fleet.sums options keep age now).1 =
      ⟨fleet.roster.liveAgents options.timeout now,
        sumOver fleet.roster (fleet.roster.liveAgents options.timeout now)⟩ := by
  rw [sums]
  split
  next => rfl
  next kept found =>
    split
    next taken =>
      obtain ⟨_, covered⟩ := taken
      rw [← covered, ← fresh kept found]
    next => rfl

/-- A question leaves the roster. -/
theorem roster_sums (fleet : RecomputingFleet) (options : FleetOptions) (keep age : Nat)
    (now : Instant) : (fleet.sums options keep age now).2.roster = fleet.roster := by
  rw [sums]
  split
  next => rfl
  next => split <;> rfl

/-- What is kept after a question is up to date, be it found anew or taken as it is. -/
theorem fresh_sums (fresh : fleet.Fresh) (options : FleetOptions) (keep age : Nat) (now : Instant) :
    (fleet.sums options keep age now).2.Fresh := by
  have renewed (sources : List String) :
      Fresh { fleet with kept := some ⟨sources, sumOver fleet.roster sources⟩ } := by
    intro kept found
    cases found
    rfl
  rw [sums]
  split
  next => exact renewed _
  next =>
    split
    next => exact fresh
    next => exact renewed _

/-! ## Changes -/

/-- A sign of life changes no contribution, so what is kept may stay. -/
theorem fresh_modify (fresh : fleet.Fresh) (agent : String) (change : AgentRecord → AgentRecord)
    (known : Bool) :
    Fresh { roster := { fleet.roster with records := fleet.roster.records.modify agent change }
            kept := if known then none else fleet.kept } := by
  intro kept found
  cases known with
  | true => cases found
  -- Contributions are read from reports and baselines, so the changed record does not show in the sums.
  | false => exact fresh kept found

/-- What is kept stays up to date under every change. -/
theorem fresh_apply (fresh : fleet.Fresh) (options : FleetOptions) (operation : FleetOperation) :
    (fleet.apply options operation).2.Fresh := by
  cases operation with
  | report report now => exact fresh_of_dropped rfl
  | touch agent now => exact fresh_modify fresh agent _ _
  | heartbeat heartbeat now => exact fresh_modify fresh heartbeat.agentId _ _
  | expire maxAge now =>
    cases nobody : fleet.roster.expiredAgents maxAge now with
    | nil =>
      simp only [apply, expire, nobody, List.foldl_nil, List.isEmpty_nil, if_true]
      exact fresh
    | cons agent rest => exact fresh_of_dropped (by simp [apply, expire, nobody])

/-! ## Calls -/

/-- The fleet after a call. -/
def after (options : FleetOptions) (keep : Nat) (fleet : RecomputingFleet) :
    FleetCall → RecomputingFleet
  | .change operation => (fleet.apply options operation).2
  | .view age now | .usage age now _ | .stats age now => (fleet.sums options keep age now).2

/-- The fleet after some calls on an empty one. -/
def run (options : FleetOptions) (keep : Nat) (calls : List FleetCall) : RecomputingFleet :=
  calls.foldl (after options keep) {}

/-- A run with one call more. -/
theorem run_concat (options : FleetOptions) (keep : Nat) (calls : List FleetCall)
    (last : FleetCall) :
    run options keep (calls ++ [last]) =
      (run options keep calls).after options keep last := by
  simp only [run, List.foldl_append, List.foldl_cons, List.foldl_nil]

/-- What is kept is up to date after every call. -/
theorem fresh_after (fresh : fleet.Fresh) (options : FleetOptions) (keep : Nat)
    (call : FleetCall) : (fleet.after options keep call).Fresh := by
  cases call with
  | change operation => exact fresh_apply fresh options operation
  | view age now => exact fresh_sums fresh options keep age now
  | usage age now domain => exact fresh_sums fresh options keep age now
  | stats age now => exact fresh_sums fresh options keep age now

/-- What is kept is up to date after every run. -/
theorem fresh_run (options : FleetOptions) (keep : Nat) (calls : List FleetCall) :
    (run options keep calls).Fresh := by
  induction calls using List.reverseRecOn with
  | nil => exact fresh_of_dropped rfl
  | append_singleton before last inductionHypothesis =>
    rw [run_concat]
    exact fresh_after inductionHypothesis options keep last

/-- A call changes the roster by the change that it asks for, if any. -/
theorem roster_after (fleet : RecomputingFleet) (options : FleetOptions) (keep : Nat)
    (call : FleetCall) :
    (fleet.after options keep call).roster =
      call.operation?.toList.foldl (fun roster operation => (roster.apply options operation).2)
        fleet.roster := by
  cases call with
  | change operation => exact congrArg Prod.snd (apply_roster fleet options operation)
  | view age now => exact roster_sums fleet options keep age now
  | usage age now domain => exact roster_sums fleet options keep age now
  | stats age now => exact roster_sums fleet options keep age now

/-- The roster is made by the changes among the calls alone. -/
theorem roster_run (options : FleetOptions) (keep : Nat) (calls : List FleetCall) :
    (run options keep calls).roster = Roster.run options (FleetCall.changes calls) := by
  induction calls using List.reverseRecOn with
  | nil => rfl
  | append_singleton before last inductionHypothesis =>
    rw [run_concat, roster_after, inductionHypothesis, FleetCall.changes_concat, Roster.run, Roster.run,
      List.foldl_append]

end RecomputingFleet

namespace Fleet

/-- The fleet after a call. -/
def after (fleet : Fleet) : FleetCall → Fleet
  | .change operation => (fleet.apply operation).2
  | .view age now => (fleet.view age now).2
  | .usage age now domain => (fleet.usage? age now domain).2
  | .stats age now => (fleet.stats age now).2

/-- The fleet after some calls. -/
def afterAll (fleet : Fleet) (calls : List FleetCall) : Fleet := calls.foldl after fleet

/-- With one call more. -/
theorem afterAll_concat (fleet : Fleet) (calls : List FleetCall) (last : FleetCall) :
    fleet.afterAll (calls ++ [last]) = (fleet.afterAll calls).after last := by
  simp only [afterAll, List.foldl_append, List.foldl_cons, List.foldl_nil]

/-- Under the incremental strategy only the changes among the calls matter. -/
theorem afterAll_incremental (options : FleetOptions) (calls : List FleetCall) :
    (incremental options {}).afterAll calls =
      .incremental options (IncrementalFleet.run options (FleetCall.changes calls)) := by
  induction calls using List.reverseRecOn with
  | nil => rfl
  | append_singleton before last inductionHypothesis =>
    rw [afterAll_concat, inductionHypothesis, FleetCall.changes_concat, IncrementalFleet.run,
      IncrementalFleet.run, List.foldl_append]
    cases last <;> rfl

/-- Under the recomputing strategy the calls run on the recomputing fleet. -/
theorem afterAll_recomputing (options : FleetOptions) (keep : Duration) (calls : List FleetCall) :
    (recomputing options keep {}).afterAll calls =
      .recomputing options keep
        (RecomputingFleet.run options keep.nanos calls) := by
  induction calls using List.reverseRecOn with
  | nil => rfl
  | append_singleton before last inductionHypothesis =>
    rw [afterAll_concat, inductionHypothesis, RecomputingFleet.run_concat]
    cases last <;> rfl

end Fleet

end FleetTraffic
