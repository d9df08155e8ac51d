import FleetTraffic.Proofs.Fleet.Accounting
import FleetTraffic.Proofs.Fleet.KeptSums
import FleetTraffic.Proofs.Fleet.Representation

/-!
# Agents that never restart

As long as every report of an agent continues the one before, the agent stays in its first lifetime. No
baseline is ever made for it, so it contributes what its latest report holds, except for counts of zero.
Whatever else happens to the fleet in between can at most empty the file of the agent, and then its next
report is like its first one.
-/

namespace FleetTraffic

/-! ## What a merge leaves out -/

namespace CountMap

variable {κ : Type} [Ord κ] [DecidableEq κ] [Std.TransOrd κ] [Std.LawfulEqOrd κ]

/-- The counts that are not zero. -/
def dropZeros (counts : CountMap κ) : CountMap κ := counts.filter fun _ count => count != 0

/-- What is added to no counts is there afterwards, except for counts of zero. -/
theorem empty_add (counts : CountMap κ) : add SortedMap.empty counts = counts.dropZeros := by
  apply SortedMap.ext
  intro key
  rw [add, SortedMap.get?_absorb, dropZeros, SortedMap.get?_filter, SortedMap.get?_empty]
  cases counts.get? key with
  | none => rfl
  | some count =>
    by_cases zero : count = 0
    · simp [zero, Option.filter]
    · simp [zero, Option.filter]

end CountMap

/-- The usage without its counts of zero by protocol and port. -/
def DomainUsage.dropZeroCounts (usage : DomainUsage) : DomainUsage :=
  { usage with
    protocols := CountMap.dropZeros usage.protocols
    ports := CountMap.dropZeros usage.ports }

/-- A usage that is merged into nothing keeps its counters, and its counts except for those of zero. -/
theorem DomainUsage.traffic_none_add (domain : String) (usage : DomainUsage) :
    ((DomainUsage.none domain).add usage).traffic = usage.dropZeroCounts.traffic := by
  have counters : Counters.plus {} usage.counters = usage.counters := by
    simp only [Counters.plus, Counters.zipWith, Counter.zero_plus]
  simp only [traffic, add, none, dropZeroCounts, counters, CountMap.empty_add]

namespace UsageTable

/-- The table without the counts of zero in its usages. Every domain stays. -/
def dropZeroCounts (table : UsageTable) : UsageTable :=
  table.mapValues fun _ usage => usage.dropZeroCounts

/-- A table that is added to nothing shows its own traffic, except for counts of zero. -/
theorem sameTraffic_empty_add (table : UsageTable) :
    (add SortedMap.empty table).SameTraffic table.dropZeroCounts := by
  intro domain
  rw [get?_add, dropZeroCounts, SortedMap.get?_mapValues, SortedMap.get?_empty]
  cases table.get? domain with
  | none => rfl
  | some usage => exact congrArg some (DomainUsage.traffic_none_add domain usage)

end UsageTable

/-! ## The file of such an agent -/

namespace AgentFile

/-- The agent of the file is in its first lifetime, and its latest report is the given one. -/
structure Unbroken (file : AgentFile) (report : Report) : Prop where
  latest : file.report = some report
  baseline : file.baseline = none
  record : ∃ record, file.record = some record ∧
    record.lastStartup = report.startup ∧ record.restarts = 0

/-- The file is empty, or its agent is in its first lifetime and its latest report is as told. -/
def Steady (file : AgentFile) (told : Report → Prop) : Prop :=
  file = {} ∨ ∃ report, told report ∧ file.Unbroken report

/-- What is told of the latest report may be told in other words. -/
theorem steady_mono {file : AgentFile} {told told' : Report → Prop} (steady : file.Steady told)
    (implies : ∀ report, told report → told' report) : file.Steady told' :=
  steady.imp_right fun ⟨report, holds, unbroken⟩ => ⟨report, implies report holds, unbroken⟩

/-- A coherent file without a record is empty. -/
theorem eq_blank {file : AgentFile} {agent : String} (coherent : file.Coherent agent)
    (unknown : file.record = none) : file = {} := by
  obtain ⟨record, report, baseline⟩ := file
  obtain rfl : record = none := unknown
  have silent : report = none := by simpa using coherent.together.symm
  have fresh : baseline = none := by simpa using coherent.known
  rw [silent, fresh]

/-- A change that leaves the startup and the number of restarts in a record leaves the agent in its first
lifetime. -/
theorem steady_modify {file : AgentFile} {told : Report → Prop} (steady : file.Steady told)
    {change : AgentRecord → AgentRecord}
    (kept : ∀ record, (change record).lastStartup = record.lastStartup ∧
      (change record).restarts = record.restarts) : (file.modify change).Steady told := by
  rcases steady with rfl | ⟨report, holds, latest, baseline, record, known, startup, restarts⟩
  · exact .inl rfl
  · refine .inr ⟨report, holds, latest, baseline, change record, ?_, ?_, ?_⟩
    · rw [modify, known, Option.map_some]
    · exact (kept record).1.trans startup
    · exact (kept record).2.trans restarts

end AgentFile

namespace Roster

variable {roster : Roster}

/-- An operation that is no report of an agent empties the file of the agent, or changes its record otherwise
than in its startup and its number of restarts. -/
theorem fileOf_apply_foreign (roster : Roster) (options : FleetOptions) {operation : FleetOperation}
    {agent : String} (foreign : ∀ report ∈ operation.report?, report.agentId ≠ agent) :
    (roster.apply options operation).2.fileOf agent = {} ∨
      ∃ change : AgentRecord → AgentRecord,
        (∀ record, (change record).lastStartup = record.lastStartup ∧
          (change record).restarts = record.restarts) ∧
        (roster.apply options operation).2.fileOf agent = (roster.fileOf agent).modify change := by
  have untouched : roster.fileOf agent = (roster.fileOf agent).modify id := by
    rw [AgentFile.modify, Option.map_id, id_eq]
  have left (after : AgentFile) (same : after = roster.fileOf agent) :
      after = {} ∨ ∃ change : AgentRecord → AgentRecord,
        (∀ record, (change record).lastStartup = record.lastStartup ∧
          (change record).restarts = record.restarts) ∧
        after = (roster.fileOf agent).modify change :=
    .inr ⟨id, fun _ => ⟨rfl, rfl⟩, same.trans untouched⟩
  cases operation with
  | report report now =>
    rw [apply, fileOf_observe, if_neg (foreign report rfl).symm]
    exact left _ rfl
  | touch name now =>
    rw [apply, touch, fileOf_modify]
    split
    next =>
      refine .inr ⟨_, ?_, rfl⟩
      exact fun _ => ⟨rfl, rfl⟩
    next => exact left _ rfl
  | heartbeat heartbeat now =>
    rw [apply, introduce, fileOf_modify]
    split
    next =>
      refine .inr ⟨_, ?_, rfl⟩
      exact fun _ => ⟨rfl, rfl⟩
    next => exact left _ rfl
  | expire maxAge now =>
    rw [apply, fileOf_foldl_remove]
    split
    next => exact .inl rfl
    next => exact left _ rfl

/-- An operation that is no report of an agent leaves the agent in its first lifetime or forgets it. -/
theorem steady_apply {agent : String} {told : Report → Prop}
    (steady : (roster.fileOf agent).Steady told) (options : FleetOptions) {operation : FleetOperation}
    (foreign : ∀ report ∈ operation.report?, report.agentId ≠ agent) :
    ((roster.apply options operation).2.fileOf agent).Steady told := by
  rcases fileOf_apply_foreign roster options foreign with gone | ⟨change, kept, changed⟩
  · exact .inl gone
  · rw [changed]
    exact AgentFile.steady_modify steady kept

/-- A report that continues the latest one of an agent in its first lifetime, or that is the first one, is no
restart, and the agent stays in its first lifetime. -/
theorem unbroken_observe {report : Report}
    (steady : (roster.fileOf report.agentId).Steady fun previous => report.Continues previous)
    (options : FleetOptions) (now : Instant) :
    (roster.detect options report).restarted = false ∧
      ((roster.observe options report now).2.fileOf report.agentId).Unbroken report := by
  rcases steady with blank | ⟨previous, continues, latest, baseline, record, known, startup, restarts⟩
  · have verdict := detect_unknown (congrArg AgentFile.record blank) options
    refine ⟨verdict, ?_⟩
    rw [fileOf_observe, if_pos rfl, blank]
    have file : AgentFile.observe {} (roster.detect options report) options.keepsBaselines report now =
        ⟨some (updateRecord (firstRecord report now) report (roster.detect options report) now),
          some report, none⟩ := by
      simp [AgentFile.observe, verdict]
    rw [file]
    exact ⟨rfl, rfl, _, rfl, by simp [updateRecord, firstRecord, verdict],
      by simp [updateRecord, firstRecord, verdict]⟩
  · have verdict := detect_continued known latest startup continues options
    refine ⟨verdict, ?_⟩
    rw [fileOf_observe, if_pos rfl]
    refine ⟨rfl, ?_, updateRecord record report (roster.detect options report) now, ?_, ?_, ?_⟩
    · simp [AgentFile.observe, verdict, baseline]
    · rw [AgentFile.observe, known, Option.getD_some]
    · simp [updateRecord, verdict, startup, continues.1]
    · simp [updateRecord, verdict, restarts]

/-- An agent in its first lifetime contributes what its latest report holds, except for counts of zero. -/
theorem sameTraffic_contribution (coherent : roster.Coherent) {agent : String} {report : Report}
    (unbroken : (roster.fileOf agent).Unbroken report) :
    (roster.contribution agent).SameTraffic report.domains.dropZeroCounts := by
  have latest : roster.reports.get? agent = some report := unbroken.latest
  have baseline : roster.baselines.get? agent = none := unbroken.baseline
  rw [contribution_eq_add coherent, baselineOf, baseline, reportedBy, latest]
  exact UsageTable.sameTraffic_empty_add report.domains

end Roster

/-! ## Fleets under either strategy -/

namespace Fleet

/-- What an agent contributes to the sums of a fleet: as the ledger has it, or as the roster has it where
there is no ledger. -/
def contributionOf (fleet : Fleet) (agent : String) : UsageTable :=
  match fleet with
  | .incremental _ fleet => fleet.ledger.contributionOf agent
  | .recomputing _ _ fleet => fleet.roster.contribution agent

/-- The roster is coherent, and the entries of a ledger are up to date. -/
def UpToDate : Fleet → Prop
  | .incremental _ fleet => fleet.roster.Coherent ∧ fleet.Mirrors
  | .recomputing _ _ fleet => fleet.roster.Coherent

variable {fleet : Fleet}

/-- The roster of a fleet that is up to date is coherent. -/
theorem coherent_of_upToDate (upToDate : fleet.UpToDate) : fleet.roster.Coherent := by
  cases fleet with
  | incremental options fleet => exact upToDate.1
  | recomputing options keep fleet => exact upToDate

/-- In a fleet that is up to date an agent contributes what the roster says. -/
theorem contributionOf_of_upToDate (upToDate : fleet.UpToDate) (agent : String) :
    fleet.contributionOf agent = fleet.roster.contribution agent := by
  cases fleet with
  | incremental options fleet => exact IncrementalFleet.contributionOf_of_mirrors upToDate.2 agent
  | recomputing options keep fleet => rfl

/-- A call changes the roster by the change that it asks for, if any. -/
theorem roster_after (fleet : Fleet) (call : FleetCall) :
    (fleet.after call).roster =
      call.operation?.toList.foldl (fun roster operation => (roster.apply fleet.options operation).2)
        fleet.roster := by
  cases fleet with
  | incremental options fleet =>
    cases call with
    | change operation => exact congrArg Prod.snd (fleet.apply_roster options operation)
    | _ => rfl
  | recomputing options keep fleet =>
    have step := fleet.roster_after options keep.nanos call
    cases call <;> exact step

/-- A fleet stays up to date under every call. -/
theorem upToDate_after (upToDate : fleet.UpToDate) (call : FleetCall) : (fleet.after call).UpToDate := by
  have coherent : (fleet.after call).roster.Coherent := by
    rw [roster_after]
    cases call.operation? with
    | none => exact coherent_of_upToDate upToDate
    | some operation => exact Roster.coherent_apply (coherent_of_upToDate upToDate) _ operation
  cases fleet with
  | incremental options fleet =>
    cases call with
    | change operation =>
      exact ⟨coherent, IncrementalFleet.mirrors_apply upToDate.2 options operation⟩
    | _ => exact upToDate
  | recomputing options keep fleet => cases call <;> exact coherent

/-- A fleet is up to date after any calls on an empty one. -/
theorem upToDate_afterAll (settings : AggregationSettings) (calls : List FleetCall) :
    ((ofSettings settings).afterAll calls).UpToDate := by
  induction calls using List.reverseRecOn with
  | nil =>
    rw [ofSettings]
    cases settings.strategy with
    | incremental => exact ⟨Roster.coherent_empty, fun _ => rfl⟩
    | recompute => exact Roster.coherent_empty
  | append_singleton before last inductionHypothesis =>
    rw [afterAll_concat]
    exact upToDate_after inductionHypothesis last

/-- A call that brings no report of an agent leaves the agent in its first lifetime or forgets it. -/
theorem steady_after {agent : String} {told : Report → Prop}
    (steady : (fleet.roster.fileOf agent).Steady told) {call : FleetCall}
    (foreign : ∀ report ∈ call.operation?.bind FleetOperation.report?, report.agentId ≠ agent) :
    ((fleet.after call).roster.fileOf agent).Steady told := by
  rw [roster_after]
  cases asked : call.operation? with
  | none => exact steady
  | some operation =>
    rw [asked] at foreign
    exact Roster.steady_apply steady fleet.options foreign

/-- The verdict on a report is that of the roster, and the fleet changes as under any other change. -/
theorem report_eq (fleet : Fleet) (report : Report) (now : Instant) :
    fleet.report report now =
      (fleet.roster.detect fleet.options report, fleet.after (.change (.report report now))) := by
  cases fleet <;> rfl

/-- A report that continues the latest one of an agent in its first lifetime, or that is the first one, is
no restart; afterwards the agent is in its first lifetime and contributes what the report holds, except for
counts of zero. -/
theorem unbroken_report (upToDate : fleet.UpToDate) {report : Report}
    (steady : (fleet.roster.fileOf report.agentId).Steady fun previous => report.Continues previous)
    (now : Instant) :
    let outcome := fleet.report report now
    outcome.1.restarted = false ∧ outcome.2.UpToDate ∧
      (outcome.2.roster.fileOf report.agentId).Unbroken report ∧
      (outcome.2.contributionOf report.agentId).SameTraffic report.domains.dropZeroCounts := by
  intro outcome
  have answered : outcome = _ := report_eq fleet report now
  rw [answered]
  have stays := upToDate_after upToDate (.change (.report report now))
  have roster := roster_after fleet (.change (.report report now))
  obtain ⟨verdict, unbroken⟩ := Roster.unbroken_observe steady fleet.options now
  have file : ((fleet.after (.change (.report report now))).roster.fileOf report.agentId).Unbroken
      report := by
    rw [roster]
    exact unbroken
  refine ⟨verdict, stays, file, ?_⟩
  rw [contributionOf_of_upToDate stays]
  exact Roster.sameTraffic_contribution (coherent_of_upToDate stays) file

end Fleet

end FleetTraffic
