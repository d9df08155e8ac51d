import FleetTraffic.Proofs.Fleet.Accounting
import FleetTraffic.Proofs.Fleet.Erasure

/-!
# The order across agents

Agents report on their own, and their reports reach the server in any order, with signs of life in between. As
long as nobody is forgotten, this order does not matter: what a report does to the file of its agent, and the
verdict on it, is a matter of the reports of this agent so far. A sign of life changes only what no later
report looks at. So every run is compared, agent by agent, with the run of this agent's reports alone, and two
runs in which every agent sends the same reports come to the same files.

The ledger gets there on different ways, through sums that the other run may never have held. But in both runs
the sums are exact in the end, over the same entries.
-/

namespace FleetTraffic

/-- What the reports of an agent leave in its record, and signs of life do not change. -/
def AgentRecord.reported (record : AgentRecord) : Instant × Instant × UInt32 :=
  (record.lastStartup, record.lastReport, record.restarts)

namespace AgentFile

/-- Files with the same report and baseline, and with the same of what reports leave in a record. -/
structure Alike (first second : AgentFile) : Prop where
  record : first.record.map AgentRecord.reported = second.record.map AgentRecord.reported
  report : first.report = second.report
  baseline : first.baseline = second.baseline

variable {first second : AgentFile}

/-- A file is like itself. -/
theorem alike_refl (file : AgentFile) : file.Alike file := ⟨rfl, rfl, rfl⟩

/-- To be alike is mutual. -/
theorem Alike.symm (alike : first.Alike second) : second.Alike first :=
  ⟨alike.record.symm, alike.report.symm, alike.baseline.symm⟩

/-- Files are alike if there is one in between. -/
theorem Alike.trans {third : AgentFile} (alike : first.Alike second) (alike' : second.Alike third) :
    first.Alike third :=
  ⟨alike.record.trans alike'.record, alike.report.trans alike'.report,
    alike.baseline.trans alike'.baseline⟩

/-- A change of the record that leaves what reports have left there goes unnoticed. -/
theorem alike_modify (alike : first.Alike second) {change : AgentRecord → AgentRecord}
    (kept : ∀ record, (change record).reported = record.reported) : (first.modify change).Alike second := by
  refine ⟨?_, alike.report, alike.baseline⟩
  have same : AgentRecord.reported ∘ change = AgentRecord.reported := funext kept
  rw [modify, Option.map_map, same]
  exact alike.record

/-- A report with the same verdict keeps files alike, whenever it comes. -/
theorem alike_observe (alike : first.Alike second) (verdict : RestartVerdict) (keepsBaselines : Bool)
    (report : Report) (now now' : Instant) :
    (first.observe verdict keepsBaselines report now).Alike
      (second.observe verdict keepsBaselines report now') := by
  refine ⟨?_, rfl, by simp only [observe, alike.report, alike.baseline]⟩
  have former : (first.record.getD (Roster.firstRecord report now)).reported =
      (second.record.getD (Roster.firstRecord report now')).reported := by
    have records := alike.record
    cases known : first.record with
    | none =>
      rw [known, Option.map_none] at records
      rw [Option.map_eq_none_iff.mp records.symm]
      rfl
    | some record =>
      rw [known, Option.map_some] at records
      obtain ⟨other, known', same⟩ := Option.map_eq_some_iff.mp records.symm
      rw [known', Option.getD_some, Option.getD_some, same]
  obtain ⟨startup, counts⟩ := Prod.mk.inj former
  simp only [observe, Option.map_some, AgentRecord.reported, Roster.updateRecord, startup,
    (Prod.mk.inj counts).2]

end AgentFile

namespace FleetOperation

/-- The reports of one agent among some operations, as operations of their own. -/
def alone (agent : String) (operations : List FleetOperation) : List FleetOperation :=
  (Report.ofAgent agent (reportsOf operations)).map fun report => .report report .epoch

/-- A further report is one of its own agent. -/
theorem alone_concat_report (agent : String) (operations : List FleetOperation) (report : Report)
    (now : Instant) :
    alone agent (operations ++ [.report report now]) =
      if report.agentId = agent then alone agent operations ++ [.report report .epoch]
      else alone agent operations := by
  rw [alone, reportsOf_concat, report?, Option.toList_some, Report.ofAgent_concat]
  split
  next => exact List.map_append
  next => rfl

/-- What is no report adds to the reports of no agent. -/
theorem alone_concat_sign (agent : String) (operations : List FleetOperation) {last : FleetOperation}
    (silent : last.report? = none) : alone agent (operations ++ [last]) = alone agent operations := by
  rw [alone, reportsOf_concat, silent, Option.toList_none, List.append_nil, alone]

end FleetOperation

namespace Roster

open FleetOperation

variable {first second : Roster}

/-- The verdict on a report does not look at what signs of life change. -/
theorem detect_of_alike {report : Report}
    (alike : (first.fileOf report.agentId).Alike (second.fileOf report.agentId)) (options : FleetOptions) :
    first.detect options report = second.detect options report := by
  have records := alike.record
  have reports : first.reports.get? report.agentId = second.reports.get? report.agentId := alike.report
  simp only [fileOf] at records
  cases known : first.records.get? report.agentId with
  | none =>
    rw [known, Option.map_none] at records
    simp only [detect, known, Option.map_eq_none_iff.mp records.symm]
  | some record =>
    rw [known, Option.map_some] at records
    obtain ⟨other, known', same⟩ := Option.map_eq_some_iff.mp records.symm
    obtain ⟨startup, counts⟩ := Prod.mk.inj same
    simp only [detect, known, known', reports, RestartVerdict.restart, startup, (Prod.mk.inj counts).2]

/-- A sign of life leaves every file like what it was. -/
theorem alike_apply_of_sign (roster : Roster) (options : FleetOptions) {operation : FleetOperation}
    (lasting : operation.isExpire = false) (silent : operation.report? = none) (agent : String) :
    ((roster.apply options operation).2.fileOf agent).Alike (roster.fileOf agent) := by
  have modified (name : String) {change : AgentRecord → AgentRecord}
      (kept : ∀ record, (change record).reported = record.reported) :
      (fileOf { roster with records := roster.records.modify name change } agent).Alike
        (roster.fileOf agent) := by
    rw [fileOf_modify]
    split
    next => exact AgentFile.alike_modify (AgentFile.alike_refl _) kept
    next => exact AgentFile.alike_refl _
  cases operation with
  | report report now => cases silent
  | touch name now => exact modified name fun _ => rfl
  | heartbeat heartbeat now => exact modified heartbeat.agentId fun _ => rfl
  | expire maxAge now => cases lasting

/-- A run without expiries leaves the file of an agent like the one that its reports alone lead to. -/
theorem alike_alone (options : FleetOptions) (operations : List FleetOperation)
    (lasting : ∀ operation ∈ operations, operation.isExpire = false) (agent : String) :
    ((run options operations).fileOf agent).Alike ((run options (alone agent operations)).fileOf agent) := by
  induction operations using List.reverseRecOn with
  | nil => exact AgentFile.alike_refl _
  | append_singleton before last induction =>
    have alike := induction fun operation member => lasting operation (List.mem_append_left _ member)
    have lasts := lasting last (List.mem_append_right _ (List.mem_singleton_self last))
    rw [run_concat]
    cases brought : last.report? with
    | none =>
      rw [alone_concat_sign agent before brought]
      exact (alike_apply_of_sign _ options lasts brought agent).trans alike
    | some report =>
      cases last with
      | report report now =>
        rw [alone_concat_report, apply, fileOf_observe]
        by_cases own : report.agentId = agent
        · subst own
          rw [if_pos rfl, if_pos rfl, run_concat, apply, fileOf_observe, if_pos rfl, detect_of_alike alike]
          exact AgentFile.alike_observe alike _ _ report now .epoch
        · rw [if_neg own, if_neg (Ne.symm own)]
          exact alike
      | touch | heartbeat | expire => cases brought

end Roster

namespace IncrementalFleet

open FleetOperation

/-- The verdict on an operation that brings a report of an agent. -/
def verdictOn? (fleet : IncrementalFleet) (options : FleetOptions) (agent : String) :
    FleetOperation → Option RestartVerdict
  | .report report now => if report.agentId = agent then some (fleet.report options report now).1 else none
  | _ => none

/-- The verdicts on the reports of an agent in the course of operations on a fleet. -/
def verdictsFrom (options : FleetOptions) (agent : String) (fleet : IncrementalFleet) :
    List FleetOperation → List RestartVerdict
  | [] => []
  | operation :: rest =>
    (fleet.verdictOn? options agent operation).toList ++
      verdictsFrom options agent (fleet.apply options operation).2 rest

/-- The verdicts on the reports of an agent in the course of a run. -/
def verdictsOf (options : FleetOptions) (agent : String) (operations : List FleetOperation) :
    List RestartVerdict := verdictsFrom options agent {} operations

section Verdicts

variable (options : FleetOptions) (agent : String)

/-- The last verdict is given by the fleet before it. -/
theorem verdictsFrom_concat (fleet : IncrementalFleet) (operations : List FleetOperation)
    (last : FleetOperation) :
    verdictsFrom options agent fleet (operations ++ [last]) =
      verdictsFrom options agent fleet operations ++
        ((operations.foldl (fun fleet operation => (fleet.apply options operation).2) fleet).verdictOn?
          options agent last).toList := by
  induction operations generalizing fleet with
  | nil => exact List.append_nil _
  | cons first rest induction =>
    rw [List.cons_append, verdictsFrom, induction, verdictsFrom, List.append_assoc, List.foldl_cons]

/-- The last verdict of a run is given by the fleet before it. -/
theorem verdictsOf_concat (operations : List FleetOperation) (last : FleetOperation) :
    verdictsOf options agent (operations ++ [last]) =
      verdictsOf options agent operations ++
        ((run options operations).verdictOn? options agent last).toList :=
  verdictsFrom_concat options agent {} operations last

/-- The verdicts on the reports of an agent are those on its reports alone. -/
theorem verdictsOf_alone (operations : List FleetOperation)
    (lasting : ∀ operation ∈ operations, operation.isExpire = false) :
    verdictsOf options agent operations = verdictsOf options agent (alone agent operations) := by
  induction operations using List.reverseRecOn with
  | nil => rfl
  | append_singleton before last induction =>
    have lasted := fun operation member => lasting operation (List.mem_append_left _ member)
    have alike := Roster.alike_alone options before lasted agent
    rw [← roster_run, ← roster_run] at alike
    rw [verdictsOf_concat, induction lasted]
    cases last with
    | report report now =>
      rw [alone_concat_report]
      by_cases own : report.agentId = agent
      · subst own
        have same : ((run options before).report options report now).1 =
            ((run options (alone report.agentId before)).report options report .epoch).1 :=
          Roster.detect_of_alike alike options
        rw [if_pos rfl, verdictsOf_concat, verdictOn?, if_pos rfl, same, verdictOn?, if_pos rfl]
      · rw [if_neg own, verdictOn?, if_neg own, Option.toList_none, List.append_nil]
    | touch | heartbeat | expire =>
      rw [alone_concat_sign agent before rfl]
      exact List.append_nil _

end Verdicts

/-! ## Two orders -/

section Orders

variable {options : FleetOptions} {first second : List FleetOperation}

/-- Two runs without expiries in which an agent sends the same reports leave its file alike. -/
theorem alike_of_same_reports (lasting : ∀ operation ∈ first, operation.isExpire = false)
    (lasting' : ∀ operation ∈ second, operation.isExpire = false) {agent : String}
    (same : Report.ofAgent agent (reportsOf first) = Report.ofAgent agent (reportsOf second)) :
    ((run options first).roster.fileOf agent).Alike ((run options second).roster.fileOf agent) := by
  have alone_same : alone agent first = alone agent second := by rw [alone, same, alone]
  have alike := Roster.alike_alone options first lasting agent
  have alike' := Roster.alike_alone options second lasting' agent
  rw [alone_same] at alike
  rw [roster_run, roster_run]
  exact alike.trans alike'.symm

/-- The order in which the reports of different agents arrive does not matter. Where two runs without
expiries bring the same reports of every agent, in whatever order across the agents, at whatever times and
with whatever signs of life in between, and all totals fit at every time of both, every agent gets the same
verdicts, and the runs lead to the same reports, baselines and entries, to sums that differ at most in their
times of access, and to the same startup, time of the last report and number of restarts of every agent. -/
theorem order_across_agents (lasting : ∀ operation ∈ first, operation.isExpire = false)
    (lasting' : ∀ operation ∈ second, operation.isExpire = false)
    (same : ∀ agent, Report.ofAgent agent (reportsOf first) = Report.ofAgent agent (reportsOf second))
    (fits : ∀ earlier, earlier <+: first → (run options earlier).ledger.Fits)
    (fits' : ∀ earlier, earlier <+: second → (run options earlier).ledger.Fits) :
    let one := run options first
    let other := run options second
    (∀ agent, verdictsOf options agent first = verdictsOf options agent second) ∧
      one.roster.reports = other.roster.reports ∧ one.roster.baselines = other.roster.baselines ∧
      one.ledger.entries = other.ledger.entries ∧
      one.ledger.sums.untimed = other.ledger.sums.untimed ∧
      ∀ agent, (one.roster.records.get? agent).map AgentRecord.reported =
        (other.roster.records.get? agent).map AgentRecord.reported := by
  intro one other
  have alike (agent : String) : (one.roster.fileOf agent).Alike (other.roster.fileOf agent) :=
    alike_of_same_reports lasting lasting' (same agent)
  have reports : one.roster.reports = other.roster.reports := SortedMap.ext fun agent => (alike agent).report
  have baselines : one.roster.baselines = other.roster.baselines :=
    SortedMap.ext fun agent => (alike agent).baseline
  have entries : one.ledger.entries = other.ledger.entries := by
    apply SortedMap.ext
    intro agent
    rw [mirrors_run, mirrors_run, Roster.entryOf, Roster.entryOf, Roster.contribution, Roster.contribution,
      reports, baselines]
  have sums := untimed_sums_of_entries entries (exact_run options first fits) (exact_run options second fits')
  refine ⟨fun agent => ?_, reports, baselines, entries, sums, fun agent => (alike agent).record⟩
  rw [verdictsOf_alone options agent first lasting, verdictsOf_alone options agent second lasting', alone,
    same agent, alone]

end Orders

/-- Two agents report the same domain in turn, and one of them restarts. -/
def inTurn : List FleetOperation :=
  [.report (.single "a" (.early 0) "x.org" 10) (.early 1),
    .report (.single "b" (.early 0) "x.org" 100) (.early 2),
    .report (.single "a" (.early 3) "x.org" 4) (.early 4),
    .report (.single "b" (.early 0) "y.org" 20) (.early 5)]

/-- The same reports, one agent after the other and with signs of life in between. -/
def oneByOne : List FleetOperation :=
  [.touch "a" (.early 0),
    .report (.single "b" (.early 0) "x.org" 100) (.early 2),
    .report (.single "b" (.early 0) "y.org" 20) (.early 5),
    .touch "b" (.early 8),
    .report (.single "a" (.early 0) "x.org" 10) (.early 1),
    .report (.single "a" (.early 3) "x.org" 4) (.early 4),
    .touch "b" (.early 9)]

/-- Both orders lead to the same baseline of the agent that has restarted and to the same sums. -/
theorem inTurn_oneByOne :
    ((∀ agent, Report.ofAgent agent (reportsOf inTurn) = Report.ofAgent agent (reportsOf oneByOne)) ∧
      (∀ earlier, earlier <+: inTurn → (run usualOptions earlier).ledger.Fits) ∧
      ∀ earlier, earlier <+: oneByOne → (run usualOptions earlier).ledger.Fits) ∧
    (run usualOptions inTurn).roster.baselines.contains "a" = true ∧
    (run usualOptions inTurn).roster.baselines = (run usualOptions oneByOne).roster.baselines ∧
    (run usualOptions inTurn).ledger.sums.untimed = (run usualOptions oneByOne).ledger.sums.untimed := by
  have named : (∀ report ∈ reportsOf inTurn, report.agentId ∈ ["a", "b"]) ∧
      ∀ report ∈ reportsOf oneByOne, report.agentId ∈ ["a", "b"] := by decide +kernel
  have nobody {agent : String} {reports : List Report} (other : agent ∉ ["a", "b"])
      (named : ∀ report ∈ reports, report.agentId ∈ ["a", "b"]) : Report.ofAgent agent reports = [] := by
    apply List.filter_eq_nil_iff.mpr
    intro report member own
    exact other (of_decide_eq_true own ▸ named report member)
  have theirs : ∀ agent ∈ ["a", "b"],
      Report.ofAgent agent (reportsOf inTurn) = Report.ofAgent agent (reportsOf oneByOne) := by decide +kernel
  have same (agent : String) :
      Report.ofAgent agent (reportsOf inTurn) = Report.ofAgent agent (reportsOf oneByOne) := by
    by_cases listed : agent ∈ ["a", "b"]
    · exact theirs agent listed
    · rw [nobody listed named.1, nobody listed named.2]
  have small : ∀ earlier ∈ inTurn.inits, (run usualOptions earlier).ledger.Small 120 := by decide +kernel
  have small' : ∀ earlier ∈ oneByOne.inits, (run usualOptions earlier).ledger.Small 120 := by decide +kernel
  have fits (earlier : List FleetOperation) (isPrefix : earlier <+: inTurn) :
      (run usualOptions earlier).ledger.Fits :=
    Ledger.fits_of_small (small earlier ((List.mem_inits earlier inTurn).mpr isPrefix))
  have fits' (earlier : List FleetOperation) (isPrefix : earlier <+: oneByOne) :
      (run usualOptions earlier).ledger.Fits :=
    Ledger.fits_of_small (small' earlier ((List.mem_inits earlier oneByOne).mpr isPrefix))
  have ends := order_across_agents (by decide) (by decide) same fits fits'
  exact ⟨⟨same, fits, fits'⟩, by decide +kernel, ends.2.2.1, ends.2.2.2.2.1⟩

end IncrementalFleet

end FleetTraffic
