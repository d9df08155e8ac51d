import FleetTraffic.Proofs.Fleet.Progress
import FleetTraffic.Proofs.Fleet.Standing
import FleetTraffic.Proofs.Fleet.Unbroken

/-!
# Agents whose reports rise

The counters of an agent count from its startup, so as long as it runs its reports can only rise. Then no
report looks like a restart, and the file of the agent holds the latest of them. A baseline that the agent has
at some time stays with it until the agent is forgotten, and is gone afterwards: to say what a run leaves of it,
it is enough to know whether the agent was missed on the way.
-/

namespace FleetTraffic

namespace Report

/-- Each report continues all reports before it: one startup, and no counter of a domain ever falls. -/
def Rising (reports : List Report) : Prop :=
  reports.Pairwise fun earlier report => report.Continues earlier

instance (reports : List Report) : Decidable (Rising reports) :=
  inferInstanceAs (Decidable (reports.Pairwise _))

/-- Reports rise with one report more if they rise so far and that report continues all of them. -/
theorem rising_concat_iff (reports : List Report) (report : Report) :
    Rising (reports ++ [report]) ↔ Rising reports ∧ ∀ earlier ∈ reports, report.Continues earlier := by
  simp [Rising, List.pairwise_append]

/-- The reports of one agent are taken in parts. -/
theorem ofAgent_append (agent : String) (first second : List Report) :
    ofAgent agent (first ++ second) = ofAgent agent first ++ ofAgent agent second :=
  List.filter_append first second

/-- Reports that rise tell one startup. -/
theorem startup_eq_last {reports : List Report} (rising : Rising reports) {report last : Report}
    (latest : reports.getLast? = some last) (member : report ∈ reports) :
    report.startup = last.startup := by
  obtain ⟨before, rfl⟩ := List.getLast?_eq_some_iff.mp latest
  rcases List.mem_append.mp member with sooner | newest
  · exact (((rising_concat_iff before last).mp rising).2 report sooner).1.symm
  · rw [List.mem_singleton.mp newest]

/-- A report that starts with another one and does not continue it holds less of some counter of a domain. -/
theorem exists_counter_lt {report previous : Report} (same : report.startup = previous.startup)
    (breaks : ¬report.Continues previous) :
    ∃ domain, ∃ quantity ∈ Quantity.counters,
      report.domains.amount domain quantity < previous.domains.amount domain quantity := by
  by_contra nowhere
  push Not at nowhere
  refine breaks ⟨same, fun domain usage before listed found => ?_⟩
  apply (DomainUsage.atLeast_countersOf_iff (some usage) (some before)).mpr
  intro quantity counter
  rw [← listed, ← found]
  exact UInt64.not_lt.mp (nowhere domain quantity counter)

end Report

/-! ## The file of an agent whose reports rise -/

namespace AgentFile

/-- What a file holds: a baseline, if any, the latest report, and its startup in the record. -/
structure Carries (file : AgentFile) (baseline : Option UsageTable) (last : Report) : Prop where
  latest : file.report = some last
  baseline : file.baseline = baseline
  startup : file.record.map AgentRecord.lastStartup = some last.startup

/-- A file follows reports if it holds the last of them and a baseline. It may be empty as well, and then
there is no baseline. -/
def Follows (file : AgentFile) (baseline : Option UsageTable) (reports : List Report) : Prop :=
  (file = {} ∧ baseline = none) ∨ ∃ last, reports.getLast? = some last ∧ file.Carries baseline last

/-- A change that leaves the startup in a record leaves what the file holds. -/
theorem carries_modify {file : AgentFile} {baseline : Option UsageTable} {last : Report}
    (carries : file.Carries baseline last) {change : AgentRecord → AgentRecord}
    (kept : ∀ record, (change record).lastStartup = record.lastStartup) :
    (file.modify change).Carries baseline last := by
  refine ⟨carries.latest, carries.baseline, ?_⟩
  rw [modify, Option.map_map, ← carries.startup]
  congr 1
  funext record
  exact kept record

/-- An agent in its first lifetime has no baseline. -/
theorem carries_of_unbroken {file : AgentFile} {last : Report} (unbroken : file.Unbroken last) :
    file.Carries none last := by
  obtain ⟨record, known, startup, _⟩ := unbroken.record
  refine ⟨unbroken.latest, unbroken.baseline, ?_⟩
  rw [known, Option.map_some, startup]

end AgentFile

namespace Roster

variable {roster : Roster} {options : FleetOptions} {baseline : Option UsageTable}

/-- An agent whose file holds a report is known. -/
theorem known_of_carries {agent : String} {last : Report}
    (carries : (roster.fileOf agent).Carries baseline last) : roster.records.get? agent ≠ none := by
  intro unknown
  have startup := carries.startup
  rw [fileOf, unknown] at startup
  cases startup

/-- The first report of an agent finds no baseline. -/
theorem carries_first {report : Report} (blank : roster.fileOf report.agentId = {})
    (options : FleetOptions) (now : Instant) :
    ((roster.observe options report now).2.fileOf report.agentId).Carries none report :=
  AgentFile.carries_of_unbroken (unbroken_observe (.inl blank) options now).2

/-- A report that continues the latest one takes its place. -/
theorem carries_continued {report previous : Report}
    (carries : (roster.fileOf report.agentId).Carries baseline previous)
    (continues : report.Continues previous) (options : FleetOptions) (now : Instant) :
    ((roster.observe options report now).2.fileOf report.agentId).Carries baseline report := by
  obtain ⟨record, known, startup⟩ := Option.map_eq_some_iff.mp carries.startup
  have steady := detect_continued known carries.latest startup continues options
  rw [fileOf_observe, if_pos rfl]
  refine ⟨rfl, ?_, ?_⟩
  · simp [AgentFile.observe, steady, carries.baseline]
  · simp [AgentFile.observe, known, updateRecord, steady, startup, continues.1]

/-- Before a report that tells the same startup and does not continue the latest one, the latest one becomes
part of the baseline. -/
theorem carries_broken {report previous : Report}
    (carries : (roster.fileOf report.agentId).Carries baseline previous)
    (detects : options.detectsRestarts = true) (keeps : options.keepsBaselines = true)
    (same : report.startup = previous.startup) (breaks : ¬report.Continues previous) (now : Instant) :
    ((roster.observe options report now).2.fileOf report.agentId).Carries
      (some ((baseline.getD .empty).add previous.domains)) report := by
  have startup : roster.startupOf report.agentId = some report.startup := by
    rw [same]
    exact carries.startup
  have restarted : (roster.detect options report).restarted = true :=
    (restarted_iff_of_same_startup detects startup carries.latest same.symm).mpr breaks
  rw [fileOf_observe, if_pos rfl]
  refine ⟨rfl, ?_, ?_⟩
  · simp [AgentFile.observe, restarted, keeps, carries.latest, carries.baseline]
  · simp [AgentFile.observe, updateRecord, restarted]

/-- An operation empties the file of an agent, or the file holds the last of the agent's reports afterwards
and the baseline that it held before, if the reports rise. -/
theorem carries_apply {agent : String} {reports : List Report}
    (follows : (roster.fileOf agent).Follows baseline reports) (options : FleetOptions)
    {operation : FleetOperation}
    (rising : Report.Rising (reports ++ Report.ofAgent agent operation.report?.toList)) :
    (roster.apply options operation).2.fileOf agent = {} ∨
      ∃ last, (reports ++ Report.ofAgent agent operation.report?.toList).getLast? = some last ∧
        ((roster.apply options operation).2.fileOf agent).Carries baseline last := by
  by_cases own : ∃ report now, operation = .report report now ∧ report.agentId = agent
  · obtain ⟨report, now, rfl, rfl⟩ := own
    have brought : Report.ofAgent report.agentId (FleetOperation.report? (.report report now)).toList =
        [report] := by simp [FleetOperation.report?, Report.ofAgent]
    rw [brought] at rising ⊢
    refine .inr ⟨report, List.getLast?_concat, ?_⟩
    rcases follows with ⟨blank, rfl⟩ | ⟨last, latest, carries⟩
    · exact carries_first blank options now
    · have continues := ((Report.rising_concat_iff reports report).mp rising).2 last
        (List.mem_of_getLast? latest)
      exact carries_continued carries continues options now
  · have foreign : ∀ report ∈ operation.report?, report.agentId ≠ agent := by
      intro report brought same
      cases operation with
      | report other now =>
        cases brought
        exact own ⟨report, now, rfl, same⟩
      | _ => cases brought
    have nothing : Report.ofAgent agent operation.report?.toList = [] := by
      rw [Report.ofAgent, List.filter_eq_nil_iff]
      intro report brought same
      exact foreign report (Option.mem_toList.mp brought) (of_decide_eq_true same)
    rw [nothing, List.append_nil]
    rcases fileOf_apply_foreign roster options foreign with gone | ⟨change, kept, changed⟩
    · exact .inl gone
    · rw [changed]
      rcases follows with ⟨blank, -⟩ | ⟨last, latest, carries⟩
      · rw [blank]
        exact .inl rfl
      · exact .inr ⟨last, latest, AgentFile.carries_modify carries fun record => (kept record).1⟩

/-! ## A run from one time on -/

/-- Whether an agent is unknown at some time of later operations: right after the earlier ones, or after some
of the later ones. -/
def MissedDuring (options : FleetOptions) (earlier later : List FleetOperation) (agent : String) : Prop :=
  ∃ upTo ∈ later.inits, (run options (earlier ++ upTo)).records.get? agent = none

instance (options : FleetOptions) (earlier later : List FleetOperation) (agent : String) :
    Decidable (MissedDuring options earlier later agent) :=
  inferInstanceAs (Decidable (∃ upTo ∈ _, _))

/-- An agent is missed in the course of no operation just if it is unknown. -/
theorem missedDuring_nil_iff (options : FleetOptions) (earlier : List FleetOperation) (agent : String) :
    MissedDuring options earlier [] agent ↔ (run options earlier).records.get? agent = none := by
  simp [MissedDuring]

/-- An agent is missed in the course of one operation more if it was missed already or is unknown after it. -/
theorem missedDuring_concat_iff (options : FleetOptions) (earlier later : List FleetOperation)
    (last : FleetOperation) (agent : String) :
    MissedDuring options earlier (later ++ [last]) agent ↔
      MissedDuring options earlier later agent ∨
        (run options (earlier ++ (later ++ [last]))).records.get? agent = none := by
  simp only [MissedDuring, List.mem_inits, List.prefix_concat_iff, or_and_right, exists_or,
    exists_eq_left]
  exact or_comm

/-- An agent that is unknown in the end was missed. -/
theorem missedDuring_of_unknown {options : FleetOptions} {earlier later : List FleetOperation}
    {agent : String} (unknown : (run options (earlier ++ later)).records.get? agent = none) :
    MissedDuring options earlier later agent :=
  ⟨later, (List.mem_inits later later).mpr (List.prefix_refl later), unknown⟩

/-- While the reports of an agent rise, its file follows them. The baseline of the beginning stays until the
agent is missed. -/
theorem follows_run {earlier : List FleetOperation} {agent : String} {past : List Report}
    (start : ((run options earlier).fileOf agent).Follows baseline past) (later : List FleetOperation)
    (rising : Report.Rising (past ++ Report.ofAgent agent (FleetOperation.reportsOf later))) :
    ((run options (earlier ++ later)).fileOf agent).Follows
      (if MissedDuring options earlier later agent then none else baseline)
      (past ++ Report.ofAgent agent (FleetOperation.reportsOf later)) := by
  induction later using List.reverseRecOn with
  | nil =>
    simp only [List.append_nil, FleetOperation.reportsOf, List.filterMap_nil, Report.ofAgent,
      List.filter_nil, missedDuring_nil_iff]
    rcases start with ⟨blank, rfl⟩ | ⟨last, latest, carries⟩
    · exact .inl ⟨blank, ite_self none⟩
    · rw [if_neg (known_of_carries carries)]
      exact .inr ⟨last, latest, carries⟩
  | append_singleton before operation inductionHypothesis =>
    rw [FleetOperation.reportsOf_concat, Report.ofAgent_append] at rising ⊢
    rw [← List.append_assoc] at rising
    have sofar := inductionHypothesis (List.pairwise_append.mp rising).1
    have step := carries_apply sofar options rising
    rw [← run_concat, List.append_assoc, List.append_assoc] at step
    have missed := missedDuring_concat_iff options earlier before operation agent
    rcases step with gone | ⟨last, latest, carries⟩
    · rw [if_pos (missed.mpr (.inr (congrArg AgentFile.record gone)))]
      exact .inl ⟨gone, rfl⟩
    · have known := known_of_carries carries
      rw [or_iff_left known] at missed
      simp only [missed]
      exact .inr ⟨last, latest, carries⟩

/-- An agent whose reports rise from the beginning has no baseline. -/
theorem follows_alone (options : FleetOptions) (operations : List FleetOperation) {agent : String}
    (rising : Report.Rising (Report.ofAgent agent (FleetOperation.reportsOf operations))) :
    ((run options operations).fileOf agent).Follows none
      (Report.ofAgent agent (FleetOperation.reportsOf operations)) := by
  have blank : ((run options []).fileOf agent).Follows none [] := .inl ⟨rfl, rfl⟩
  have follows := follows_run blank operations rising
  rw [ite_self, List.nil_append, List.nil_append] at follows
  exact follows

end Roster

end FleetTraffic
