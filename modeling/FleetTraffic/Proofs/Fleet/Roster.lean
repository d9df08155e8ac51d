import FleetTraffic.Fleet.Roster
import FleetTraffic.Proofs.Fleet.Lifetimes

/-!
# What a roster makes of a report

A report changes what the roster holds of its own agent alone. When the agent has restarted, what it
contributed before becomes its baseline, otherwise its baseline stays. So the contribution of an agent
can be followed from report to report by amounts, without a look at how baselines are put together.
-/

namespace FleetTraffic

/-- No counter has dropped exactly when every counter is at least what it was. -/
theorem Counters.droppedSince_eq_false_iff (now before : Counters) :
    now.droppedSince before = false ↔ now.AtLeast before := by
  simp only [droppedSince, AtLeast, Bool.or_eq_false_iff, decide_eq_false_iff_not, UInt64.not_lt,
    and_assoc]

namespace Roster

/-- What the earlier lifetimes of an agent add up to. -/
def baselineOf (roster : Roster) (agent : String) : UsageTable :=
  (roster.baselines.get? agent).getD .empty

/-! ## Verdicts -/

/-- No counter of a report has dropped exactly when, in every domain of both reports, all counters are at
least what they were. -/
theorem countersDropped_eq_false_iff (report previous : Report) :
    countersDropped report previous = false ↔
      ∀ domain usage before, report.domains.get? domain = some usage →
        previous.domains.get? domain = some before → usage.counters.AtLeast before.counters := by
  rw [countersDropped, List.any_eq_false]
  constructor
  · intro steady domain usage before listed found
    have here := steady (domain, usage) ((SortedMap.get?_eq_some_iff report.domains).mp listed)
    simpa only [found, DomainUsage.droppedSince, Bool.not_eq_true,
      Counters.droppedSince_eq_false_iff] using here
  · rintro grown ⟨domain, usage⟩ member
    have listed : report.domains.get? domain = some usage :=
      (SortedMap.get?_eq_some_iff report.domains).mpr member
    cases found : previous.domains.get? domain with
    | none => simp
    | some before =>
      simpa only [found, DomainUsage.droppedSince, Bool.not_eq_true,
        Counters.droppedSince_eq_false_iff] using grown domain usage before listed found

instance (report previous : Report) : Decidable (report.Continues previous) :=
  decidable_of_iff (report.startup = previous.startup ∧ countersDropped report previous = false)
    (and_congr_right' (countersDropped_eq_false_iff report previous))

instance (reports : List Report) : Decidable (Report.Orderly reports) :=
  decidable_of_iff _ (Report.orderly_iff_each reports).symm

/-- The first report of an agent is no restart. -/
theorem detect_unknown {roster : Roster} {report : Report}
    (unknown : roster.records.get? report.agentId = none) (options : FleetOptions) :
    (roster.detect options report).restarted = false := by
  simp only [detect, unknown]
  split <;> rfl

/-- A later startup is a restart. -/
theorem detect_later {roster : Roster} {options : FleetOptions} {report : Report}
    {record : AgentRecord} (detects : options.detectsRestarts = true)
    (known : roster.records.get? report.agentId = some record)
    (later : record.lastStartup < report.startup) :
    (roster.detect options report).restarted = true := by
  simp only [detect, detects, known, later, if_true]
  rfl

/-- A report that continues the last lifetime of its agent is no restart. -/
theorem detect_continued {roster : Roster} {report previous : Report} {record : AgentRecord}
    (known : roster.records.get? report.agentId = some record)
    (last : roster.reports.get? report.agentId = some previous)
    (current : record.lastStartup = previous.startup) (continued : report.Continues previous)
    (options : FleetOptions) : (roster.detect options report).restarted = false := by
  have steady : ¬record.lastStartup < report.startup := by
    rw [current]
    exact Report.not_later_of_continues continued
  have grown := (countersDropped_eq_false_iff report previous).mpr continued.2
  simp only [detect, known, last, if_neg steady, grown, Bool.false_eq_true, if_false]
  split <;> rfl

/-! ## Contributions -/

/-- The contribution of an agent is its baseline and its latest report, clamped once. -/
theorem toNat_amount_contribution (roster : Roster) (agent domain : String) (quantity : Quantity) :
    ((roster.contribution agent).amount domain quantity).toNat =
      min (((roster.baselineOf agent).amount domain quantity).toNat +
        Report.amountOver (roster.reports.get? agent).toList domain quantity) Counter.greatest := by
  simp only [contribution, baselineOf]
  cases roster.reports.get? agent with
  | none =>
    have bound := Counter.toNat_le_greatest
      (UsageTable.amount ((roster.baselines.get? agent).getD .empty) domain quantity)
    rw [UsageTable.amount_named]
    exact (Nat.min_eq_left bound).symm
  | some report =>
    rw [UsageTable.amount_named, UsageTable.amount_add, Counter.toNat_plus]
    rw [Option.toList_some, Report.amountOver_singleton]

/-- The report that was taken in is its agent's latest. -/
theorem get?_reports_observe (roster : Roster) (options : FleetOptions) (report : Report)
    (now : Instant) (agent : String) :
    (roster.observe options report now).2.reports.get? agent =
      if agent = report.agentId then some report else roster.reports.get? agent :=
  SortedMap.get?_insert roster.reports report.agentId agent report

/-- A restart makes the old contribution the new baseline. -/
theorem amount_baselineOf_restarted {roster : Roster} {options : FleetOptions} {report : Report}
    (restarted : (roster.detect options report).restarted = true)
    (keeps : options.keepsBaselines = true) (now : Instant) (domain : String) (quantity : Quantity) :
    (((roster.observe options report now).2.baselineOf report.agentId).amount domain quantity) =
      (roster.contribution report.agentId).amount domain quantity := by
  have kept : (roster.detect options report).restarted && options.keepsBaselines := by
    rw [restarted, keeps, Bool.true_and]
  simp only [observe, baselineOf, kept, if_true, carryForward, contribution]
  cases roster.reports.get? report.agentId with
  | none => exact (UsageTable.amount_named _ domain quantity).symm
  | some previous =>
    simp only [SortedMap.get?_alter, if_true, Option.getD_some, UsageTable.amount_named]

/-- Without a restart every baseline stays. -/
theorem baselineOf_unrestarted {roster : Roster} {options : FleetOptions} {report : Report}
    (steady : (roster.detect options report).restarted = false) (now : Instant) (agent : String) :
    (roster.observe options report now).2.baselineOf agent = roster.baselineOf agent := by
  simp only [observe, steady, Bool.false_and, Bool.false_eq_true, if_false, baselineOf]

/-- The baselines of the other agents stay. -/
theorem baselineOf_other (roster : Roster) (options : FleetOptions) {report : Report}
    (now : Instant) {agent : String} (other : agent ≠ report.agentId) :
    (roster.observe options report now).2.baselineOf agent = roster.baselineOf agent := by
  simp only [observe, baselineOf]
  split
  next =>
    rw [carryForward]
    split
    next => rfl
    next => rw [SortedMap.get?_alter, if_neg other]
  next => rfl

/-! ## Startups -/

/-- The startup that the record of an agent tells. -/
def startupOf (roster : Roster) (agent : String) : Option Instant :=
  (roster.records.get? agent).map AgentRecord.lastStartup

/-- A report sets the startup of a new or restarted agent and leaves all others. -/
theorem startupOf_observe (roster : Roster) (options : FleetOptions) (report : Report)
    (now : Instant) (agent : String) :
    (roster.observe options report now).2.startupOf agent =
      if agent = report.agentId then
        some (if (roster.detect options report).restarted then report.startup
          else (roster.startupOf agent).getD report.startup)
      else roster.startupOf agent := by
  simp only [observe, startupOf, SortedMap.get?_alter]
  by_cases own : agent = report.agentId
  · simp only [updateRecord, own]
    cases roster.records.get? report.agentId <;> rfl
  · simp only [if_neg own]

/-- Changing a record otherwise leaves all startups. -/
theorem startupOf_modify (roster : Roster) (agent probe : String) {change : AgentRecord → AgentRecord}
    (kept : ∀ record, (change record).lastStartup = record.lastStartup) :
    startupOf { roster with records := roster.records.modify agent change } probe =
      roster.startupOf probe := by
  simp only [startupOf, SortedMap.modify, SortedMap.get?_alter]
  split
  next same =>
    rw [← same, Option.map_map]
    congr 1
    funext record
    exact kept record
  next => rfl

/-! ## Following a sequence of reports -/

/-- A roster follows a sequence of reports if it holds the last report of each agent, its startup, and
a baseline that together with the last report makes up all lifetimes of the agent. -/
structure Follows (roster : Roster) (reports : List Report) : Prop where
  latest : ∀ agent, roster.reports.get? agent = Report.latestOf agent reports
  startup : ∀ agent, roster.startupOf agent = (Report.latestOf agent reports).map Report.startup
  lifetimes : ∀ agent domain quantity,
    ((roster.baselineOf agent).amount domain quantity).toNat +
        Report.amountOver (Report.latestOf agent reports).toList domain quantity =
      Report.lifetimeTotal (Report.ofAgent agent reports) domain quantity

section Following

variable {roster : Roster} {reports : List Report} {options : FleetOptions} {report : Report}

/-- The empty roster follows no reports. -/
theorem follows_nil : Follows {} [] :=
  ⟨fun _ => rfl, fun _ => rfl, fun _ _ _ => rfl⟩

/-- Changing a record otherwise than in its startup does not matter. -/
theorem follows_modify (follows : roster.Follows reports) (agent : String)
    {change : AgentRecord → AgentRecord}
    (kept : ∀ record, (change record).lastStartup = record.lastStartup) :
    Follows { roster with records := roster.records.modify agent change } reports := by
  refine ⟨follows.latest, ?_, follows.lifetimes⟩
  intro probe
  rw [startupOf_modify roster agent probe kept]
  exact follows.startup probe

/-- The contribution of an agent is the traffic of all its lifetimes, clamped once. -/
theorem toNat_contribution_of_follows (follows : roster.Follows reports) (agent domain : String)
    (quantity : Quantity) :
    ((roster.contribution agent).amount domain quantity).toNat =
      min (Report.lifetimeTotal (Report.ofAgent agent reports) domain quantity) Counter.greatest := by
  rw [toNat_amount_contribution, follows.latest, follows.lifetimes]

/-- The verdict on an orderly report is a restart exactly when the report opens a new lifetime of a
known agent. -/
theorem restarted_iff_opensLifetime (follows : roster.Follows reports)
    (detects : options.detectsRestarts = true) (orderly : Report.Orderly (reports ++ [report])) :
    (roster.detect options report).restarted = true ↔ report.OpensLifetime reports := by
  rw [Report.opensLifetime_iff_later orderly]
  have current := follows.startup report.agentId
  cases known : Report.latestOf report.agentId reports with
  | none =>
    have unknown : roster.records.get? report.agentId = none := by
      simpa only [startupOf, known, Option.map_none, Option.map_eq_none_iff] using current
    simp [detect_unknown unknown]
  | some previous =>
    simp only [startupOf, known, Option.map_some, Option.map_eq_some_iff] at current
    obtain ⟨record, found, startup⟩ := current
    rcases orderly reports report (List.prefix_refl _) previous known with continued | later
    · have last : roster.reports.get? report.agentId = some previous := (follows.latest _).trans known
      simp [detect_continued found last startup continued, Report.not_later_of_continues continued]
    · have restarted := detect_later detects found (startup ▸ later)
      simp [restarted, later]

/-- A restart supersedes no report, and any other orderly report supersedes the last of its agent. -/
theorem supersededBy_of_verdict (follows : roster.Follows reports)
    (detects : options.detectsRestarts = true) (orderly : Report.Orderly (reports ++ [report])) :
    Report.supersededBy report reports =
      if (roster.detect options report).restarted then none
      else Report.latestOf report.agentId reports := by
  have verdict : (roster.detect options report).restarted = true ↔ report.OpensLifetime reports :=
    restarted_iff_opensLifetime follows detects orderly
  rw [Report.opensLifetime_iff_later orderly] at verdict
  rw [Report.supersededBy_of_orderly orderly]
  cases known : Report.latestOf report.agentId reports with
  | none => simp
  | some previous =>
    rcases orderly reports report (List.prefix_refl _) previous known with continued | later
    · have steady : ¬(roster.detect options report).restarted = true := by
        rw [verdict, known]
        rintro ⟨_, same, later⟩
        cases same
        exact Report.not_later_of_continues continued later
      rw [if_neg steady, Option.filter_some_pos (by simp [continued.1])]
    · have other : previous.startup ≠ report.startup := by
        intro same
        rw [same] at later
        exact Int.lt_irrefl _ later
      rw [if_pos (verdict.mpr ⟨previous, known, later⟩), Option.filter_some_neg (by simp [other])]

/-- A roster that looks for restarts and keeps baselines follows one orderly report more, if what its
agent contributed so far fits. -/
theorem follows_observe (follows : roster.Follows reports)
    (detects : options.detectsRestarts = true) (keeps : options.keepsBaselines = true)
    (orderly : Report.Orderly (reports ++ [report])) (now : Instant)
    (fits : ∀ domain quantity,
      Report.lifetimeTotal (Report.ofAgent report.agentId reports) domain quantity ≤ Counter.greatest) :
    (roster.observe options report now).2.Follows (reports ++ [report]) := by
  have superseded := supersededBy_of_verdict follows detects orderly
  refine ⟨?_, ?_, ?_⟩
  · intro agent
    rw [get?_reports_observe, Report.latestOf_concat, follows.latest agent]
    simp only [eq_comm]
  · intro agent
    rw [startupOf_observe, Report.latestOf_concat, follows.startup agent]
    by_cases own : agent = report.agentId
    · subst own
      rw [if_pos rfl, if_pos rfl, Option.map_some, Option.some.injEq]
      cases restarted : (roster.detect options report).restarted with
      | true => rfl
      | false =>
        cases known : Report.latestOf report.agentId reports with
        | none => rfl
        | some previous =>
          simp only [restarted, Bool.false_eq_true, if_false, known,
            Report.supersededBy_of_orderly orderly, Option.filter_eq_some_iff] at superseded
          simpa using superseded
    · rw [if_neg own, if_neg (Ne.symm own)]
  · intro agent domain quantity
    rw [Report.latestOf_concat, Report.ofAgent_concat]
    by_cases own : agent = report.agentId
    · subst own
      have grown := Report.lifetimeTotal_concat (Report.ofAgent report.agentId reports) report domain
        quantity
      have before := follows.lifetimes report.agentId domain quantity
      have whole := fits domain quantity
      rw [Report.supersededBy_ofAgent, superseded] at grown
      rw [if_pos rfl, if_pos rfl, Option.toList_some, Report.amountOver_singleton]
      cases restarted : (roster.detect options report).restarted with
      | true =>
        have carried := toNat_contribution_of_follows follows report.agentId domain quantity
        rw [← amount_baselineOf_restarted restarted keeps now] at carried
        simp only [restarted, if_true, Option.toList_none, Report.amountOver_nil] at grown
        omega
      | false =>
        rw [baselineOf_unrestarted restarted]
        simp only [restarted, Bool.false_eq_true, if_false] at grown
        omega
    · rw [if_neg (Ne.symm own), if_neg (Ne.symm own), baselineOf_other roster options now own]
      exact follows.lifetimes agent domain quantity

end Following

end Roster

end FleetTraffic
