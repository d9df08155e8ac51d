import FleetTraffic.Proofs.Fleet.Files

/-!
# How a fleet represents its agents

A fleet keeps what it knows in five maps: the records, reports and baselines of its roster, and the
entries and sums of its ledger. They are changed at different times, but after every operation they are in
step: the entry of an agent is its baseline with its latest report merged into it, so the ledger takes
away exactly what it added before. The ledger never looks at the roster, and what is subtracted is right
only because of this.
-/

namespace FleetTraffic

namespace Roster

variable {roster : Roster}

/-! ## Contributions of a coherent roster -/

/-- What the latest report of an agent holds. -/
def reportedBy (roster : Roster) (agent : String) : UsageTable :=
  ((roster.reports.get? agent).map Report.domains).getD .empty

/-- The baseline of an agent is tidy. -/
theorem tidy_baselineOf (coherent : roster.Coherent) (agent : String) :
    (roster.baselineOf agent).Tidy := by
  rw [baselineOf]
  cases found : roster.baselines.get? agent with
  | none => exact UsageTable.tidy_empty
  | some baseline => exact (coherent agent).tidy baseline found

/-- An agent contributes its baseline with its latest report added. -/
theorem contribution_eq_add (coherent : roster.Coherent) (agent : String) :
    roster.contribution agent = (roster.baselineOf agent).add (roster.reportedBy agent) := by
  have tidy := tidy_baselineOf coherent agent
  have named := (UsageTable.tidy_add tidy (roster.reportedBy agent)).named
  rw [← UsageTable.named_eq_self named, contribution, reportedBy]
  cases roster.reports.get? agent <;> rfl

/-- What an agent contributes is tidy. -/
theorem tidy_contribution (coherent : roster.Coherent) (agent : String) :
    (roster.contribution agent).Tidy := by
  rw [contribution_eq_add coherent]
  exact UsageTable.tidy_add (tidy_baselineOf coherent agent) _

/-- An agent contributes, domain by domain, its baseline with its latest report merged into it. -/
theorem get?_contribution (coherent : roster.Coherent) (agent domain : String) :
    (roster.contribution agent).get? domain =
      DomainUsage.merged domain ((roster.baselineOf agent).get? domain)
        ((roster.reportedBy agent).get? domain) := by
  rw [contribution_eq_add coherent, UsageTable.get?_add]

/-- An unknown agent contributes nothing. -/
theorem contribution_unknown (coherent : roster.Coherent) {agent : String}
    (unknown : roster.records.get? agent = none) : roster.contribution agent = .empty := by
  have file := coherent agent
  have silent : roster.reports.get? agent = none := by
    by_contra present
    have together := file.together
    simp [fileOf, unknown, Option.isSome_iff_ne_none.mpr present] at together
  have fresh : roster.baselines.get? agent = none := by
    by_contra present
    have known := file.known (Option.isSome_iff_ne_none.mpr present)
    simp [fileOf, unknown] at known
  simp only [contribution, silent, fresh, Option.getD_none]
  rfl

/-- The entry that a ledger should hold for an agent: its contribution, unless that is empty. -/
def entryOf (roster : Roster) (agent : String) : Option UsageTable :=
  if (roster.contribution agent).isEmpty then none else some (roster.contribution agent)

/-- The entry of an agent is a matter of its file. -/
theorem entryOf_congr {first second : Roster} {agent : String}
    (same : first.fileOf agent = second.fileOf agent) : first.entryOf agent = second.entryOf agent := by
  simp only [entryOf, contribution_congr same]

/-- An empty file has no entry. -/
theorem entryOf_blank {agent : String} (blank : roster.fileOf agent = {}) :
    roster.entryOf agent = none := by
  have fresh : roster.fileOf agent = fileOf {} agent := blank
  rw [entryOf_congr fresh]
  rfl

/-! ## Restarts and baselines -/

/-- The number of restarts of every agent is below the greatest one that a record can hold. -/
def RestartsFit (roster : Roster) : Prop :=
  ∀ record ∈ roster.records.values, record.restarts < 4294967295

instance (roster : Roster) : Decidable roster.RestartsFit :=
  inferInstanceAs (Decidable (∀ record ∈ _, _))

/-- A baseline belongs to an agent that has restarted. -/
def BaselinesEarned (roster : Roster) : Prop :=
  ∀ agent baseline, (roster.fileOf agent).baseline = some baseline →
    ∃ record, (roster.fileOf agent).record = some record ∧ 0 < record.restarts

/-- One restart more is above zero unless the number wraps. -/
theorem restarts_succ_pos {restarts : UInt32} (fits : restarts < 4294967295) : 0 < restarts + 1 := by
  rw [UInt32.lt_iff_toNat_lt] at fits ⊢
  rw [UInt32.toNat_add]
  simp only [UInt32.reduceToNat] at *
  omega

/-- A restarted agent has a record, and its number of restarts has not wrapped. -/
theorem restarts_of_restarted (fits : roster.RestartsFit) {options : FleetOptions} {report : Report}
    (restarted : (roster.detect options report).restarted = true) :
    ∃ record, roster.records.get? report.agentId = some record ∧ 0 < record.restarts + 1 := by
  cases known : roster.records.get? report.agentId with
  | none =>
    rw [detect_unknown known options] at restarted
    cases restarted
  | some record =>
    have listed : record ∈ roster.records.values :=
      (SortedMap.mem_values_iff _ record).mpr ⟨report.agentId, known⟩
    exact ⟨record, rfl, restarts_succ_pos (fits record listed)⟩

/-- A report gives a baseline only to an agent that restarts with it. -/
theorem baselinesEarned_observe (earned : roster.BaselinesEarned) (fits : roster.RestartsFit)
    (options : FleetOptions) (report : Report) (now : Instant) :
    (roster.observe options report now).2.BaselinesEarned := by
  intro agent baseline found
  rw [fileOf_observe] at found ⊢
  by_cases own : agent = report.agentId
  · subst own
    rw [if_pos rfl] at found ⊢
    refine ⟨_, rfl, ?_⟩
    cases restarted : (roster.detect options report).restarted with
    | true =>
      obtain ⟨record, known, positive⟩ := restarts_of_restarted fits restarted
      simpa only [fileOf, known, Option.getD_some, updateRecord, restarted, if_true] using positive
    | false =>
      simp only [AgentFile.observe, restarted, Bool.false_and, Bool.false_eq_true, if_false] at found
      obtain ⟨record, known, positive⟩ := earned _ baseline found
      simpa only [known, Option.getD_some, updateRecord, restarted, Bool.false_eq_true, if_false]
        using positive
  · rw [if_neg own] at found ⊢
    exact earned agent baseline found

/-- Changing a record otherwise than in its number of restarts does not matter. -/
theorem baselinesEarned_modify (earned : roster.BaselinesEarned) (name : String)
    {change : AgentRecord → AgentRecord}
    (kept : ∀ record, (change record).restarts = record.restarts) :
    BaselinesEarned { roster with records := roster.records.modify name change } := by
  intro agent baseline found
  rw [fileOf_modify] at found ⊢
  split at found
  next own =>
    obtain ⟨record, known, positive⟩ := earned agent baseline found
    refine ⟨change record, ?_, ?_⟩
    · rw [if_pos own, AgentFile.modify, known, Option.map_some]
    · rw [kept]
      exact positive
  next other =>
    rw [if_neg other]
    exact earned agent baseline found

/-- Every operation leaves baselines to agents that have restarted. -/
theorem baselinesEarned_apply (earned : roster.BaselinesEarned) (fits : roster.RestartsFit)
    (options : FleetOptions) (operation : FleetOperation) :
    (roster.apply options operation).2.BaselinesEarned := by
  cases operation with
  | report report now => exact baselinesEarned_observe earned fits options report now
  | touch agent now => exact baselinesEarned_modify earned agent fun _ => rfl
  | heartbeat heartbeat now => exact baselinesEarned_modify earned heartbeat.agentId fun _ => rfl
  | expire maxAge now =>
    intro agent baseline found
    rw [apply, fileOf_foldl_remove] at found ⊢
    split at found
    next => cases found
    next stays =>
      rw [if_neg stays]
      exact earned agent baseline found

/-- Baselines belong to agents that have restarted, after every run in which no number of restarts
wraps. -/
theorem baselinesEarned_run (options : FleetOptions) (operations : List FleetOperation)
    (fits : ∀ earlier, earlier <+: operations → (run options earlier).RestartsFit) :
    (run options operations).BaselinesEarned := by
  induction operations using List.reverseRecOn with
  | nil => exact fun _ _ => nofun
  | append_singleton before last inductionHypothesis =>
    have isPrefix : before <+: before ++ [last] := List.prefix_append before [last]
    rw [run_concat]
    exact baselinesEarned_apply
      (inductionHypothesis fun earlier isEarlier => fits earlier (isEarlier.trans isPrefix))
      (fits before isPrefix) options last

end Roster

namespace IncrementalFleet

variable {fleet : IncrementalFleet}

/-! ## Entries of the ledger -/

/-- The ledger holds for each agent the entry that the roster says. -/
def Mirrors (fleet : IncrementalFleet) : Prop :=
  ∀ agent, fleet.ledger.entries.get? agent = fleet.roster.entryOf agent

/-- A report brings the entry of its agent up to date, and no other entry has changed. -/
theorem mirrors_report (mirrors : fleet.Mirrors) (options : FleetOptions) (report : Report)
    (now : Instant) : (fleet.report options report now).2.Mirrors := by
  intro agent
  have changed : (fleet.report options report now).2.ledger.entries.get? agent =
      if agent = report.agentId then (fleet.roster.observe options report now).2.entryOf report.agentId
      else fleet.ledger.entries.get? agent :=
    SortedMap.get?_alter fleet.ledger.entries report.agentId agent _
  rw [changed]
  split
  next own => rw [own]; rfl
  next other =>
    -- Another agent's file stays, and its entry is a matter of its file.
    have file := Roster.fileOf_observe fleet.roster options report now agent
    rw [if_neg other] at file
    rw [mirrors agent]
    exact Roster.entryOf_congr file.symm

/-- Forgetting an agent takes its file and its entry away. -/
theorem mirrors_forget (mirrors : fleet.Mirrors) (agent : String) : (fleet.forget agent).Mirrors := by
  intro probe
  have file := Roster.fileOf_remove fleet.roster agent probe
  have entry : (fleet.forget agent).ledger.entries.get? probe =
      if probe = agent then none else fleet.ledger.entries.get? probe :=
    SortedMap.get?_erase fleet.ledger.entries agent probe
  rw [entry]
  split
  next gone =>
    rw [if_pos gone] at file
    exact (Roster.entryOf_blank file).symm
  next stays =>
    rw [if_neg stays] at file
    rw [mirrors probe]
    exact Roster.entryOf_congr file.symm

/-- Every operation keeps the entries up to date. -/
theorem mirrors_apply (mirrors : fleet.Mirrors) (options : FleetOptions)
    (operation : FleetOperation) : (fleet.apply options operation).2.Mirrors := by
  have forgotten (agents : List String) : (agents.foldl forget fleet).Mirrors := by
    induction agents generalizing fleet with
    | nil => exact mirrors
    | cons agent rest inductionHypothesis => exact inductionHypothesis (mirrors_forget mirrors agent)
  cases operation with
  | report report now => exact mirrors_report mirrors options report now
  | touch agent now => exact mirrors
  | heartbeat heartbeat now => exact mirrors
  | expire maxAge now => exact forgotten _

/-- The entries are up to date after every run. -/
theorem mirrors_run (options : FleetOptions) (operations : List FleetOperation) :
    (run options operations).Mirrors := by
  induction operations using List.reverseRecOn with
  | nil => exact fun _ => rfl
  | append_singleton before last inductionHypothesis =>
    rw [run_concat]
    exact mirrors_apply inductionHypothesis options last

/-- In a fleet whose entries are up to date, the ledger knows what every agent contributes. -/
theorem contributionOf_of_mirrors (mirrors : fleet.Mirrors) (agent : String) :
    fleet.ledger.contributionOf agent = fleet.roster.contribution agent := by
  rw [Ledger.contributionOf, mirrors agent, Roster.entryOf]
  split
  next nothing =>
    apply SortedMap.ext
    intro domain
    rw [(SortedMap.isEmpty_iff _).mp nothing domain, Option.getD_none, SortedMap.get?_empty]
  next => rfl

/-- The roster is coherent after every run. -/
theorem coherent_roster (options : FleetOptions) (operations : List FleetOperation) :
    (run options operations).roster.Coherent := by
  rw [roster_run]
  exact Roster.coherent_run options operations

/-- The sums are reduced after every run. -/
theorem reduced_sums (options : FleetOptions) (operations : List FleetOperation) :
    (run options operations).ledger.sums.Reduced := by
  rw [ledger_run]
  exact Ledger.reduced_sums_run _

/-- The sums are tidy after every run. -/
theorem tidy_sums (options : FleetOptions) (operations : List FleetOperation) :
    (run options operations).ledger.sums.Tidy := by
  rw [ledger_run]
  exact Ledger.tidy_sums_run _

/-! ## The maps in step -/

/-- The maps of a fleet are in step. -/
structure InStep (fleet : IncrementalFleet) : Prop where
  /-- The same agents have a record and a report. -/
  together : ∀ agent,
    fleet.roster.records.contains agent = fleet.roster.reports.contains agent
  /-- A record is active and stands under its agent's name. -/
  own : ∀ agent record, fleet.roster.records.get? agent = some record →
    record.agentId = agent ∧ record.active = true
  /-- Only known agents that have restarted have a baseline. -/
  earned : ∀ agent, fleet.roster.baselines.contains agent = true →
    ∃ record, fleet.roster.records.get? agent = some record ∧ 0 < record.restarts
  /-- Just the known agents that contribute something have an entry. -/
  listed : ∀ agent, fleet.ledger.entries.contains agent = true ↔
    fleet.roster.records.contains agent = true ∧ (fleet.roster.contribution agent).isEmpty = false
  /-- An entry is what its agent contributes. -/
  entry : ∀ agent contribution, fleet.ledger.entries.get? agent = some contribution →
    contribution = fleet.roster.contribution agent
  /-- An agent contributes its baseline with its latest report merged into it. -/
  merged : ∀ agent domain, (fleet.roster.contribution agent).get? domain =
    DomainUsage.merged domain ((fleet.roster.baselineOf agent).get? domain)
      ((fleet.roster.reportedBy agent).get? domain)
  /-- Names are keys and no count is zero, in the baselines, in the entries and in the sums. -/
  tidyBaselines : ∀ agent baseline, fleet.roster.baselines.get? agent = some baseline → baseline.Tidy
  tidyEntries : ∀ agent contribution, fleet.ledger.entries.get? agent = some contribution →
    contribution.Tidy
  tidySums : fleet.ledger.sums.Tidy
  /-- No sum is without traffic. -/
  busy : ∀ domain usage, fleet.ledger.sums.get? domain = some usage → usage.isZero = false

/-- The maps of a fleet are in step after every run in which no number of restarts wraps, under any
options. -/
theorem inStep_run (options : FleetOptions) (operations : List FleetOperation)
    (fits : ∀ earlier, earlier <+: operations → (run options earlier).roster.RestartsFit) :
    (run options operations).InStep := by
  have mirrors : (run options operations).Mirrors := mirrors_run options operations
  have coherent : (run options operations).roster.Coherent := coherent_roster options operations
  have earned : (run options operations).roster.BaselinesEarned := by
    simp only [roster_run] at fits ⊢
    exact Roster.baselinesEarned_run options operations fits
  refine ⟨fun agent => (coherent agent).together, fun agent => (coherent agent).own, ?_, ?_, ?_,
    Roster.get?_contribution coherent, fun agent => (coherent agent).tidy, ?_,
    tidy_sums options operations, (reduced_sums options operations).busy⟩
  · intro agent present
    obtain ⟨baseline, found⟩ := (SortedMap.contains_iff _ agent).mp present
    exact earned agent baseline found
  · intro agent
    rw [SortedMap.contains, mirrors agent, Roster.entryOf, SortedMap.contains]
    cases known : (run options operations).roster.records.get? agent with
    | none =>
      rw [Roster.contribution_unknown coherent known]
      decide
    | some record =>
      cases ((run options operations).roster.contribution agent).isEmpty <;> simp
  · intro agent contribution found
    rw [mirrors agent, Roster.entryOf] at found
    split at found
    next => cases found
    next => exact (Option.some.inj found).symm
  · intro agent contribution found
    rw [mirrors agent, Roster.entryOf] at found
    split at found
    next => cases found
    next =>
      rw [← Option.some.inj found]
      exact Roster.tidy_contribution coherent agent

/-- Two agents report the same domain. The first one restarts with a report of another domain, and the
second one falls silent and is forgotten. -/
def restartBesideSilence : List FleetOperation :=
  [.report (.single "a" (.early 0) "x.org" 10) (.early 1),
    .report (.single "b" (.early 0) "x.org" 100) (.early 2),
    .report (.single "a" (.early 5) "y.org" 3) (.early 6),
    .expire (.ofSeconds 5) (.early 9)]

/-- The maps are in step when one agent has restarted and the other one is forgotten. -/
theorem restartBesideSilence_inStep :
    (∀ earlier, earlier <+: restartBesideSilence →
      (run usualOptions earlier).roster.RestartsFit) ∧
      (run usualOptions restartBesideSilence).InStep := by
  have each : ∀ earlier ∈ restartBesideSilence.inits,
      (run usualOptions earlier).roster.RestartsFit := by decide +kernel
  have fits (earlier : List FleetOperation) (isPrefix : earlier <+: restartBesideSilence) :
      (run usualOptions earlier).roster.RestartsFit :=
    each earlier ((List.mem_inits earlier restartBesideSilence).mpr isPrefix)
  exact ⟨fits, inStep_run usualOptions restartBesideSilence fits⟩

end IncrementalFleet

end FleetTraffic
