import FleetTraffic.Proofs.Fleet.Exactness
import FleetTraffic.Proofs.Fleet.Rising

/-!
# Copies that arrive late

A reporter that gives up waiting sends again, and what it sent first may arrive last. An agent whose reports
only ever rise never restarts, but an old report that arrives late falls below the newer one, and a fall is
what a restart shows in. Then the newer report becomes the baseline, the agent's next report stands on top of
it, and the newer report counts twice, until the agent is forgotten. A copy that does not fall below the newer
report takes its place for a while and leaves no trace in the sums after the agent's next report.

Two runs are followed side by side, with the copy and without it. After the agent's next report both know the
same of it but for the baseline, so they forget it at the same time.
-/

namespace FleetTraffic

namespace Roster

variable {roster : Roster} {options : FleetOptions} {baseline : Option UsageTable}

/-! ## Two runs side by side -/

/-- An operation that names one agent leaves no trace in the files of the others. -/
theorem fileOf_run_inserted (options : FleetOptions) (before after : List FleetOperation)
    {operation : FleetOperation} {name agent : String} (named : operation.agent? = some name)
    (other : agent ≠ name) :
    (run options (before ++ operation :: after)).fileOf agent =
      (run options (before ++ after)).fileOf agent := by
  induction after using List.reverseRecOn with
  | nil => rw [run_concat, List.append_nil, fileOf_apply_other _ options named other]
  | append_singleton rest last inductionHypothesis =>
    rw [← List.cons_append, ← List.append_assoc, ← List.append_assoc, run_concat, run_concat]
    exact fileOf_apply_congr (coherent_run _ _) (coherent_run _ _) inductionHypothesis options last

/-- Two files bring the same news of an agent: the same latest report and the same time of its last sign. -/
structure SameNews (first second : AgentFile) : Prop where
  report : first.report = second.report
  heard : first.record.map AgentRecord.lastHeartbeat = second.record.map AgentRecord.lastHeartbeat

/-- What is unknown in one file is unknown in another one with the same news. -/
theorem SameNews.unknown {first second : AgentFile} (same : SameNews first second)
    (blank : first.record = none) : second.record = none := by
  have heard := same.heard
  rw [blank, Option.map_none] at heard
  exact Option.map_eq_none_iff.mp heard.symm

/-- After a report of an agent any two rosters have the same news of it. -/
theorem sameNews_observe (first second : Roster) (options : FleetOptions) (report : Report)
    (now : Instant) :
    SameNews ((first.observe options report now).2.fileOf report.agentId)
      ((second.observe options report now).2.fileOf report.agentId) := by
  rw [fileOf_observe, if_pos rfl, fileOf_observe, if_pos rfl]
  exact ⟨rfl, rfl⟩

/-- A change of the record that sets the time of the last sign brings the same news to both files. -/
theorem sameNews_modify {first second : AgentFile} (same : SameNews first second) {now : Instant}
    {change : AgentRecord → AgentRecord} (sets : ∀ record, (change record).lastHeartbeat = now) :
    SameNews (first.modify change) (second.modify change) := by
  have replaced (file : AgentFile) : (file.modify change).record.map AgentRecord.lastHeartbeat =
      (file.record.map AgentRecord.lastHeartbeat).map fun _ => now := by
    simp only [AgentFile.modify, Option.map_map, Function.comp_def, sets]
  exact ⟨same.report, by rw [replaced, replaced, same.heard]⟩

/-- Whether an agent is expired is a matter of the time of its last sign. -/
theorem mem_expiredAgents_of_sameNews {first second : Roster} (coherent : first.Coherent)
    (coherent' : second.Coherent) {agent : String}
    (same : SameNews (first.fileOf agent) (second.fileOf agent)) (maxAge : Duration) (now : Instant) :
    agent ∈ first.expiredAgents maxAge now ↔ agent ∈ second.expiredAgents maxAge now := by
  have expired (file : AgentFile) :
      (∃ record, file.record = some record ∧ isExpired record maxAge now = true) ↔
        ∃ heard ∈ file.record.map AgentRecord.lastHeartbeat,
          maxAge.toSpan.shorter (now.since heard) = true := by
    simp [isExpired]
  rw [mem_expiredAgents_iff coherent, mem_expiredAgents_iff coherent', expired, expired, same.heard]

/-- Rosters with the same news of an agent have the same news of it after every operation. -/
theorem sameNews_apply {first second : Roster} (coherent : first.Coherent) (coherent' : second.Coherent)
    {agent : String} (same : SameNews (first.fileOf agent) (second.fileOf agent)) (options : FleetOptions)
    (operation : FleetOperation) :
    SameNews ((first.apply options operation).2.fileOf agent)
      ((second.apply options operation).2.fileOf agent) := by
  cases operation with
  | report report now =>
    by_cases own : agent = report.agentId
    · subst own
      exact sameNews_observe first second options report now
    · rw [apply, apply, fileOf_observe, if_neg own, fileOf_observe, if_neg own]
      exact same
  | touch name now =>
    rw [apply, apply, touch, touch, fileOf_modify, fileOf_modify]
    split
    next => exact sameNews_modify same fun _ => rfl
    next => exact same
  | heartbeat heartbeat now =>
    rw [apply, apply, introduce, introduce, fileOf_modify, fileOf_modify]
    split
    next => exact sameNews_modify same fun _ => rfl
    next => exact same
  | expire maxAge now =>
    rw [apply, apply, fileOf_foldl_remove, fileOf_foldl_remove]
    simp only [mem_expiredAgents_of_sameNews coherent coherent' same]
    split
    next => exact ⟨rfl, rfl⟩
    next => exact same

/-- After operations with a report of an agent, two rosters have the same news of it, whatever came before. -/
theorem sameNews_run (options : FleetOptions) (first second later : List FleetOperation) {agent : String}
    (renewed : ∃ report ∈ FleetOperation.reportsOf later, report.agentId = agent) :
    SameNews ((run options (first ++ later)).fileOf agent)
      ((run options (second ++ later)).fileOf agent) := by
  induction later using List.reverseRecOn with
  | nil =>
    obtain ⟨report, member, -⟩ := renewed
    cases member
  | append_singleton before last inductionHypothesis =>
    rw [← List.append_assoc, ← List.append_assoc, run_concat, run_concat]
    rw [FleetOperation.reportsOf_concat] at renewed
    obtain ⟨report, member, own⟩ := renewed
    rcases List.mem_append.mp member with sooner | newest
    · exact sameNews_apply (coherent_run _ _) (coherent_run _ _)
        (inductionHypothesis ⟨report, sooner, own⟩) options last
    · cases last with
      | report brought now =>
        cases List.mem_singleton.mp newest
        subst own
        exact sameNews_observe _ _ options report now
      | _ => cases newest

/-! ## What a late copy leaves behind -/

/-- The latest report of an agent, where a copy that arrives after some operations falls below it. -/
def overtaken (options : FleetOptions) (before : List FleetOperation) (copy : Report) : List Report :=
  ((run options before).reports.get? copy.agentId).toList.filter fun last => ¬copy.Continues last

/-- The report that counts twice after a late copy: the one that the copy falls below, unless the agent is
forgotten later. -/
def countedTwice (options : FleetOptions) (before : List FleetOperation) (copy : Report) (now : Instant)
    (after : List FleetOperation) : List Report :=
  if MissedDuring options (before ++ [.report copy now]) after copy.agentId then []
  else overtaken options before copy

/-- An agent contributes what its file holds. -/
theorem toNat_contribution_of_carries {agent : String} {last : Report}
    (carries : (roster.fileOf agent).Carries baseline last) (domain : String) (quantity : Quantity) :
    ((roster.contribution agent).amount domain quantity).toNat =
      min (((baseline.getD .empty).amount domain quantity).toNat +
        (last.domains.amount domain quantity).toNat) Counter.greatest := by
  have latest : roster.reports.get? agent = some last := carries.latest
  have held : roster.baselines.get? agent = baseline := carries.baseline
  rw [toNat_amount_contribution, baselineOf, held, latest, Option.toList_some,
    Report.amountOver_singleton]

/-- While the reports of an agent rise, the latest one that is known tells the startup of all of them. -/
theorem startup_of_latest {before : List FleetOperation} {report last : Report}
    (rising : Report.Rising (Report.ofAgent report.agentId (FleetOperation.reportsOf before)))
    (member : report ∈ FleetOperation.reportsOf before)
    (known : (run options before).reports.get? report.agentId = some last) :
    report.startup = last.startup := by
  have own : report ∈ Report.ofAgent report.agentId (FleetOperation.reportsOf before) :=
    List.mem_filter.mpr ⟨member, decide_eq_true rfl⟩
  rcases follows_alone options before rising with ⟨blank, -⟩ | ⟨last', latest, carries⟩
  · rw [show (run options before).reports.get? report.agentId = none from congrArg AgentFile.report blank]
      at known
    cases known
  · cases carries.latest.symm.trans known
    exact Report.startup_eq_last rising latest own

/-- The file of an agent after the copy of a report that rises with the others: it holds the copy, and the
report that the copy falls below as the baseline. -/
theorem follows_copy (detects : options.detectsRestarts = true) (keeps : options.keepsBaselines = true)
    {before : List FleetOperation} {copy : Report} (received : copy ∈ FleetOperation.reportsOf before)
    (rising : Report.Rising (Report.ofAgent copy.agentId (FleetOperation.reportsOf before)))
    (now : Instant) :
    ∃ baseline : Option UsageTable,
      ((run options (before ++ [.report copy now])).fileOf copy.agentId).Follows baseline [copy] ∧
        ∀ domain quantity, ((baseline.getD .empty).amount domain quantity).toNat =
          Report.amountOver (overtaken options before copy) domain quantity := by
  rw [run_concat, overtaken]
  rcases follows_alone options before rising with ⟨blank, -⟩ | ⟨last, -, carries⟩
  · have unknown : (run options before).reports.get? copy.agentId = none := congrArg AgentFile.report blank
    rw [unknown]
    exact ⟨none, .inr ⟨copy, rfl, carries_first blank options now⟩, fun _ _ => rfl⟩
  · have known : (run options before).reports.get? copy.agentId = some last := carries.latest
    rw [known]
    by_cases continues : copy.Continues last
    · refine ⟨none, .inr ⟨copy, rfl, carries_continued carries continues options now⟩, fun _ _ => ?_⟩
      simp [continues, Report.amountOver, UsageTable.amount_empty]
    · have same := startup_of_latest rising received known
      refine ⟨_, .inr ⟨copy, rfl, carries_broken carries detects keeps same continues now⟩, ?_⟩
      intro domain quantity
      simp [continues, Report.amountOver, UsageTable.amount_add, UsageTable.amount_empty]

section LateCopy

variable (detects : options.detectsRestarts = true) (keeps : options.keepsBaselines = true)
  {before after : List FleetOperation} {copy : Report} (now : Instant)
  (received : copy ∈ FleetOperation.reportsOf before)
  (rising : Report.Rising (Report.ofAgent copy.agentId (FleetOperation.reportsOf (before ++ after))))

include received rising

include detects keeps in
/-- After the next report of its agent a late copy has added to the contribution of the agent what it makes
count twice. -/
theorem contribution_after_copy
    (renewed : ∃ report ∈ FleetOperation.reportsOf after, report.agentId = copy.agentId) (domain : String)
    (quantity : Quantity) :
    (((run options (before ++ .report copy now :: after)).contribution copy.agentId).amount domain
        quantity).toNat =
      min ((((run options (before ++ after)).contribution copy.agentId).amount domain quantity).toNat +
        Report.amountOver (countedTwice options before copy now after) domain quantity)
        Counter.greatest := by
  have undisturbed := follows_alone options (before ++ after) rising
  rw [FleetOperation.reportsOf, List.filterMap_append, Report.ofAgent_append] at rising
  obtain ⟨risingBefore, risingAfter, across⟩ := List.pairwise_append.mp rising
  have own : copy ∈ Report.ofAgent copy.agentId (FleetOperation.reportsOf before) :=
    List.mem_filter.mpr ⟨received, decide_eq_true rfl⟩
  obtain ⟨baseline, start, amounts⟩ := follows_copy detects keeps received risingBefore now
  have disturbed := follows_run start after (List.pairwise_cons.mpr ⟨across copy own, risingAfter⟩)
  have news := sameNews_run options before (before ++ [.report copy now]) after renewed
  rw [List.append_assoc, List.singleton_append] at disturbed news
  rw [countedTwice]
  rcases undisturbed with ⟨blank, -⟩ | ⟨last, -, carries⟩
  · -- Unknown without the copy, hence unknown with it as well.
    have unknown : (run options (before ++ after)).records.get? copy.agentId = none :=
      congrArg AgentFile.record blank
    have unknown' : (run options (before ++ .report copy now :: after)).records.get? copy.agentId = none :=
      news.unknown unknown
    have missed : MissedDuring options (before ++ [.report copy now]) after copy.agentId := by
      apply missedDuring_of_unknown
      rwa [List.append_assoc, List.singleton_append]
    rw [if_pos missed, contribution_unknown (coherent_run _ _) unknown,
      contribution_unknown (coherent_run _ _) unknown']
    rfl
  · have latest := news.report
    rw [carries.latest] at latest
    rcases disturbed with ⟨blank, -⟩ | ⟨last', -, carries'⟩
    · rw [blank] at latest
      cases latest
    · rw [carries'.latest, Option.some.injEq] at latest
      subst latest
      rw [toNat_contribution_of_carries carries, toNat_contribution_of_carries carries']
      have bound := Counter.toNat_le_greatest (last.domains.amount domain quantity)
      have nothing : ((UsageTable.amount SortedMap.empty domain quantity)).toNat = 0 := rfl
      have here := amounts domain quantity
      split
      next missed =>
        simp only [Option.getD_none, nothing, Report.amountOver_nil]
        omega
      next lasting =>
        simp only [Option.getD_none, nothing, here]
        omega

/-- Where something counts twice, some counter of a domain is more than zero in it. -/
theorem exists_counter_of_countedTwice (twice : countedTwice options before copy now after ≠ []) :
    ∃ domain, ∃ quantity ∈ Quantity.counters,
      0 < Report.amountOver (countedTwice options before copy now after) domain quantity := by
  rw [countedTwice] at twice ⊢
  split at twice
  next => exact absurd rfl twice
  next lasting =>
    rw [if_neg lasting]
    rw [FleetOperation.reportsOf, List.filterMap_append, Report.ofAgent_append] at rising
    have risingBefore := (List.pairwise_append.mp rising).1
    cases known : (run options before).reports.get? copy.agentId with
    | none =>
      rw [overtaken, known] at twice
      exact absurd rfl twice
    | some last =>
      rw [overtaken, known, Option.toList_some] at twice ⊢
      have breaks : ¬copy.Continues last := by simpa using twice
      obtain ⟨domain, quantity, counter, less⟩ :=
        Report.exists_counter_lt (startup_of_latest risingBefore received known) breaks
      refine ⟨domain, quantity, counter, ?_⟩
      simp only [List.filter_cons, breaks, not_false_eq_true, decide_true, if_true, List.filter_nil,
        Report.amountOver_singleton]
      exact Nat.zero_lt_of_lt (UInt64.lt_iff_toNat_lt.mp less)

end LateCopy

end Roster

namespace IncrementalFleet

/-- The amounts of all agents but one are a matter of the files of these agents. -/
theorem totalOfOthers_congr {first second : IncrementalFleet} (mirrors : first.Mirrors)
    (mirrors' : second.Mirrors) {agent : String}
    (same : ∀ other, other ≠ agent → first.roster.fileOf other = second.roster.fileOf other)
    (domain : String) (quantity : Quantity) :
    first.ledger.totalOfOthers agent domain quantity = second.ledger.totalOfOthers agent domain quantity := by
  have entries : first.ledger.entries.erase agent = second.ledger.entries.erase agent := by
    apply SortedMap.ext
    intro other
    rw [SortedMap.get?_erase, SortedMap.get?_erase]
    split
    next => rfl
    next foreign => rw [mirrors other, mirrors' other, Roster.entryOf_congr (same other foreign)]
  rw [Ledger.totalOfOthers, Ledger.totalOfOthers, entries]

/-- A copy of a report arrives late, in a fleet that looks for restarts and keeps baselines. The reports of its
agent rise, and there is one more after the copy. Then every total is that of the run without the copy, and
what counts twice on top of it: the report that the copy fell below, unless the agent was forgotten since.
Where nothing counts twice the copy leaves no traffic behind, and otherwise some counter of a domain is too
high. All this as long as the totals of both runs fit. -/
theorem late_copy_counts {options : FleetOptions} (detects : options.detectsRestarts = true)
    (keeps : options.keepsBaselines = true) {before after : List FleetOperation} {copy : Report}
    (now : Instant) (received : copy ∈ FleetOperation.reportsOf before)
    (rising : Report.Rising (Report.ofAgent copy.agentId (FleetOperation.reportsOf (before ++ after))))
    (renewed : ∃ report ∈ FleetOperation.reportsOf after, report.agentId = copy.agentId)
    (fits : ∀ earlier, earlier <+: before ++ after → (run options earlier).ledger.Fits)
    (fits' : ∀ earlier, earlier <+: before ++ .report copy now :: after →
      (run options earlier).ledger.Fits) :
    let alone := (run options (before ++ after)).ledger.sums
    let disturbed := (run options (before ++ .report copy now :: after)).ledger.sums
    let twice := Roster.countedTwice options before copy now after
    (∀ domain quantity, (disturbed.amount domain quantity).toNat =
        min ((alone.amount domain quantity).toNat + Report.amountOver twice domain quantity)
          Counter.greatest) ∧
      (twice = [] → disturbed.SameTraffic alone) ∧
      (twice ≠ [] → ∃ domain, ∃ quantity ∈ Quantity.counters,
        0 < Report.amountOver twice domain quantity) := by
  intro alone disturbed twice
  have amounts (domain : String) (quantity : Quantity) : (disturbed.amount domain quantity).toNat =
      min ((alone.amount domain quantity).toNat + Report.amountOver twice domain quantity)
        Counter.greatest := by
    have foreign (other : String) (another : other ≠ copy.agentId) :
        (run options (before ++ .report copy now :: after)).roster.fileOf other =
          (run options (before ++ after)).roster.fileOf other := by
      rw [roster_run, roster_run]
      exact Roster.fileOf_run_inserted options before after rfl another
    have others := totalOfOthers_congr (mirrors_run _ _) (mirrors_run _ _) foreign domain quantity
    have split := Ledger.total_eq_others_add (run options (before ++ after)).ledger copy.agentId domain
      quantity
    have split' := Ledger.total_eq_others_add (run options (before ++ .report copy now :: after)).ledger
      copy.agentId domain quantity
    have own : _ = min (_ + Report.amountOver twice domain quantity) Counter.greatest :=
      Roster.contribution_after_copy detects keeps now received rising renewed domain quantity
    rw [contributionOf_of_mirrors (mirrors_run _ _), roster_run] at split split'
    have whole := fits _ (List.prefix_refl _) domain quantity
    have whole' := fits' _ (List.prefix_refl _) domain quantity
    rw [exact_run options _ fits', exact_run options _ fits]
    omega
  refine ⟨amounts, ?_, Roster.exists_counter_of_countedTwice now received rising⟩
  intro nothing
  apply (UsageTable.sameTraffic_iff (reduced_sums _ _) (reduced_sums _ _)).mpr
  intro domain quantity
  apply UInt64.toNat_inj.mp
  have bound := Counter.toNat_le_greatest (alone.amount domain quantity)
  rw [amounts, nothing, Report.amountOver_nil, Nat.add_zero]
  exact Nat.min_eq_left bound

/-- An agent has reported twice, and another one uses the same domain. -/
def reportedTwice : List FleetOperation :=
  [.report (.single "a" (.early 0) "x.org" 10) (.early 1),
    .report (.single "b" (.early 0) "x.org" 100) (.early 2),
    .report (.single "a" (.early 0) "x.org" 20) (.early 3)]

/-- The agent goes on. -/
def reportsOnce : List FleetOperation := [.report (.single "a" (.early 0) "x.org" 30) (.early 5)]

/-- A copy of the first report after the second one makes the second one count twice. -/
theorem firstReport_counts_late :
    let copy := Report.single "a" (.early 0) "x.org" 10
    let disturbed := run usualOptions (reportedTwice ++ .report copy (.early 4) :: reportsOnce)
    Roster.countedTwice usualOptions reportedTwice copy (.early 4) reportsOnce =
        [.single "a" (.early 0) "x.org" 20] ∧
      (disturbed.ledger.sums.amount "x.org" .accesses).toNat = 150 := by
  intro copy disturbed
  have received : copy ∈ FleetOperation.reportsOf reportedTwice := by decide +kernel
  have rising : Report.Rising
      (Report.ofAgent copy.agentId (FleetOperation.reportsOf (reportedTwice ++ reportsOnce))) := by
    decide +kernel
  have renewed : ∃ report ∈ FleetOperation.reportsOf reportsOnce, report.agentId = copy.agentId := by
    decide +kernel
  have small : ∀ earlier ∈ (reportedTwice ++ reportsOnce).inits,
      (run usualOptions earlier).ledger.Small 200 := by decide +kernel
  have small' : ∀ earlier ∈ (reportedTwice ++ .report copy (.early 4) :: reportsOnce).inits,
      (run usualOptions earlier).ledger.Small 200 := by decide +kernel
  obtain ⟨amounts, -⟩ := late_copy_counts (rfl : usualOptions.detectsRestarts = true) rfl (.early 4) received
    rising renewed
    (fun earlier isPrefix => Ledger.fits_of_small (small earlier ((List.mem_inits _ _).mpr isPrefix)))
    (fun earlier isPrefix => Ledger.fits_of_small (small' earlier ((List.mem_inits _ _).mpr isPrefix)))
  refine ⟨by decide +kernel, ?_⟩
  rw [amounts]
  decide +kernel

/-- A copy of the first report between the second one and the third leaves more than without it: the reports of
the agent rise throughout and tell one startup, yet the accesses of the domain are higher by the second
report. -/
theorem overtaken_copy_adds :
    let copy := Report.single "a" (.early 0) "x.org" 10
    let alone := run usualOptions (reportedTwice ++ reportsOnce)
    let disturbed := run usualOptions (reportedTwice ++ .report copy (.early 4) :: reportsOnce)
    copy ∈ FleetOperation.reportsOf reportedTwice ∧
      Report.Rising (Report.ofAgent "a" (FleetOperation.reportsOf (reportedTwice ++ reportsOnce))) ∧
      alone.ledger.sums.amount "x.org" .accesses = 130 ∧
      disturbed.ledger.sums.amount "x.org" .accesses = 150 := by
  decide +kernel

/-- Where the totals do not fit, a copy can take traffic away although nothing counts twice: another agent has
filled the domain that the copy brings back for a while. -/
theorem overfull_copy_takes_away :
    let copy := Report.single "a" (.early 0) "x.org" 5
    let before : List FleetOperation :=
      [.report copy (.early 1), .report (.single "a" (.early 0) "y.org" 1) (.early 2),
        .report (.single "b" (.early 0) "x.org" 18446744073709551615) (.early 3)]
    let after : List FleetOperation := [.report (.single "a" (.early 0) "y.org" 2) (.early 5)]
    Roster.countedTwice usualOptions before copy (.early 4) after = [] ∧
      (run usualOptions (before ++ after)).ledger.sums.amount "x.org" .accesses = 18446744073709551615 ∧
      (run usualOptions (before ++ .report copy (.early 4) :: after)).ledger.sums.amount "x.org" .accesses =
        18446744073709551610 := by
  decide +kernel

end IncrementalFleet

end FleetTraffic
