import FleetTraffic.Proofs.Fleet.History
import FleetTraffic.Proofs.Fleet.Roster
import FleetTraffic.Proofs.Ledger.Balance

/-!
# Exact accounting across restarts

A fleet that looks for restarts and tracks baselines takes reports in, with signs of life in between and
without forgetting anyone. Two invariants are carried through its operations side by side: the roster
follows the reports, and the ledger accounts for them. A report changes the traffic of its agent's
lifetimes by as much as it changes the traffic of the whole fleet, which is why replacing one entry of
the ledger is enough.
-/

namespace FleetTraffic

namespace FleetOperation

/-- The report that an operation brings, if it is a report. -/
def report? : FleetOperation → Option Report
  | .report brought _ => some brought
  | .touch _ _ | .heartbeat _ _ | .expire _ _ => none

/-- Whether an operation may forget agents. -/
def isExpire : FleetOperation → Bool
  | .expire _ _ => true
  | .report _ _ | .touch _ _ | .heartbeat _ _ => false

/-- The reports among some operations. -/
def reportsOf (operations : List FleetOperation) : List Report := operations.filterMap report?

/-- One operation more brings at most one report more. -/
theorem reportsOf_concat (operations : List FleetOperation) (last : FleetOperation) :
    reportsOf (operations ++ [last]) = reportsOf operations ++ last.report?.toList := by
  rw [reportsOf, List.filterMap_append, reportsOf]
  cases last <;> rfl

/-- The reports of what comes first come first. -/
theorem isPrefix_reportsOf {earlier operations : List FleetOperation} (isPrefix : earlier <+: operations) :
    reportsOf earlier <+: reportsOf operations := isPrefix.filterMap report?

/-- The traffic of all lifetimes fits at every time of a run whose reports together fit. -/
theorem fits_of_reports_fit {operations : List FleetOperation}
    (small : ∀ domain quantity,
      Report.amountOver (reportsOf operations) domain quantity ≤ Counter.greatest) :
    ∀ earlier, earlier <+: operations → ∀ domain quantity,
      Report.lifetimeTotal (reportsOf earlier) domain quantity ≤ Counter.greatest := by
  rintro earlier ⟨rest, rfl⟩ domain quantity
  have within := Report.lifetimeTotal_le (reportsOf earlier) domain quantity
  have whole := small domain quantity
  rw [reportsOf, List.filterMap_append, Report.amountOver_append] at whole
  rw [reportsOf] at within ⊢
  omega

end FleetOperation

namespace Ledger

/-- A ledger accounts for reports if each agent contributes the traffic of all its lifetimes, and both
the total and the kept sum are the traffic of all lifetimes of all agents. -/
structure AccountsFor (ledger : Ledger) (reports : List Report) : Prop where
  entry : ∀ agent domain quantity,
    ((ledger.contributionOf agent).amount domain quantity).toNat =
      Report.lifetimeTotal (Report.ofAgent agent reports) domain quantity
  total : ∀ domain quantity,
    ledger.total domain quantity = Report.lifetimeTotal reports domain quantity
  kept : ∀ domain quantity,
    (ledger.sums.amount domain quantity).toNat = Report.lifetimeTotal reports domain quantity
  reduced : ledger.sums.Reduced

/-- The empty ledger accounts for no reports. -/
theorem accountsFor_nil : AccountsFor {} [] :=
  ⟨fun _ _ _ => rfl, fun _ _ => rfl, fun _ _ => rfl, UsageTable.reduced_empty⟩

/-- The ledger accounts for one report more after a change of its agent's entry, if the new entry is the
traffic of all lifetimes of the agent, clamped once, and the new total fits. -/
theorem accountsFor_change {ledger : Ledger} {reports : List Report} {report : Report}
    (accounts : ledger.AccountsFor reports) {step : LedgerChange} (own : step.agent = report.agentId)
    (amounts : ∀ domain quantity, (step.contribution.amount domain quantity).toNat =
      min (Report.lifetimeTotal (Report.ofAgent report.agentId (reports ++ [report])) domain quantity)
        Counter.greatest)
    (fits : ∀ domain quantity,
      Report.lifetimeTotal (reports ++ [report]) domain quantity ≤ Counter.greatest) :
    (ledger.change step).AccountsFor (reports ++ [report]) := by
  have both (domain : String) (quantity : Quantity) :
      (step.contribution.amount domain quantity).toNat =
          Report.lifetimeTotal (Report.ofAgent report.agentId (reports ++ [report])) domain quantity ∧
        (ledger.change step).total domain quantity =
          Report.lifetimeTotal (reports ++ [report]) domain quantity := by
    have ofFleet := Report.lifetimeTotal_concat reports report domain quantity
    have ofAgent := Report.lifetimeTotal_concat (Report.ofAgent report.agentId reports) report domain
      quantity
    have split := total_eq_others_add ledger step.agent domain quantity
    have changed := total_change ledger step domain quantity
    have amount := amounts domain quantity
    have whole := fits domain quantity
    rw [Report.supersededBy_ofAgent] at ofAgent
    rw [accounts.total, accounts.entry, own] at split
    rw [own] at changed
    rw [Report.ofAgent_concat, if_pos rfl] at amount ⊢
    constructor <;> omega
  refine ⟨?_, fun domain quantity => (both domain quantity).2, ?_,
    reduced_sums_change accounts.reduced step⟩
  · intro agent domain quantity
    rw [contributionOf_change, own]
    by_cases same : agent = report.agentId
    · rw [if_pos same, same]
      exact (both domain quantity).1
    · rw [if_neg same, Report.ofAgent_concat, if_neg (Ne.symm same)]
      exact accounts.entry agent domain quantity
  · intro domain quantity
    have before : (ledger.sums.amount domain quantity).toNat = ledger.total domain quantity :=
      (accounts.kept domain quantity).trans (accounts.total domain quantity).symm
    have total := (both domain quantity).2
    have within : (ledger.change step).total domain quantity ≤ Counter.greatest := by
      rw [total]
      exact fits domain quantity
    exact (exact_change accounts.reduced step before within).trans total

end Ledger

namespace IncrementalFleet

open FleetOperation

/-- The roster follows the reports and the ledger accounts for them. -/
structure Tracks (fleet : IncrementalFleet) (reports : List Report) : Prop where
  follows : fleet.roster.Follows reports
  accounts : fleet.ledger.AccountsFor reports

/-- One orderly report more is followed and accounted for, if the traffic of all lifetimes fits. -/
theorem tracks_report {fleet : IncrementalFleet} {reports : List Report} {report : Report}
    (tracks : fleet.Tracks reports) {options : FleetOptions} (detects : options.detectsRestarts = true)
    (baselines : options.keepsBaselines = true) (orderly : Report.Orderly (reports ++ [report]))
    (now : Instant)
    (fits : ∀ domain quantity,
      Report.lifetimeTotal (reports ++ [report]) domain quantity ≤ Counter.greatest) :
    (fleet.report options report now).2.Tracks (reports ++ [report]) := by
  have before (domain : String) (quantity : Quantity) :
      Report.lifetimeTotal (Report.ofAgent report.agentId reports) domain quantity ≤
        Counter.greatest := by
    rw [← tracks.accounts.entry]
    exact Counter.toNat_le_greatest _
  have follows := Roster.follows_observe tracks.follows detects baselines orderly now before
  have own (contribution : UsageTable) :
      (LedgerChange.replace report.agentId contribution).agent = report.agentId := rfl
  exact ⟨follows, Ledger.accountsFor_change tracks.accounts (own _)
    (Roster.toNat_contribution_of_follows follows report.agentId) fits⟩

/-- An operation that forgets nobody is followed and accounted for, if the reports after it are orderly
and the traffic of all their lifetimes fits. -/
theorem tracks_apply {fleet : IncrementalFleet} {reports : List Report} (tracks : fleet.Tracks reports)
    {options : FleetOptions} (detects : options.detectsRestarts = true)
    (baselines : options.keepsBaselines = true) {operation : FleetOperation}
    (lasting : operation.isExpire = false)
    (orderly : Report.Orderly (reports ++ operation.report?.toList))
    (fits : ∀ domain quantity,
      Report.lifetimeTotal (reports ++ operation.report?.toList) domain quantity ≤ Counter.greatest) :
    (fleet.apply options operation).2.Tracks (reports ++ operation.report?.toList) := by
  cases operation with
  | report report now => exact tracks_report tracks detects baselines orderly now fits
  | touch agent now =>
    simp only [report?, Option.toList_none, List.append_nil]
    exact ⟨Roster.follows_modify tracks.follows agent fun _ => rfl, tracks.accounts⟩
  | heartbeat heartbeat now =>
    simp only [report?, Option.toList_none, List.append_nil]
    exact ⟨Roster.follows_modify tracks.follows heartbeat.agentId fun _ => rfl, tracks.accounts⟩
  | expire maxAge now => cases lasting

/-- The fleet keeps track of its reports through every run that forgets nobody, if the reports are
orderly and the traffic of all lifetimes fits at every time. -/
theorem tracks_run {options : FleetOptions} (detects : options.detectsRestarts = true)
    (baselines : options.keepsBaselines = true) (operations : List FleetOperation)
    (lasting : ∀ operation ∈ operations, operation.isExpire = false)
    (orderly : Report.Orderly (reportsOf operations))
    (fits : ∀ earlier, earlier <+: operations → ∀ domain quantity,
      Report.lifetimeTotal (reportsOf earlier) domain quantity ≤ Counter.greatest) :
    (run options operations).Tracks (reportsOf operations) := by
  induction operations using List.reverseRecOn with
  | nil => exact ⟨Roster.follows_nil, Ledger.accountsFor_nil⟩
  | append_singleton before last inductionHypothesis =>
    have isPrefix : before <+: before ++ [last] := List.prefix_append before [last]
    have kept : (run options before).Tracks (reportsOf before) :=
      inductionHypothesis (fun operation member => lasting operation (List.mem_append_left _ member))
        (Report.orderly_of_isPrefix orderly (isPrefix_reportsOf isPrefix))
        (fun earlier isEarlier => fits earlier (isEarlier.trans isPrefix))
    have now := fits _ (List.prefix_refl _)
    rw [reportsOf_concat] at orderly now ⊢
    rw [run_concat]
    exact tracks_apply kept detects baselines
      (lasting last (List.mem_append_right _ (List.mem_singleton_self last))) orderly now

/-- At every time of a run that forgets nobody, if the reports are orderly and the traffic of all
lifetimes fits: a report is judged a restart exactly when it opens a new lifetime of a known agent, and
the kept sums are the traffic of all lifetimes of all agents. How often an agent restarts plays no part. -/
theorem exact_across_restarts {options : FleetOptions} (detects : options.detectsRestarts = true)
    (baselines : options.keepsBaselines = true) (operations : List FleetOperation)
    (lasting : ∀ operation ∈ operations, operation.isExpire = false)
    (orderly : Report.Orderly (reportsOf operations))
    (fits : ∀ earlier, earlier <+: operations → ∀ domain quantity,
      Report.lifetimeTotal (reportsOf earlier) domain quantity ≤ Counter.greatest) :
    (∀ earlier report now, earlier ++ [.report report now] <+: operations →
      (((run options earlier).report options report now).1.restarted = true ↔
        report.OpensLifetime (reportsOf earlier))) ∧
      ∀ earlier, earlier <+: operations →
        (run options earlier).ledger.sums.Represents (Report.lifetimeTotal (reportsOf earlier)) := by
  have kept (earlier : List FleetOperation) (isPrefix : earlier <+: operations) :
      (run options earlier).Tracks (reportsOf earlier) :=
    tracks_run detects baselines earlier (fun operation member => lasting operation (isPrefix.mem member))
      (Report.orderly_of_isPrefix orderly (isPrefix_reportsOf isPrefix))
      (fun before isBefore => fits before (isBefore.trans isPrefix))
  constructor
  · intro earlier report now isPrefix
    have follows := (kept earlier ((List.prefix_append _ _).trans isPrefix)).follows
    have ordered := Report.orderly_of_isPrefix orderly (isPrefix_reportsOf isPrefix)
    rw [reportsOf_concat] at ordered
    exact Roster.restarted_iff_opensLifetime follows detects ordered
  · intro earlier isPrefix
    have accounts := (kept earlier isPrefix).accounts
    exact UsageTable.represents_of_amounts accounts.reduced accounts.kept

/-- Two agents report the same domain. The first one goes on, shows a sign of life and restarts, and the
second one no longer reports the domain. -/
def restartedBeside : List FleetOperation :=
  [.report (.single "a" (.early 0) "x.org" 10) (.early 1),
    .report (.single "b" (.early 0) "x.org" 100) (.early 2),
    .report (.single "a" (.early 0) "x.org" 25) (.early 3),
    .touch "a" (.early 4),
    .report (.single "a" (.early 5) "x.org" 3) (.early 6),
    .report (.single "b" (.early 0) "y.org" 8) (.early 7)]

/-- The run with a restart is accounted for exactly at every time. -/
theorem restartedBeside_exact :
    Report.Orderly (reportsOf restartedBeside) ∧
      (∀ earlier, earlier <+: restartedBeside → ∀ domain quantity,
        Report.lifetimeTotal (reportsOf earlier) domain quantity ≤ Counter.greatest) ∧
      ((run usualOptions (restartedBeside.take 4)).report usualOptions
        (.single "a" (.early 5) "x.org" 3) (.early 6)).1.restarted = true ∧
      ∀ earlier, earlier <+: restartedBeside →
        (run usualOptions earlier).ledger.sums.Represents
          (Report.lifetimeTotal (reportsOf earlier)) := by
  have small (domain : String) (quantity : Quantity) :
      Report.amountOver (reportsOf restartedBeside) domain quantity ≤ Counter.greatest := by
    have bound (name : String) (number : UInt64) :
        ((UsageTable.single name number).amount domain quantity).toNat ≤ number.toNat :=
      UInt64.le_iff_toNat_le.mp (UsageTable.amount_single_le name number domain quantity)
    have first := bound "x.org" 10
    have second := bound "x.org" 100
    have third := bound "x.org" 25
    have fourth := bound "x.org" 3
    have fifth := bound "y.org" 8
    have numbers : (10 : UInt64).toNat = 10 ∧ (100 : UInt64).toNat = 100 ∧
        (25 : UInt64).toNat = 25 ∧ (3 : UInt64).toNat = 3 ∧ (8 : UInt64).toNat = 8 := by decide
    simp only [restartedBeside, reportsOf, List.filterMap_cons, List.filterMap_nil, report?,
      Report.amountOver, Report.single, List.map_cons, List.map_nil, List.sum_cons, List.sum_nil]
    rw [Counter.greatest]
    omega
  have orderly : Report.Orderly (reportsOf restartedBeside) := by decide +kernel
  have fits := fits_of_reports_fit small
  have lasting : ∀ operation ∈ restartedBeside, operation.isExpire = false := by decide
  obtain ⟨verdicts, sums⟩ :=
    exact_across_restarts (rfl : usualOptions.detectsRestarts = true) rfl restartedBeside lasting
      orderly fits
  refine ⟨orderly, fits, ?_, sums⟩
  apply (verdicts _ _ _ ⟨restartedBeside.drop 5, rfl⟩).mpr
  exact ⟨by decide +kernel, by decide +kernel⟩

end IncrementalFleet

end FleetTraffic
