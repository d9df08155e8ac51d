import FleetTraffic.Proofs.Fleet.Expiry
import FleetTraffic.Proofs.Fleet.Representation

/-!
# Sums that never go back

A report replaces what its agent contributed before. If the report shows a restart, the old contribution
becomes the baseline and the new one stands on top of it; if it does not, no counter of a domain that it
reports has dropped. Either way the new contribution is at least the old one, and a sum that loses the old
contribution and gains the new one does not go back, even where it had stopped at the greatest counter and
is smaller than what is taken away from it.
-/

namespace FleetTraffic

/-- The quantities that are counters. -/
def Quantity.counters : List Quantity := [.accesses, .bytesSent, .bytesReceived, .connections]

/-- The counters of a usage that may be missing, in which case they are zero. -/
def DomainUsage.countersOf (usage : Option DomainUsage) : Counters :=
  (usage.map DomainUsage.counters).getD {}

/-- Counters are at least others when each of them is, read as quantities. -/
theorem DomainUsage.atLeast_countersOf_iff (now before : Option DomainUsage) :
    (countersOf now).AtLeast (countersOf before) ↔
      ∀ quantity ∈ Quantity.counters, amount? quantity before ≤ amount? quantity now := by
  simp only [Quantity.counters, List.mem_cons, List.not_mem_nil, or_false, forall_eq_or_imp, forall_eq]
  cases now <;> cases before <;> rfl

/-- A sum does not go back when the contribution that is exchanged does not. -/
theorem Ledger.le_sums_change {ledger : Ledger} (reduced : ledger.sums.Reduced) (step : LedgerChange)
    {domain : String} {quantity : Quantity}
    (grown : (ledger.contributionOf step.agent).amount domain quantity ≤
      step.contribution.amount domain quantity) :
    ledger.sums.amount domain quantity ≤ (ledger.change step).sums.amount domain quantity := by
  have counter := Counter.toNat_le_greatest (ledger.sums.amount domain quantity)
  -- A sum below what is taken away stops at zero, and is then raised by at least as much as it had.
  rw [UInt64.le_iff_toNat_le] at grown ⊢
  rw [amount_sums_change reduced, Counter.toNat_plus, Counter.toNat_minus]
  omega

namespace Roster

variable {roster : Roster} {options : FleetOptions} {report : Report}

/-- With a restart no quantity of a contribution goes back: the old contribution is the new baseline. -/
theorem contribution_le_of_restarted (keeps : options.keepsBaselines = true)
    (restarted : (roster.detect options report).restarted = true) (now : Instant) (domain : String)
    (quantity : Quantity) :
    (roster.contribution report.agentId).amount domain quantity ≤
      ((roster.observe options report now).2.contribution report.agentId).amount domain quantity := by
  have counter := Counter.toNat_le_greatest
    ((roster.contribution report.agentId).amount domain quantity)
  rw [UInt64.le_iff_toNat_le, toNat_amount_contribution (roster.observe options report now).2,
    amount_baselineOf_restarted restarted keeps]
  omega

/-- Without a restart no counter has dropped since the report before. -/
theorem grown_of_steady (coherent : roster.Coherent) (detects : options.detectsRestarts = true)
    (steady : (roster.detect options report).restarted = false) {previous : Report}
    (last : roster.reports.get? report.agentId = some previous) :
    countersDropped report previous = false := by
  have known : (roster.records.get? report.agentId).isSome = true := by
    have together := (coherent report.agentId).together
    simpa only [fileOf, last, Option.isSome_some] using together
  obtain ⟨record, found⟩ := Option.isSome_iff_exists.mp known
  by_cases later : record.lastStartup < report.startup
  · rw [detect_later detects found later] at steady
    cases steady
  · cases dropped : countersDropped report previous with
    | false => rfl
    | true =>
      simp [detect, detects, found, later, last, dropped, RestartVerdict.restart] at steady

/-- Without a restart no counter of a reported domain goes back: the baseline stays, and the report has at
least the counters of the one before. -/
theorem contribution_le_of_steady (coherent : roster.Coherent)
    (detects : options.detectsRestarts = true)
    (steady : (roster.detect options report).restarted = false) (now : Instant) {domain : String}
    {usage : DomainUsage} (reported : report.domains.get? domain = some usage) {quantity : Quantity}
    (counter : quantity ∈ Quantity.counters) :
    (roster.contribution report.agentId).amount domain quantity ≤
      ((roster.observe options report now).2.contribution report.agentId).amount domain quantity := by
  have grown : Report.amountOver (roster.reports.get? report.agentId).toList domain quantity ≤
      (report.domains.amount domain quantity).toNat := by
    cases last : roster.reports.get? report.agentId with
    | none => exact Nat.zero_le _
    | some previous =>
      rw [Option.toList_some, Report.amountOver_singleton, ← UInt64.le_iff_toNat_le,
        UsageTable.amount_of_get? reported]
      cases found : previous.domains.get? domain with
      | none =>
        rw [UsageTable.amount_of_not_listed found]
        exact UInt64.zero_le
      | some before =>
        have atLeast := (countersDropped_eq_false_iff report previous).mp
          (grown_of_steady coherent detects steady last) domain usage before reported found
        rw [UsageTable.amount_of_get? found]
        exact (DomainUsage.atLeast_countersOf_iff (some usage) (some before)).mp atLeast quantity counter
  rw [UInt64.le_iff_toNat_le, toNat_amount_contribution,
    toNat_amount_contribution (roster.observe options report now).2, baselineOf_unrestarted steady,
    get?_reports_observe, if_pos rfl, Option.toList_some, Report.amountOver_singleton]
  omega

end Roster

namespace IncrementalFleet

/-- In a fleet that looks for restarts and keeps baselines, whatever happened to it before, a report sets
no counter back in a domain that it reports, and none at all if it is judged a restart. How often an agent
has restarted plays no part, nor whether additions have stopped at the greatest counter. -/
theorem counters_never_drop {options : FleetOptions} (detects : options.detectsRestarts = true)
    (keeps : options.keepsBaselines = true) (operations : List FleetOperation) (report : Report)
    (now : Instant) (domain : String)
    (covered : report.domains.contains domain = true ∨
      ((run options operations).report options report now).1.restarted = true) :
    (DomainUsage.countersOf
        (((run options operations).report options report now).2.usage? domain)).AtLeast
      (DomainUsage.countersOf ((run options operations).usage? domain)) := by
  have mirrors : (run options operations).Mirrors := mirrors_run options operations
  have coherent : (run options operations).roster.Coherent := coherent_roster options operations
  have reduced : (run options operations).ledger.sums.Reduced := reduced_sums options operations
  apply (DomainUsage.atLeast_countersOf_iff _ _).mpr
  intro quantity counter
  have grown : ((run options operations).ledger.contributionOf report.agentId).amount domain quantity ≤
      (((run options operations).roster.observe options report now).2.contribution
        report.agentId).amount domain quantity := by
    rw [contributionOf_of_mirrors mirrors]
    by_cases restarted : ((run options operations).roster.detect options report).restarted = true
    · exact Roster.contribution_le_of_restarted keeps restarted now domain quantity
    · have reported : report.domains.contains domain = true := covered.resolve_right restarted
      obtain ⟨usage, found⟩ := (SortedMap.contains_iff _ domain).mp reported
      exact Roster.contribution_le_of_steady coherent detects (Bool.eq_false_of_not_eq_true restarted)
        now found counter
  exact Ledger.le_sums_change reduced (.replace report.agentId _) grown

/-- In the overfull domain, whose sum had stopped at the greatest counter, the restart of an agent that no
longer reports it sets nothing back. -/
theorem overfull_restart_keeps_counters :
    ((run usualOptions overfull).report usualOptions (.single "b" (.early 40) "y.org" 1)
        (.early 45)).1.restarted = true ∧
      (DomainUsage.countersOf
          (((run usualOptions overfull).report usualOptions (.single "b" (.early 40) "y.org" 1)
            (.early 45)).2.usage? "x.org")).AtLeast
        (DomainUsage.countersOf ((run usualOptions overfull).usage? "x.org")) := by
  have restarted : ((run usualOptions overfull).report usualOptions
      (.single "b" (.early 40) "y.org" 1) (.early 45)).1.restarted = true := by decide +kernel
  exact ⟨restarted, counters_never_drop rfl rfl overfull _ _ "x.org" (.inr restarted)⟩

end IncrementalFleet

end FleetTraffic
