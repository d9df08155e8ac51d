import FleetTraffic.Proofs.Fleet.Representation
import FleetTraffic.Proofs.Fleet.Roster

/-!
# One agent that never says that it restarted

An agent whose reports all tell the same startup counts as restarted only where a counter has dropped. A
report that continues the one before takes its place; where a report does not, the one before stands for
good, as part of the baseline. So a fleet of this one agent holds the traffic of the reports that stand, and
not that of the reports that were continued.
-/

namespace FleetTraffic

namespace Report

section Standing

variable {α : Type} (reportOf : α → Report)

/-- The items whose reports stand: those that the next one does not continue, and the last. -/
def standing : List α → List α
  | [] => []
  | [last] => [last]
  | first :: next :: rest =>
    if (reportOf next).Continues (reportOf first) then standing (next :: rest)
    else first :: standing (next :: rest)

/-- The items whose reports the next one continues. -/
def continued : List α → List α
  | [] => []
  | [_] => []
  | first :: next :: rest =>
    if (reportOf next).Continues (reportOf first) then first :: continued (next :: rest)
    else continued (next :: rest)

/-- The reports that stand are some of the reports. -/
theorem mem_of_mem_standing {items : List α} {item : α} (stands : item ∈ standing reportOf items) :
    item ∈ items := by
  induction items using standing.induct reportOf with
  | case1 => exact stands
  | case2 last => exact stands
  | case3 first next rest continues induction =>
    rw [standing, if_pos continues] at stands
    exact List.mem_cons_of_mem first (induction stands)
  | case4 first next rest breaks induction =>
    rw [standing, if_neg breaks] at stands
    rcases List.mem_cons.mp stands with rfl | later
    · exact List.mem_cons_self
    · exact List.mem_cons_of_mem first (induction later)

/-- Every report either stands or is continued. -/
theorem sum_standing_add_continued (number : α → Nat) (items : List α) :
    ((standing reportOf items).map number).sum + ((continued reportOf items).map number).sum =
      (items.map number).sum := by
  induction items using standing.induct reportOf with
  | case1 => rfl
  | case2 last => simp [standing, continued]
  | case3 first next rest continues induction =>
    rw [standing, if_pos continues, continued, if_pos continues]
    simp only [List.map_cons, List.sum_cons] at induction ⊢
    omega
  | case4 first next rest breaks induction =>
    rw [standing, if_neg breaks, continued, if_neg breaks]
    simp only [List.map_cons, List.sum_cons] at induction ⊢
    omega

end Standing

end Report

namespace Roster

/-- An agent that tells the same startup as before has restarted exactly when a counter has dropped. -/
theorem restarted_iff_of_same_startup {roster : Roster} {options : FleetOptions} {report previous : Report}
    (detects : options.detectsRestarts = true)
    (startup : roster.startupOf report.agentId = some report.startup)
    (latest : roster.reports.get? report.agentId = some previous)
    (same : previous.startup = report.startup) :
    (roster.detect options report).restarted = true ↔ ¬report.Continues previous := by
  obtain ⟨record, known, told⟩ := Option.map_eq_some_iff.mp startup
  constructor
  · intro restarted continues
    rw [detect_continued known latest (told.trans same.symm) continues] at restarted
    cases restarted
  · intro breaks
    have dropped : countersDropped report previous = true := by
      rw [← Bool.not_eq_false, countersDropped_eq_false_iff]
      exact fun grown => breaks ⟨same.symm, grown⟩
    have steady : ¬record.lastStartup < report.startup := by
      rw [told]
      exact Int.lt_irrefl _
    simp only [detect, detects, known, latest, if_neg steady, dropped, if_true]
    rfl

/-- What a roster holds of an agent: its startup, its latest report, and how much of a quantity its baseline
holds for a domain. -/
structure Holds (roster : Roster) (last : Report) (domain : String) (quantity : Quantity) (past : Nat) :
    Prop where
  startup : roster.startupOf last.agentId = some last.startup
  latest : roster.reports.get? last.agentId = some last
  baseline : ((roster.baselineOf last.agentId).amount domain quantity).toNat = past

variable {roster : Roster} {options : FleetOptions} {domain : String} {quantity : Quantity} {past : Nat}

/-- What an agent contributes is its baseline and its latest report. -/
theorem toNat_contribution_of_holds {last : Report} (holds : roster.Holds last domain quantity past)
    (fits : past + (last.domains.amount domain quantity).toNat ≤ Counter.greatest) :
    ((roster.contribution last.agentId).amount domain quantity).toNat =
      past + (last.domains.amount domain quantity).toNat := by
  rw [toNat_amount_contribution, holds.baseline, holds.latest, Option.toList_some,
    Report.amountOver_singleton]
  exact Nat.min_eq_left fits

/-- The first report of an agent finds no baseline. -/
theorem holds_first (options : FleetOptions) (report : Report) (now : Instant) (domain : String)
    (quantity : Quantity) :
    (Roster.observe {} options report now).2.Holds report domain quantity 0 := by
  have steady : (detect {} options report).restarted = false := detect_unknown rfl options
  refine ⟨?_, ?_, ?_⟩
  · rw [startupOf_observe, if_pos rfl, steady]
    rfl
  · rw [get?_reports_observe, if_pos rfl]
  · rw [baselineOf_unrestarted steady]
    rfl

/-- A report that continues the latest one takes its place, and before any other the latest one becomes part
of the baseline. -/
theorem holds_observe {last report : Report} (holds : roster.Holds last domain quantity past)
    (detects : options.detectsRestarts = true) (keeps : options.keepsBaselines = true)
    (own : report.agentId = last.agentId) (same : report.startup = last.startup)
    (fits : past + (last.domains.amount domain quantity).toNat ≤ Counter.greatest) (now : Instant) :
    (roster.observe options report now).2.Holds report domain quantity
      (if report.Continues last then past
        else past + (last.domains.amount domain quantity).toNat) := by
  have startup : roster.startupOf report.agentId = some report.startup := by
    rw [own, same]
    exact holds.startup
  have verdict := restarted_iff_of_same_startup detects startup (own ▸ holds.latest) same.symm
  refine ⟨?_, ?_, ?_⟩
  · rw [startupOf_observe, if_pos rfl, startup]
    simp
  · rw [get?_reports_observe, if_pos rfl]
  · split
    next continues =>
      have steady : (roster.detect options report).restarted = false := by
        rw [← Bool.not_eq_true, verdict]
        exact fun breaks => breaks continues
      rw [baselineOf_unrestarted steady, own]
      exact holds.baseline
    next breaks =>
      rw [amount_baselineOf_restarted (verdict.mpr breaks) keeps, own]
      exact toNat_contribution_of_holds holds fits

end Roster

namespace IncrementalFleet

/-- The sums of a fleet are what one agent contributes: nobody else does. -/
structure Sole (fleet : IncrementalFleet) (agent : String) : Prop where
  reduced : fleet.ledger.sums.Reduced
  sums : ∀ domain quantity, fleet.ledger.sums.amount domain quantity =
    (fleet.ledger.contributionOf agent).amount domain quantity

variable {fleet : IncrementalFleet}

/-- A report of the only agent leaves it the only one, and it contributes what the roster says. -/
theorem sole_report {agent : String} (sole : fleet.Sole agent) (options : FleetOptions) {report : Report}
    (own : report.agentId = agent) (now : Instant) :
    (fleet.report options report now).2.Sole agent ∧
      ∀ domain quantity, (fleet.report options report now).2.ledger.sums.amount domain quantity =
        ((fleet.report options report now).2.roster.contribution agent).amount domain quantity := by
  subst own
  let contribution := (fleet.roster.observe options report now).2.contribution report.agentId
  let step : LedgerChange := .replace report.agentId contribution
  have sums (domain : String) (quantity : Quantity) :
      (fleet.ledger.change step).sums.amount domain quantity = contribution.amount domain quantity := by
    rw [Ledger.amount_sums_change sole.reduced step, sole.sums]
    -- The only agent's old amount is all there is, so taking it away leaves nothing.
    apply UInt64.toNat_inj.mp
    have bound := Counter.toNat_le_greatest (contribution.amount domain quantity)
    simp only [step, LedgerChange.agent, LedgerChange.contribution, Counter.toNat_plus,
      Counter.toNat_minus, Nat.sub_self, Nat.zero_add]
    exact Nat.min_eq_left bound
  have entry : (fleet.ledger.change step).contributionOf report.agentId = contribution := by
    rw [Ledger.contributionOf_change]
    exact if_pos rfl
  refine ⟨⟨Ledger.reduced_sums_change sole.reduced step, fun domain quantity => ?_⟩, sums⟩
  exact (sums domain quantity).trans (congrArg (UsageTable.amount · domain quantity) entry.symm)

section Reports

variable {α : Type} {reportOf : α → Report} (arrival : α → Instant) {options : FleetOptions}

/-- The reports of items, in their order. -/
def reporting (reportOf : α → Report) (items : List α) : List FleetOperation :=
  items.map fun item => .report (reportOf item) (arrival item)

/-- Further reports of the same agent and startup leave sums that are made of the baseline so far and the
reports that stand, by induction on these reports. -/
theorem sums_reporting (detects : options.detectsRestarts = true) (keeps : options.keepsBaselines = true)
    {domain : String} {quantity : Quantity} {past : Nat} (first : α) (rest : List α)
    (sole : fleet.Sole (reportOf first).agentId)
    (shown : fleet.ledger.sums.amount domain quantity =
      (fleet.roster.contribution (reportOf first).agentId).amount domain quantity)
    (holds : fleet.roster.Holds (reportOf first) domain quantity past)
    (same : ∀ item ∈ rest, (reportOf item).SameLifetime (reportOf first))
    (fits : past + ((first :: rest).map fun item =>
      ((reportOf item).domains.amount domain quantity).toNat).sum ≤ Counter.greatest) :
    let final := (reporting arrival reportOf rest).foldl
      (fun fleet operation => (fleet.apply options operation).2) fleet
    (final.ledger.sums.amount domain quantity).toNat =
      past + ((Report.standing reportOf (first :: rest)).map fun item =>
        ((reportOf item).domains.amount domain quantity).toNat).sum := by
  induction rest generalizing fleet first past with
  | nil =>
    simp only [List.map_cons, List.map_nil, List.sum_cons, List.sum_nil, Nat.add_zero] at fits
    simp only [reporting, List.map_nil, List.foldl_nil, Report.standing, List.map_cons, List.sum_cons,
      List.sum_nil, Nat.add_zero]
    rw [shown]
    exact Roster.toNat_contribution_of_holds holds fits
  | cons next rest induction =>
    have lifetime := same next List.mem_cons_self
    obtain ⟨stillSole, shownNext⟩ := sole_report sole options lifetime.1 (arrival next)
    rw [← lifetime.1] at stillSole shownNext
    simp only [List.map_cons, List.sum_cons] at fits
    have holdsNext := Roster.holds_observe holds detects keeps lifetime.1 lifetime.2 (by omega)
      (arrival next)
    have alike (item : α) (member : item ∈ rest) : (reportOf item).SameLifetime (reportOf next) :=
      (same item (List.mem_cons_of_mem next member)).trans lifetime.symm
    have onward := induction next stillSole (shownNext domain quantity) holdsNext alike
    simp only [reporting, List.map_cons, List.foldl_cons, List.sum_cons] at onward ⊢
    rw [Report.standing]
    split at onward
    next continues =>
      rw [if_pos continues]
      exact onward (by omega)
    next breaks =>
      rw [if_neg breaks, List.map_cons, List.sum_cons, ← Nat.add_assoc]
      exact onward (by omega)

end Reports

end IncrementalFleet

end FleetTraffic
