import FleetTraffic.Proofs.Fleet.Representation

/-!
# Reports that come twice

A reporter that does not learn that its report has arrived sends it again. The report that comes a second time
is no restart, since it is compared with itself, and it gives its agent the contribution that the agent has
already. Taking a contribution out of the sums and putting it back leaves them as they are, even where a sum
was clamped: what is taken out fits in again. So nothing is left of the second report but its time.
-/

namespace FleetTraffic

/-- What was added can be taken out and added again, even where the sum was clamped. -/
theorem Counter.plus_minus_plus (present added : UInt64) :
    plus (minus (plus present added) added) added = plus present added := by
  apply UInt64.toNat_inj.mp
  have bound := toNat_le_greatest added
  rw [toNat_plus, toNat_minus, toNat_plus]
  omega

/-- The later of two instants is the later of itself and the second one. -/
theorem Instant.later_later (first second : Instant) :
    (first.later second).later second = first.later second := by
  simp only [later]
  split
  next => exact ite_self _
  next => rfl

/-! ## The ledger -/

namespace Ledger

section Settling

variable (domain : String) (old : Option DomainUsage) (new : DomainUsage) {sum : Option DomainUsage}
  (canonical : ∀ usage, sum = some usage → usage.Canonical)

include canonical

/-- Settling a usage once more arrives at it again: every amount that is taken out fits in again, and the time
of access is no earlier already. -/
theorem settledUsage_again :
    settledUsage domain (some new) (some new) (some (settledUsage domain old (some new) sum)) =
      settledUsage domain old (some new) sum := by
  have settled := canonical_settledUsage domain old (some new) canonical
  have again := canonical_settledUsage domain (some new) (some new) fun usage same =>
    Option.some.inj same ▸ settled
  have traffic := (DomainUsage.traffic_eq_iff again settled).mpr fun quantity => by
    rw [amount_settledUsage, DomainUsage.amount?, DomainUsage.amount?, amount_settledUsage,
      DomainUsage.amount?]
    exact Counter.plus_minus_plus _ _
  refine DomainUsage.ext_of_traffic rfl ?_ traffic
  exact Instant.later_later _ _

/-- Settling a sum once more leaves it, also where it was dropped. -/
theorem settle_again :
    settle domain (some new) (some new) (settle domain old (some new) sum) =
      settle domain old (some new) sum := by
  rw [settle_eq domain old]
  split
  next dropped =>
    have zero := dropped.resolve_left fun nothing => Option.some_ne_none new nothing.1
    have settled := canonical_settledUsage domain old (some new) canonical
    -- Nothing is left of a sum to which something was added, so nothing was added.
    have none_added (quantity : Quantity) : new.amount quantity = 0 := by
      have amount := (DomainUsage.isZero_iff settled).mp zero quantity
      rw [amount_settledUsage] at amount
      exact ((Counter.plus_eq_zero_iff _ _).mp amount).2
    have blank : (settledUsage domain (some new) (some new) none).Canonical :=
      canonical_settledUsage domain (some new) (some new) fun _ => nofun
    have zero_again : (settledUsage domain (some new) (some new) none).isZero = true := by
      refine (DomainUsage.isZero_iff blank).mpr fun quantity => ?_
      rw [amount_settledUsage, DomainUsage.amount?, DomainUsage.amount?, none_added, Counter.minus_zero,
        Counter.plus_zero]
    rw [settle_eq, if_pos (.inr zero_again)]
  next kept =>
    rw [settle_eq, settledUsage_again domain old new canonical, if_neg]
    exact fun dropped => kept (dropped.imp_left fun nothing => absurd nothing.2 (Option.some_ne_none _))

end Settling

/-- A change settles the sum of each domain to which its agent contributes now. -/
theorem get?_sums_of_listed (ledger : Ledger) {step : LedgerChange} {domain : String} {new : DomainUsage}
    (listed : step.contribution.get? domain = some new) :
    (ledger.change step).sums.get? domain =
      settle domain ((ledger.contributionOf step.agent).get? domain) (some new)
        (ledger.sums.get? domain) := by
  rw [get?_sums_change, listed]
  cases (ledger.contributionOf step.agent).get? domain <;> rfl

/-- Ledgers with the same entries and the same sums are the same. -/
theorem ext_of_maps {first second : Ledger} (entries : first.entries = second.entries)
    (sums : first.sums = second.sums) : first = second := by
  cases first
  cases second
  simp_all

/-- A change that is made twice is made once. -/
theorem change_again {ledger : Ledger} (reduced : ledger.sums.Reduced) (step : LedgerChange) :
    (ledger.change step).change step = ledger.change step := by
  apply ext_of_maps
  · apply SortedMap.ext
    intro agent
    simp only [entries_change, SortedMap.get?_alter]
    by_cases own : agent = step.agent
    · simp only [if_pos own]
    · simp only [if_neg own]
  · apply SortedMap.ext
    intro domain
    rw [get?_sums_change, contributionOf_change, if_pos rfl]
    cases listed : step.contribution.get? domain with
    | none => rfl
    | some new =>
      rw [get?_sums_of_listed ledger listed]
      exact settle_again domain _ new fun usage found => reduced.canonical domain usage found

end Ledger

/-! ## The roster -/

namespace Roster

/-- The roster after an agent was last heard from at another time. -/
def heard (roster : Roster) (agent : String) (now : Instant) : Roster :=
  { roster with records := roster.records.modify agent fun record => { record with lastHeartbeat := now } }

variable (roster : Roster) (options : FleetOptions) (report : Report) (first second : Instant)

/-- No counter of a report is smaller than it is. -/
theorem countersDropped_self : countersDropped report report = false := by
  rw [countersDropped_eq_false_iff]
  intro domain usage before listed found
  cases listed.symm.trans found
  exact ⟨UInt64.le_refl _, UInt64.le_refl _, UInt64.le_refl _, UInt64.le_refl _⟩

/-- The record of an agent after a report tells no earlier startup than the report, if restarts are looked
for: a restart takes the startup of the report over, and without one the report did not start later. -/
theorem not_later_of_observed (detects : options.detectsRestarts = true) :
    let record := updateRecord ((roster.records.get? report.agentId).getD (firstRecord report first)) report
      (roster.detect options report) first
    ¬record.lastStartup < report.startup := by
  intro record later
  simp only [record, updateRecord] at later
  cases restarted : (roster.detect options report).restarted with
  | true =>
    rw [restarted, if_pos rfl] at later
    exact Int.lt_irrefl _ later
  | false =>
    rw [restarted] at later
    cases known : roster.records.get? report.agentId with
    | none =>
      rw [known] at later
      exact Int.lt_irrefl _ later
    | some before =>
      rw [known] at later
      rw [detect_later detects known later] at restarted
      cases restarted

/-- The record of an agent after its report. -/
theorem get?_records_observe :
    (roster.observe options report first).2.records.get? report.agentId =
      some (updateRecord ((roster.records.get? report.agentId).getD (firstRecord report first)) report
        (roster.detect options report) first) := by
  rw [observe, SortedMap.get?_alter, if_pos rfl]

/-- Where the last report of an agent comes again, and did not start later than its record tells, there was
no restart. -/
theorem detect_of_latest {roster : Roster} {options : FleetOptions} {report : Report} {record : AgentRecord}
    (known : roster.records.get? report.agentId = some record)
    (last : roster.reports.get? report.agentId = some report)
    (steady : options.detectsRestarts = true → ¬record.lastStartup < report.startup) :
    roster.detect options report = .none report.startup := by
  cases detects : options.detectsRestarts with
  | false => simp only [detect, detects, Bool.false_eq_true, if_false]
  | true =>
    simp only [detect, detects, if_true, known, if_neg (steady detects), last, countersDropped_self,
      Bool.false_eq_true, if_false]

/-- Updating a record by the same report again changes the time at which its agent was last heard from. -/
theorem updateRecord_again (record : AgentRecord) (verdict : RestartVerdict) (startup : Instant) :
    let updated := updateRecord record report verdict first
    updateRecord updated report (.none startup) second = { updated with lastHeartbeat := second } := by
  simp only [updateRecord, RestartVerdict.none, Bool.false_eq_true, if_false, AgentRecord.mk.injEq, true_and,
    and_true]
  split <;> rfl

/-- A report that comes again is no restart, and changes nothing but the time at which its agent was last
heard from. -/
theorem observe_again :
    (roster.observe options report first).2.observe options report second =
      (.none report.startup, (roster.observe options report first).2.heard report.agentId second) := by
  have known := get?_records_observe roster options report first
  have last := get?_reports_observe roster options report first report.agentId
  have verdict := detect_of_latest known (last.trans (if_pos rfl))
    (not_later_of_observed roster options report first)
  generalize (roster.observe options report first).2 = once at known last verdict ⊢
  have reports : once.reports.insert report.agentId report = once.reports := by
    apply SortedMap.ext
    intro agent
    rw [SortedMap.get?_insert]
    split
    next own => rw [own, last, if_pos rfl]
    next => rfl
  have records : (once.records.alter report.agentId fun record =>
      some (updateRecord (record.getD (firstRecord report second)) report (.none report.startup) second)) =
        once.records.modify report.agentId fun record => { record with lastHeartbeat := second } := by
    apply SortedMap.ext
    intro agent
    rw [SortedMap.modify, SortedMap.get?_alter, SortedMap.get?_alter, known, Option.getD_some,
      updateRecord_again]
    rfl
  rw [observe, verdict, heard, records, reports]
  rfl

end Roster

namespace IncrementalFleet

/-- A report that comes again is absorbed, in every fleet that some operations lead to: it is no restart, even
where it was one when it came first, and it leaves the fleet as it is, but for the time at which its agent was
last heard from and the time of the last change. -/
theorem report_absorbed (options : FleetOptions) (operations : List FleetOperation) (again : Report)
    (first second : Instant) :
    let once := ((run options operations).report options again first).2
    once.report options again second =
        (.none again.startup,
          { once with roster := once.roster.heard again.agentId second, updated := some second }) ∧
      once.updated = some first ∧
      ∃ record, once.roster.records.get? again.agentId = some record ∧ record.lastHeartbeat = first := by
  intro once
  have observed : once.roster.observe options again second =
      (.none again.startup, once.roster.heard again.agentId second) :=
    Roster.observe_again (run options operations).roster options again first second
  have kept : (once.roster.heard again.agentId second).contribution again.agentId =
      once.roster.contribution again.agentId := rfl
  have absorbed : (once.ledger.replace again.agentId (once.roster.contribution again.agentId)).2 =
      once.ledger :=
    Ledger.change_again (reduced_sums options operations)
      (.replace again.agentId (once.roster.contribution again.agentId))
  refine ⟨?_, rfl, _, Roster.get?_records_observe (run options operations).roster options again first, rfl⟩
  rw [report, observed]
  simp only [kept, absorbed]

/-- The sum of a domain is clamped when one of its two agents has restarted. -/
def clampedBefore : List FleetOperation :=
  [.report (.single "a" (.early 0) "x.org" 10) (.early 1),
    .report (.single "b" (.early 0) "x.org" 18446744073709551615) (.early 2)]

/-- The report after the restart is a restart when it comes first and none when it comes again, and the sum
stays clamped. -/
theorem clampedBefore_absorbs :
    let restarted := Report.single "a" (.early 5) "x.org" 3
    let once := (run usualOptions clampedBefore).report usualOptions restarted (.early 6)
    let twice := once.2.report usualOptions restarted (.early 7)
    (once.1.restarted = true ∧ once.2.ledger.sums.amount "x.org" .accesses = 18446744073709551615) ∧
      twice.1.restarted = false ∧ twice.2.ledger = once.2.ledger ∧
      twice.2.roster.baselines = once.2.roster.baselines ∧ twice.2.updated = some (.early 7) := by
  intro restarted once twice
  have first : once.1.restarted = true ∧
      once.2.ledger.sums.amount "x.org" .accesses = 18446744073709551615 := by decide +kernel
  have second := (report_absorbed usualOptions clampedBefore restarted (.early 6) (.early 7)).1
  change twice = _ at second
  rw [second]
  exact ⟨first, rfl, rfl, rfl, rfl⟩

end IncrementalFleet

end FleetTraffic
