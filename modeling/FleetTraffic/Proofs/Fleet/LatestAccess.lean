import FleetTraffic.Proofs.Fleet.Exactness
import FleetTraffic.Proofs.Ledger.AccessTimes

/-!
# The latest access of a domain

The kept sums show for each domain when it was last accessed, and no later time in an entry escapes them as
long as the entry has traffic, in whatever order the agents report. Only an idle entry, one without traffic,
can be later than the sum: it came when the domain had no sum, or the sum was dropped since, and what came
into the sum afterwards is earlier. The sums from scratch take the time of such an entry up.
-/

namespace FleetTraffic

/-- The report with another time of access for all its domains. -/
def Report.accessedAt (report : Report) (time : Instant) : Report :=
  { report with domains := report.domains.mapValues fun _ usage => { usage with lastAccess := time } }

namespace IncrementalFleet

/-! ## Every change of the ledger -/

/-- With one operation more the history goes on with the changes that it makes. -/
theorem ledgerHistory_concat (options : FleetOptions) (operations : List FleetOperation)
    (last : FleetOperation) :
    ledgerHistory options (operations ++ [last]) =
      ledgerHistory options operations ++ (run options operations).ledgerChanges options last := by
  have goesOn (fleet : IncrementalFleet) :
      ledgerHistoryFrom options fleet (operations ++ [last]) =
        ledgerHistoryFrom options fleet operations ++
          (operations.foldl (fun fleet operation => (fleet.apply options operation).2) fleet).ledgerChanges
            options last := by
    induction operations generalizing fleet with
    | nil => simp only [List.nil_append, ledgerHistoryFrom, List.append_nil, List.foldl_nil]
    | cons operation rest inductionHypothesis =>
      rw [List.cons_append, ledgerHistoryFrom, inductionHypothesis, ledgerHistoryFrom,
        List.append_assoc, List.foldl_cons]
  exact goesOn {}

/-- Totals that fit before and after an operation fit after each of the changes that it makes. -/
theorem fits_ledgerChanges {fleet : IncrementalFleet} (reduced : fleet.ledger.sums.Reduced)
    (precise : fleet.ledger.Exact) (fitsBefore : fleet.ledger.Fits) (options : FleetOptions)
    (operation : FleetOperation) (fitsAfter : (fleet.apply options operation).2.ledger.Fits)
    {part : List LedgerChange} (isPrefix : part <+: fleet.ledgerChanges options operation) :
    (part.foldl Ledger.change fleet.ledger).Fits := by
  cases operation with
  | report report now =>
    rcases List.prefix_concat_iff.mp (show part <+: [] ++ [_] from isPrefix) with rfl | nothing
    · exact fitsAfter
    · rw [List.prefix_nil.mp nothing]
      exact fitsBefore
  | touch agent now =>
    rw [List.prefix_nil.mp isPrefix]
    exact fitsBefore
  | heartbeat heartbeat now =>
    rw [List.prefix_nil.mp isPrefix]
    exact fitsBefore
  | expire maxAge now =>
    obtain ⟨agents, _, rfl⟩ := List.prefix_map_iff.mp isPrefix
    exact (Ledger.exact_foldl_remove agents reduced precise fitsBefore).2

/-- Totals that fit after every operation fit after every change of the ledger. -/
theorem fits_ledgerHistory (options : FleetOptions) (operations : List FleetOperation)
    (fits : ∀ earlier, earlier <+: operations → (run options earlier).ledger.Fits) :
    ∀ earlier, earlier <+: ledgerHistory options operations → (Ledger.run earlier).Fits := by
  induction operations using List.reverseRecOn with
  | nil =>
    intro earlier isPrefix
    rw [List.prefix_nil.mp isPrefix]
    exact fits [] (List.prefix_refl _)
  | append_singleton before last inductionHypothesis =>
    have isBefore : before <+: before ++ [last] := List.prefix_append before [last]
    have fitted : ∀ earlier, earlier <+: before → (run options earlier).ledger.Fits :=
      fun earlier isEarlier => fits earlier (isEarlier.trans isBefore)
    have fitsAfter := fits _ (List.prefix_refl _)
    rw [run_concat] at fitsAfter
    intro earlier isPrefix
    rw [ledgerHistory_concat] at isPrefix
    rcases List.prefix_or_prefix_of_prefix isPrefix (List.prefix_append _ _) with inside | ⟨part, rfl⟩
    · exact inductionHypothesis fitted earlier inside
    · have isPart := (List.prefix_append_right_inj _).mp isPrefix
      rw [Ledger.run, List.foldl_append, ← Ledger.run, ← ledger_run]
      exact fits_ledgerChanges (reduced_sums options before) (exact_run options before fitted)
        (fits before isBefore) options last fitsAfter isPart

/-! ## What the sums show -/

/-- While all totals fit, the sum of a domain shows an earlier access than an entry exactly if the entry is
idle, and its time is later than the epoch and than every time that came into the sum since the domain last
had none. The sums from scratch show a later access than the kept ones exactly if there is such an entry. -/
theorem sum_before_entry_iff (options : FleetOptions) (operations : List FleetOperation)
    (fits : ∀ earlier, earlier <+: operations → (run options earlier).ledger.Fits) {domain : String}
    {sum : DomainUsage} (found : (run options operations).ledger.sums.get? domain = some sum) :
    let ledger := (run options operations).ledger
    (∀ agent usage, (ledger.contributionOf agent).get? domain = some usage →
      (sum.lastAccess < usage.lastAccess ↔
        usage.isZero = true ∧ .epoch < usage.lastAccess ∧
          ∀ time, Ledger.Absorbed (ledgerHistory options operations) domain time →
            time < usage.lastAccess)) ∧
    ∀ resummed, ledger.resum.get? domain = some resummed →
      (sum.lastAccess < resummed.lastAccess ↔
        ∃ agent usage, (ledger.contributionOf agent).get? domain = some usage ∧
          usage.isZero = true ∧ sum.lastAccess < usage.lastAccess) := by
  intro ledger
  have history : ledger = Ledger.run (ledgerHistory options operations) := ledger_run options operations
  have latest := Ledger.latest_run (ledgerHistory options operations) domain
  rw [← history, UsageTable.accessTime_of_get? found] at latest
  -- An entry with traffic is in the sum, which is then no earlier.
  have idle (agent : String) (usage : DomainUsage)
      (listed : (ledger.contributionOf agent).get? domain = some usage)
      (before : sum.lastAccess < usage.lastAccess) : usage.isZero = true := by
    have tidy : (ledger.contributionOf agent).Tidy := by
      rw [contributionOf_of_mirrors (mirrors_run options operations)]
      exact Roster.tidy_contribution (coherent_roster options operations) agent
    apply (DomainUsage.isZero_iff (tidy.canonical domain usage listed)).mpr
    by_contra someTraffic
    obtain ⟨quantity, busy⟩ := Classical.not_forall.mp someTraffic
    rw [history] at listed
    exact latest.notBefore _ (Ledger.absorbed_of_traffic _ (fits_ledgerHistory options operations fits)
      listed busy) before
  refine ⟨?_, ?_⟩
  · intro agent usage listed
    constructor
    · intro before
      exact ⟨idle agent usage listed before, Instant.lt_of_not_lt_of_lt latest.notBeforeEpoch before,
        fun time absorbed => Instant.lt_of_not_lt_of_lt (latest.notBefore time absorbed) before⟩
    · rintro ⟨_, afterEpoch, afterAbsorbed⟩
      rcases latest.attained with epoch | absorbed
      · rw [epoch]
        exact afterEpoch
      · exact afterAbsorbed _ absorbed
  · intro resummed found'
    rw [Ledger.lt_lastAccess_resum ledger found', or_iff_right latest.notBeforeEpoch]
    apply exists_congr
    intro agent
    apply exists_congr
    intro usage
    exact and_congr_right fun listed =>
      ⟨fun before => ⟨idle agent usage listed before, before⟩, And.right⟩

/-- An agent reports five accesses of a domain. -/
def busyReport : Report := (Report.single "b" .epoch "x.org" 5).accessedAt (.early 3)

/-- Another agent reports no access of the domain, but a later time of access. -/
def idleReport : Report := (Report.single "a" .epoch "x.org" 0).accessedAt (.early 10)

/-- The idle agent reports after the busy one. -/
def idleLast : List FleetOperation := [.report busyReport (.early 20), .report idleReport (.early 30)]

/-- The idle agent reports before the busy one. -/
def idleFirst : List FleetOperation := [.report idleReport (.early 20), .report busyReport (.early 30)]

/-- An idle entry that comes into a sum is not later than it: its own time, or a later one, was absorbed. -/
theorem idleLast_absorbed :
    (∀ earlier, earlier <+: idleLast → (run usualOptions earlier).ledger.Fits) ∧
      ∃ sum usage, (run usualOptions idleLast).ledger.sums.get? "x.org" = some sum ∧
        ((run usualOptions idleLast).ledger.contributionOf "a").get? "x.org" = some usage ∧
        usage.isZero = true ∧ sum.lastAccess = .early 10 ∧ usage.lastAccess = .early 10 ∧
        ∃ time, Ledger.Absorbed (ledgerHistory usualOptions idleLast) "x.org" time ∧
          ¬time < usage.lastAccess := by
  have small : ∀ earlier ∈ idleLast.inits, (run usualOptions earlier).ledger.Small 5 := by
    decide +kernel
  have fits (earlier : List FleetOperation) (isPrefix : earlier <+: idleLast) :
      (run usualOptions earlier).ledger.Fits :=
    Ledger.fits_of_small (small earlier ((List.mem_inits earlier idleLast).mpr isPrefix))
  have shown : ((run usualOptions idleLast).ledger.sums.get? "x.org").map DomainUsage.lastAccess =
      some (.early 10) := by decide +kernel
  have held : (((run usualOptions idleLast).ledger.contributionOf "a").get? "x.org").map
      (fun usage => (usage.isZero, usage.lastAccess)) = some (true, .early 10) := by decide +kernel
  obtain ⟨sum, found, late⟩ := Option.map_eq_some_iff.mp shown
  obtain ⟨usage, listed, entry⟩ := Option.map_eq_some_iff.mp held
  obtain ⟨idle, time⟩ := Prod.mk.inj entry
  refine ⟨fits, sum, usage, found, listed, idle, late, time, ?_⟩
  by_contra! allBefore
  have before := ((sum_before_entry_iff usualOptions idleLast fits found).1 "a" usage listed).mpr
    ⟨idle, time ▸ by decide, allBefore⟩
  rw [late, time] at before
  exact Instant.not_lt_self _ before

/-- An idle entry that came first is forgotten: the sum that the other agent's report makes shows an earlier
access than the entry, and than the sums from scratch. -/
theorem idleFirst_forgets_access :
    let ledger := (run usualOptions idleFirst).ledger
    (∀ earlier, earlier <+: idleFirst → (run usualOptions earlier).ledger.Fits) ∧
      ledger.sums.contains "x.org" = true ∧
      (ledger.contributionOf "a").contains "x.org" = true ∧
      ledger.sums.accessTime "x.org" < (ledger.contributionOf "a").accessTime "x.org" ∧
      ledger.sums.accessTime "x.org" < ledger.resum.accessTime "x.org" := by
  have small : ∀ earlier ∈ idleFirst.inits, (run usualOptions earlier).ledger.Small 5 := by
    decide +kernel
  refine ⟨?_, by decide +kernel, by decide +kernel, by decide +kernel, by decide +kernel⟩
  intro earlier isPrefix
  exact Ledger.fits_of_small (small earlier ((List.mem_inits earlier idleFirst).mpr isPrefix))

end IncrementalFleet

end FleetTraffic
