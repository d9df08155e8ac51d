import FleetTraffic.Proofs.Fleet.Exactness
import FleetTraffic.Proofs.Fleet.KeptSums

/-!
# Both strategies agree

The same calls take an incremental and a recomputing fleet to the same roster, so the answers to changes and
the lists of agents are the same at every time, whatever the sums are. The sums have come about in different
ways: the ones of the ledger by all the changes so far, the others by one addition over the live agents. As
long as all totals have fitted both are exact, and they are over the same agents when all agents are live.
Then the questions are answered alike, except for the times of access, which the ledger never takes back.
-/

namespace FleetTraffic

/-! ## Times of access in a view -/

/-- A view without its times of access. -/
def FleetView.untimed (view : FleetView) : FleetView := { view with domains := view.domains.untimed }

/-- The times of access play no part in the totals. -/
theorem HostTotals.ofUsages_untimed (table : UsageTable) :
    HostTotals.ofUsages table.untimed = HostTotals.ofUsages table := by
  simp only [ofUsages, SortedMap.values, UsageTable.untimed, SortedMap.mapValues, SortedMap.size,
    List.map_map, List.length_map, List.foldl_map, Function.comp_apply, DomainUsage.untimed]

/-- A view without its times of access is the view of the usages without theirs. -/
theorem FleetView.untimed_ofUsages (table : UsageTable) (sources : List String) (now : Instant) :
    (ofUsages table sources now).untimed = ofUsages table.untimed sources now := by
  rw [untimed, ofUsages, ofUsages, HostTotals.ofUsages_untimed]

/-! ## Sums over agents -/

namespace RecomputingFleet

variable (roster : Roster) (agents : List String)

/-- The sums over agents are those of their contributions, from the first to the last. -/
theorem sumOver_eq :
    sumOver roster agents =
      UsageTable.dropZeros ((agents.map roster.contribution).foldl UsageTable.add .empty) := by
  rw [sumOver, List.foldl_map]

/-- The sums over agents are reduced. -/
theorem reduced_sumOver : (sumOver roster agents).Reduced := by
  rw [sumOver_eq]
  exact UsageTable.reduced_dropZeros
    (Ledger.canonical_foldl_add _ UsageTable.reduced_empty.canonical)

/-- The sums over agents stand under their own names. -/
theorem named_sumOver : (sumOver roster agents).Named := by
  rw [sumOver_eq]
  exact UsageTable.named_dropZeros (UsageTable.tidy_foldl_add _ UsageTable.tidy_empty).named

/-- The sums over agents are the exact ones, clamped once. -/
theorem toNat_amount_sumOver (domain : String) (quantity : Quantity) :
    ((sumOver roster agents).amount domain quantity).toNat =
      min ((agents.map fun agent => ((roster.contribution agent).amount domain quantity).toNat).sum)
        Counter.greatest := by
  have canonical := Ledger.canonical_foldl_add (agents.map roster.contribution)
    UsageTable.reduced_empty.canonical
  rw [sumOver_eq, UsageTable.amount_dropZeros canonical, Ledger.amount_foldl_add,
    UsageTable.amount_empty, UInt64.toNat_zero, Nat.zero_add, List.map_map]
  rfl

end RecomputingFleet

/-- As long as all totals have fitted, the sums that were kept up to date differ from the sums over all agents
at most in their times of access. -/
theorem IncrementalFleet.untimed_sums_run (options : FleetOptions) (operations : List FleetOperation)
    (fits : ∀ earlier, earlier <+: operations → (Roster.run options earlier).Fits) :
    (run options operations).ledger.sums.untimed =
      (RecomputingFleet.sumOver (Roster.run options operations)
        (Roster.run options operations).records.keys).untimed := by
  have precise : (run options operations).ledger.Exact :=
    exact_run options operations fun earlier isPrefix =>
      (fits_run_iff options earlier).mpr (fits earlier isPrefix)
  apply UsageTable.untimed_eq (tidy_sums options operations).named
    (RecomputingFleet.named_sumOver _ _)
  apply (UsageTable.sameTraffic_iff (reduced_sums options operations)
    (RecomputingFleet.reduced_sumOver _ _)).mpr
  intro domain quantity
  have total := total_eq_roster (mirrors_run options operations) (coherent_roster options operations)
    domain quantity
  apply UInt64.toNat_inj.mp
  calc ((run options operations).ledger.sums.amount domain quantity).toNat
      = (Roster.run options operations).total domain quantity := by
        rw [precise domain quantity, total, roster_run]
    _ = min ((Roster.run options operations).total domain quantity) Counter.greatest :=
        (Nat.min_eq_left (fits operations (List.prefix_refl _) domain quantity)).symm
    _ = _ := (RecomputingFleet.toNat_amount_sumOver _ _ domain quantity).symm

/-! ## Live agents -/

/-- Every agent of the roster was heard from within a time. -/
def Roster.AllLive (roster : Roster) (timeout : Duration) (now : Instant) : Prop :=
  ∀ record ∈ roster.records.values, isLive record timeout now = true

instance (roster : Roster) (timeout : Duration) (now : Instant) : Decidable (roster.AllLive timeout now) :=
  inferInstanceAs (Decidable (∀ record ∈ _, _))

/-- A summary says that its agent is online exactly if the record is live. -/
theorem Roster.status_summarize_iff (record : AgentRecord) (timeout : Duration) (now : Instant) :
    (summarize timeout now record).status = .online ↔ isLive record timeout now = true := by
  rw [summarize]
  split
  next live => exact ⟨fun _ => live, fun _ => rfl⟩
  next silent => exact ⟨fun impossible => (nomatch impossible), fun live => absurd live silent⟩

/-- When all agents are live, the live agents are the known ones. -/
theorem Roster.liveAgents_of_allLive {roster : Roster} (coherent : roster.Coherent) {timeout : Duration}
    {now : Instant} (live : roster.AllLive timeout now) :
    roster.liveAgents timeout now = roster.records.keys := by
  have kept : (roster.records.filter fun _ record => isLive record timeout now) = roster.records :=
    SortedMap.filter_eq_self _ fun entry member => live entry.2 (List.mem_map_of_mem member)
  rw [liveAgents, agents_of_records coherent, kept]

/-- When all agents are live, a recomputing fleet finds the sums over all of them. -/
theorem RecomputingFleet.sums_of_allLive (options : FleetOptions) (keep : Nat)
    (calls : List FleetCall) (age : Nat) {now : Instant}
    (live : (Roster.run options (FleetCall.changes calls)).AllLive options.timeout now) :
    ((run options keep calls).sums options keep age now).1.sums =
      sumOver (Roster.run options (FleetCall.changes calls))
        (Roster.run options (FleetCall.changes calls)).records.keys := by
  rw [sums_of_fresh (fresh_run options keep calls), roster_run,
    Roster.liveAgents_of_allLive (Roster.coherent_run options _) live]

namespace Fleet

open IncrementalFleet (usualOptions)

/-! ## The same calls on both -/

/-- After the same calls both fleets have the same roster. -/
theorem roster_afterAll (options : FleetOptions) (keep : Duration) (calls : List FleetCall) :
    ((incremental options {}).afterAll calls).roster = Roster.run options (FleetCall.changes calls) ∧
      ((recomputing options keep {}).afterAll calls).roster =
        Roster.run options (FleetCall.changes calls) := by
  rw [afterAll_incremental, afterAll_recomputing]
  exact ⟨IncrementalFleet.roster_run options _, RecomputingFleet.roster_run options _ calls⟩

/-- Under any settings the roster is made by the changes among the calls alone, and agents are treated as the
settings say. -/
theorem roster_ofSettings (settings : AggregationSettings) (calls : List FleetCall) :
    ((ofSettings settings).afterAll calls).roster =
        Roster.run settings.options (FleetCall.changes calls) ∧
      ((ofSettings settings).afterAll calls).options = settings.options := by
  obtain ⟨adding, resumming⟩ := roster_afterAll settings.options (.ofSeconds settings.cacheTtl) calls
  rw [ofSettings]
  split
  next => exact ⟨adding, by rw [afterAll_incremental, options]⟩
  next => exact ⟨resumming, by rw [afterAll_recomputing, options]⟩

/-- Totals that fit after every part of the calls fit after every part of the changes. -/
theorem fits_changes {options : FleetOptions} {calls : List FleetCall}
    (fits : ∀ earlier, earlier <+: calls → ((incremental options {}).afterAll earlier).roster.Fits) :
    ∀ earlier, earlier <+: FleetCall.changes calls → (Roster.run options earlier).Fits := by
  intro earlier isPrefix
  obtain ⟨before, isBefore, rfl⟩ := List.prefix_filterMap_iff.mp isPrefix
  have fitted := fits before isBefore
  rw [(roster_afterAll options ⟨0⟩ before).1] at fitted
  exact fitted

/-- Either strategy answers a change as the roster does. -/
theorem answer_apply (fleet : Fleet) (operation : FleetOperation) :
    (fleet.apply operation).1 = (fleet.roster.apply fleet.options operation).1 := by
  cases fleet with
  | incremental options fleet => exact congrArg Prod.fst (fleet.apply_roster options operation)
  | recomputing options keep fleet =>
    exact congrArg Prod.fst (fleet.apply_roster options operation)

/-- With the same roster, and with sums that differ at most in their times of access, both strategies answer
every question alike. -/
theorem questions_agree (options : FleetOptions) (keep : Duration) {adding : IncrementalFleet}
    {resumming : RecomputingFleet} (roster : adding.roster = resumming.roster) (fresh : resumming.Fresh)
    {age : Nat} {now : Instant}
    (same : adding.ledger.sums.untimed =
      (resumming.sums options keep.nanos age now).1.sums.untimed) :
    ((incremental options adding).view age now).1.untimed =
        ((recomputing options keep resumming).view age now).1.untimed ∧
      ((incremental options adding).stats age now).1 =
        ((recomputing options keep resumming).stats age now).1 ∧
      ∀ domain, ((incremental options adding).usage? age now domain).1.map DomainUsage.untimed =
        ((recomputing options keep resumming).usage? age now domain).1.map
          DomainUsage.untimed := by
  have sources : (resumming.sums options keep.nanos age now).1.sources =
      adding.roster.liveAgents options.timeout now := by
    rw [RecomputingFleet.sums_of_fresh fresh, roster]
  refine ⟨?_, ?_, ?_⟩
  · simp only [view, IncrementalFleet.view, RecomputingFleet.view, FleetView.untimed_ofUsages, same,
      sources]
  · have sizes := congrArg SortedMap.size same
    rw [UsageTable.size_untimed, UsageTable.size_untimed] at sizes
    simp only [stats, IncrementalFleet.stats, RecomputingFleet.stats, sizes, sources, roster]
  · intro domain
    simp only [usage?, IncrementalFleet.usage?, RecomputingFleet.usage?, ← UsageTable.get?_untimed, same]

/-- After any calls, with the same options and at the same times, the incremental and the recomputing strategy
give the same answer to every change and list the same agents with the same status, however long sums are
kept. If all totals fitted at every time, then whenever all known agents are live the strategies also show the
same: the same sources, totals of the fleet and numbers, and the same usages of the same domains up to their
times of access. -/
theorem strategies_agree (options : FleetOptions) (keep : Duration) (calls : List FleetCall) :
    let adding := (incremental options {}).afterAll calls
    let resumming := (recomputing options keep {}).afterAll calls
    ((∀ operation, (adding.apply operation).1 = (resumming.apply operation).1) ∧
      adding.agents = resumming.agents ∧
      ∀ now, adding.summaries now = resumming.summaries now) ∧
    ((∀ earlier, earlier <+: calls → ((incremental options {}).afterAll earlier).roster.Fits) →
      ∀ age now, adding.roster.AllLive options.timeout now →
        (adding.view age now).1.untimed = (resumming.view age now).1.untimed ∧
        (adding.stats age now).1 = (resumming.stats age now).1 ∧
        ∀ domain, (adding.usage? age now domain).1.map DomainUsage.untimed =
          (resumming.usage? age now domain).1.map DomainUsage.untimed) := by
  intro adding resumming
  have added : adding =
      .incremental options (IncrementalFleet.run options (FleetCall.changes calls)) :=
    afterAll_incremental options calls
  have resummed : resumming =
      .recomputing options keep
        (RecomputingFleet.run options keep.nanos calls) :=
    afterAll_recomputing options keep calls
  obtain ⟨kept, kept'⟩ := roster_afterAll options keep calls
  have roster : adding.roster = resumming.roster := kept.trans kept'.symm
  have sameOptions : adding.options = resumming.options := by
    rw [added, resummed]
    rfl
  refine ⟨⟨?_, ?_, ?_⟩, ?_⟩
  · intro operation
    rw [answer_apply, answer_apply, roster, sameOptions]
  · rw [agents, agents, roster]
  · intro now
    rw [summaries, summaries, roster, sameOptions]
  · intro fits age now live
    have all : (Roster.run options (FleetCall.changes calls)).AllLive options.timeout now := kept ▸ live
    -- The ledger holds the sums over all known agents, and just now these are the live ones.
    have same := IncrementalFleet.untimed_sums_run options _ (fits_changes fits)
    rw [← RecomputingFleet.sums_of_allLive options _ calls age all] at same
    rw [added, resummed] at roster ⊢
    exact questions_agree options keep roster
      (RecomputingFleet.fresh_run options _ calls) same

/-- Two agents report the same domain and one of them restarts, with questions in between, so that sums are
found again, taken as they are and dropped. -/
def askedBetween : List FleetCall :=
  [.change (.report (.single "a" (.early 0) "x.org" 10) (.early 1)),
    .view 0 (.early 2),
    .change (.touch "c" (.early 3)),
    .stats 1 (.early 3),
    .change (.report (.single "b" (.early 0) "x.org" 100) (.early 4)),
    .usage 0 (.early 5) "x.org",
    .change (.report (.single "a" (.early 5) "y.org" 3) (.early 6)),
    .view 0 (.early 7)]

/-- Both strategies answer the questions alike while both agents are live, here with sums that were kept. -/
theorem askedBetween_agrees :
    let adding := (incremental usualOptions {}).afterAll askedBetween
    let resumming := (recomputing usualOptions (.ofSeconds 5) {}).afterAll askedBetween
    ((∀ earlier, earlier <+: askedBetween →
        ((incremental usualOptions {}).afterAll earlier).roster.Fits) ∧
      adding.roster.AllLive usualOptions.timeout (.early 8)) ∧
    (resumming.view 3 (.early 8)).1.sources = ["a", "b"] ∧
    (adding.view 3 (.early 8)).1.untimed = (resumming.view 3 (.early 8)).1.untimed ∧
    (adding.stats 3 (.early 8)).1 = (resumming.stats 3 (.early 8)).1 ∧
    ∀ domain, (adding.usage? 3 (.early 8) domain).1.map DomainUsage.untimed =
      (resumming.usage? 3 (.early 8) domain).1.map DomainUsage.untimed := by
  intro adding resumming
  have small : ∀ earlier ∈ askedBetween.inits,
      (IncrementalFleet.run usualOptions (FleetCall.changes earlier)).ledger.Small 110 := by
    decide +kernel
  have fits (earlier : List FleetCall) (isPrefix : earlier <+: askedBetween) :
      ((incremental usualOptions {}).afterAll earlier).roster.Fits := by
    rw [(roster_afterAll _ ⟨0⟩ earlier).1, ← IncrementalFleet.fits_run_iff]
    exact Ledger.fits_of_small (small earlier ((List.mem_inits earlier askedBetween).mpr isPrefix))
  have live : adding.roster.AllLive usualOptions.timeout (.early 8) := by decide +kernel
  have sources : (resumming.view 3 (.early 8)).1.sources = ["a", "b"] := by decide +kernel
  exact ⟨⟨fits, live⟩, sources,
    (strategies_agree usualOptions (.ofSeconds 5) askedBetween).2 fits 3 (.early 8) live⟩

end Fleet

end FleetTraffic
