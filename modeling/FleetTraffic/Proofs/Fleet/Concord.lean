import FleetTraffic.Proofs.Fleet.Replies
import FleetTraffic.Proofs.Fleet.Strategies

/-!
# All answers describe one fleet

The agents, their status, the view of the fleet, its numbers and the usage of one domain are asked for one by
one, and each answer is found in its own way: from the records, from the sums of a ledger, from sums that are
added up when asked for or were kept from an earlier question. At any one time they fit together all the same.
What they rest on is that a record stands under the name of its agent, and that sums bear their names and have
traffic; both strategies keep this, so the answers of either are put together here from a roster and a table.
-/

namespace FleetTraffic

/-- Clamping at every addition is clamping once. -/
theorem Counter.toNat_foldl_plus {α : Type} (number : α → UInt64) (values : List α) (start : UInt64) :
    (values.foldl (fun sum value => plus sum (number value)) start).toNat =
      min (start.toNat + (values.map fun value => (number value).toNat).sum) greatest := by
  induction values generalizing start with
  | nil =>
    have bound := toNat_le_greatest start
    simp only [List.foldl_nil, List.map_nil, List.sum_nil]
    omega
  | cons value rest inductionHypothesis =>
    rw [List.foldl_cons, inductionHypothesis, toNat_plus, List.map_cons, List.sum_cons]
    omega

namespace HostTotals

/-- The totals with the traffic of one usage added. -/
def plusUsage (totals : HostTotals) (usage : DomainUsage) : HostTotals :=
  { totals with
    connections := Counter.plus totals.connections usage.counters.connections
    bytesSent := Counter.plus totals.bytesSent usage.counters.bytesSent
    bytesReceived := Counter.plus totals.bytesReceived usage.counters.bytesReceived }

/-- A part of the totals is found from the usages alone, if each usage changes it by itself. -/
theorem part_ofUsages {α : Type} (part : HostTotals → α) (change : α → DomainUsage → α)
    (changes : ∀ totals usage, part (plusUsage totals usage) = change (part totals) usage)
    (table : UsageTable) :
    part (ofUsages table) =
      table.values.foldl change (part { activeDomains := UInt64.ofNat table.size }) :=
  (List.foldl_hom part fun totals usage => (changes totals usage).symm).symm

/-- A total to which every usage adds a number is the sum of these numbers over the table, clamped once. -/
theorem toNat_part_ofUsages (part : HostTotals → UInt64) (number : DomainUsage → UInt64)
    (grows : ∀ totals usage, part (plusUsage totals usage) = Counter.plus (part totals) (number usage))
    (starts : ∀ activeDomains, part { activeDomains } = 0) (table : UsageTable) :
    (part (ofUsages table)).toNat =
      min (table.sumBy fun usage => (number usage).toNat) Counter.greatest := by
  have folded := part_ofUsages part (fun sum usage => Counter.plus sum (number usage)) grows table
  rw [folded, starts, Counter.toNat_foldl_plus, UInt64.toNat_zero, Nat.zero_add, SortedMap.sumBy]

/-- The number of domains is set at the start and stays. -/
theorem activeDomains_ofUsages (table : UsageTable) :
    (ofUsages table).activeDomains = UInt64.ofNat table.size :=
  (part_ofUsages activeDomains (fun domains _ => domains) (fun _ _ => rfl) table).trans
    (List.foldl_fixed _)

end HostTotals

/-! ## Who is online -/

/-- An agent is live exactly if a summary says that it is online. -/
theorem Roster.mem_liveAgents_iff_online (roster : Roster) (timeout : Duration) (now : Instant)
    (agent : String) :
    agent ∈ roster.liveAgents timeout now ↔ ∃ summary ∈ roster.summaries timeout now,
      summary.record.agentId = agent ∧ summary.status = .online := by
  simp only [liveAgents, summaries, List.mem_map, List.mem_filter]
  constructor
  · rintro ⟨record, ⟨known, live⟩, rfl⟩
    exact ⟨_, ⟨record, known, rfl⟩, rfl, (status_summarize_iff record timeout now).mpr live⟩
  · rintro ⟨_, ⟨record, known, rfl⟩, rfl, status⟩
    exact ⟨record, ⟨known, (status_summarize_iff record timeout now).mp status⟩, rfl⟩

namespace Fleet

/-- Answers to all questions about a fleet fit together. -/
structure Concord (agents : List AgentRecord) (summaries : List AgentSummary) (view : FleetView)
    (stats : FleetStats) (usage? : String → Option DomainUsage) : Prop where
  /-- The same records are listed with and without their status. -/
  listed : summaries.map AgentSummary.record = agents
  /-- They stand in the strict order of the agents' names. -/
  ascend : agents.Pairwise fun first second => compare first.agentId second.agentId = .lt
  /-- The sources stand in the strict order of their names. -/
  sourcesAscend : view.sources.Pairwise fun first second => compare first second = .lt
  /-- Just the agents that are online are sources. -/
  online : ∀ agent, agent ∈ view.sources ↔
    ∃ summary ∈ summaries, summary.record.agentId = agent ∧ summary.status = .online
  /-- The numbers are those of the agents, of the sources and of the domains. -/
  numbers : stats = ⟨summaries.length, view.sources.length, view.domains.size⟩
  /-- The number of domains, in one word. -/
  activeDomains : view.totals.activeDomains = UInt64.ofNat stats.domains
  /-- The totals are the sums over the domains, clamped at the greatest counter. -/
  connections : view.totals.connections.toNat =
    min (view.domains.sumBy fun usage => usage.counters.connections.toNat) Counter.greatest
  bytesSent : view.totals.bytesSent.toNat =
    min (view.domains.sumBy fun usage => usage.counters.bytesSent.toNat) Counter.greatest
  bytesReceived : view.totals.bytesReceived.toNat =
    min (view.domains.sumBy fun usage => usage.counters.bytesReceived.toNat) Counter.greatest
  /-- A domain has a usage exactly if the view lists it, and it is the one that is listed. -/
  found : ∀ domain, usage? domain = view.domains.get? domain
  /-- A listed usage has traffic and bears the name of its domain. -/
  busy : ∀ domain usage, view.domains.get? domain = some usage →
    usage.isZero = false ∧ usage.domain = domain

/-- The agents of a coherent roster stand in the strict order of their names. -/
theorem records_ascend {roster : Roster} (coherent : roster.Coherent) :
    roster.records.values.Pairwise fun first second =>
      compare first.agentId second.agentId = .lt := by
  have names : roster.records.values.map AgentRecord.agentId = roster.records.keys := by
    have all := Roster.agents_of_records coherent fun _ => true
    rwa [List.filter_true, SortedMap.filter_eq_self _ fun _ _ => rfl] at all
  exact List.pairwise_map.mp (names ▸ SortedMap.keys_ascend roster.records)

/-- The answers that are read from a coherent roster and one table fit together. -/
theorem concord_of_table {roster : Roster} (coherent : roster.Coherent) {table : UsageTable}
    (reduced : table.Reduced) (named : table.Named) (timeout : Duration) (now : Instant) :
    Concord roster.records.values (roster.summaries timeout now)
      (.ofUsages table (roster.liveAgents timeout now) now)
      ⟨roster.records.size, (roster.liveAgents timeout now).length, table.size⟩ table.get? where
  listed := by
    rw [Roster.summaries, List.map_map]
    exact List.map_id _
  ascend := records_ascend coherent
  sourcesAscend := Roster.liveAgents_ascend coherent timeout now
  online := roster.mem_liveAgents_iff_online timeout now
  numbers := by
    simp only [Roster.summaries, List.length_map, SortedMap.values, SortedMap.size, FleetView.ofUsages]
  activeDomains := HostTotals.activeDomains_ofUsages table
  connections :=
    HostTotals.toNat_part_ofUsages HostTotals.connections _ (fun _ _ => rfl) (fun _ => rfl) table
  bytesSent :=
    HostTotals.toNat_part_ofUsages HostTotals.bytesSent _ (fun _ _ => rfl) (fun _ => rfl) table
  bytesReceived :=
    HostTotals.toNat_part_ofUsages HostTotals.bytesReceived _ (fun _ _ => rfl) (fun _ => rfl) table
  found _ := rfl
  busy domain usage listed := ⟨reduced.busy domain usage listed, named domain usage listed⟩

/-- All answers describe one fleet. Under either strategy, after any calls and at any one time, the answers to
all questions fit together, however old the sums are that may have been kept. -/
theorem answers_concord (settings : AggregationSettings) (calls : List FleetCall) (now : Instant)
    (viewAge statsAge : Nat) (usageAge : String → Nat) :
    let fleet := (ofSettings settings).afterAll calls
    Concord fleet.agents (fleet.summaries now) (fleet.view viewAge now).1 (fleet.stats statsAge now).1
      fun domain => (fleet.usage? (usageAge domain) now domain).1 := by
  intro fleet
  cases chosen : settings.strategy with
  | incremental =>
    have kept : fleet = .incremental settings.options
        (IncrementalFleet.run settings.options (FleetCall.changes calls)) := by
      rw [← afterAll_incremental]
      simp only [fleet, ofSettings, chosen]
    rw [kept]
    exact concord_of_table (IncrementalFleet.coherent_roster _ _) (IncrementalFleet.reduced_sums _ _)
      (IncrementalFleet.tidy_sums _ _).named _ now
  | recompute =>
    have kept : fleet = .recomputing settings.options (.ofSeconds settings.cacheTtl)
        (RecomputingFleet.run settings.options (Duration.ofSeconds settings.cacheTtl).nanos calls) := by
      rw [← afterAll_recomputing]
      simp only [fleet, ofSettings, chosen]
    have coherent : fleet.roster.Coherent :=
      (roster_ofSettings settings calls).1 ▸ Roster.coherent_run _ _
    rw [kept] at coherent ⊢
    -- Whatever was kept, each question is answered from the sums over the agents that are live now.
    simp only [view, stats, usage?, RecomputingFleet.view, RecomputingFleet.stats,
      RecomputingFleet.usage?, RecomputingFleet.sums_of_fresh (RecomputingFleet.fresh_run _ _ calls)]
    exact concord_of_table coherent (RecomputingFleet.reduced_sumOver _ _)
      (RecomputingFleet.named_sumOver _ _) _ now

end Fleet

end FleetTraffic
