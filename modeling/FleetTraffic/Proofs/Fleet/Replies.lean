import FleetTraffic.Proofs.Fleet.KeptSums

/-!
# Replies without a memory

What a recomputing fleet replies to a call is told here by its roster alone: the live agents at the time of
the question, and the merge of what they contribute. Nothing in that reading is ever kept. The replies of a
fleet that keeps sums are these, after every sequence of calls, for however long the sums are kept and
whatever the readings of their age.
-/

namespace FleetTraffic

/-- What a fleet replies to a call. -/
inductive FleetReply where
  | change (answer : FleetAnswer)
  | view (view : FleetView)
  | usage (usage : Option DomainUsage)
  | stats (stats : FleetStats)
  deriving DecidableEq

namespace Roster

/-- An agent is live exactly when its record is. -/
theorem mem_liveAgents_iff {roster : Roster} (coherent : roster.Coherent) (timeout : Duration)
    (now : Instant) (agent : String) :
    agent ∈ roster.liveAgents timeout now ↔
      ∃ record, roster.records.get? agent = some record ∧ isLive record timeout now = true := by
  rw [liveAgents, agents_of_records coherent, SortedMap.mem_keys_iff]
  simp only [SortedMap.get?_filter, Option.filter_eq_some_iff]

/-- The live agents stand in the strict order of their names. -/
theorem liveAgents_ascend {roster : Roster} (coherent : roster.Coherent) (timeout : Duration)
    (now : Instant) :
    (roster.liveAgents timeout now).Pairwise fun first second => compare first second = .lt := by
  rw [liveAgents, agents_of_records coherent]
  exact SortedMap.keys_ascend _

/-- What some agents contribute to one domain, merged from the first to the last of them. -/
def mergedUsage (roster : Roster) (agents : List String) (domain : String) : Option DomainUsage :=
  agents.foldl
    (fun usage agent => DomainUsage.merged domain usage ((roster.contribution agent).get? domain)) none

/-- The reply that a roster gives by itself, with nothing kept from earlier questions. -/
def reply (roster : Roster) (options : FleetOptions) : FleetCall → FleetReply
  | .change operation => .change (roster.apply options operation).1
  | .view _ now =>
    let sources := roster.liveAgents options.timeout now
    .view (.ofUsages (RecomputingFleet.sumOver roster sources) sources now)
  | .usage _ now domain =>
    let sources := roster.liveAgents options.timeout now
    .usage ((RecomputingFleet.sumOver roster sources).get? domain)
  | .stats _ now =>
    let sources := roster.liveAgents options.timeout now
    .stats ⟨roster.records.size, sources.length, (RecomputingFleet.sumOver roster sources).size⟩

end Roster

namespace RecomputingFleet

/-- Sums over agents hold the merge of what they contribute to each domain, unless it has no traffic. -/
theorem get?_sumOver (roster : Roster) (agents : List String) (domain : String) :
    (sumOver roster agents).get? domain =
      (roster.mergedUsage agents domain).filter fun usage => !usage.isZero := by
  have merged (table : UsageTable) :
      SortedMap.get?
          (agents.foldl (fun (sums : UsageTable) agent => sums.add (roster.contribution agent)) table)
          domain =
        agents.foldl
          (fun usage agent =>
            DomainUsage.merged domain usage ((roster.contribution agent).get? domain))
          (table.get? domain) := by
    induction agents generalizing table with
    | nil => rfl
    | cons agent rest inductionHypothesis =>
      rw [List.foldl_cons, List.foldl_cons, inductionHypothesis, UsageTable.get?_add]
  rw [sumOver, UsageTable.dropZeros, SortedMap.get?_filter, merged, Roster.mergedUsage]
  rfl

/-- What a fleet replies to a call. -/
def reply (fleet : RecomputingFleet) (options : FleetOptions) (keep : Nat) : FleetCall → FleetReply
  | .change operation => .change (fleet.apply options operation).1
  | .view age now => .view (fleet.view options keep age now).1
  | .usage age now domain => .usage (fleet.usage? options keep age now domain).1
  | .stats age now => .stats (fleet.stats options keep age now).1

/-- As long as what is kept is up to date, a fleet replies as its roster does. -/
theorem reply_of_fresh {fleet : RecomputingFleet} (fresh : fleet.Fresh) (options : FleetOptions)
    (keep : Nat) (call : FleetCall) :
    fleet.reply options keep call = fleet.roster.reply options call := by
  cases call with
  | change operation => rw [reply, Roster.reply, ← congrArg Prod.fst (fleet.apply_roster options operation)]
  | view age now => simp only [reply, view, Roster.reply, sums_of_fresh fresh]
  | usage age now domain => simp only [reply, usage?, Roster.reply, sums_of_fresh fresh]
  | stats age now => simp only [reply, stats, Roster.reply, sums_of_fresh fresh]

/-- Keeping sums cannot be noticed. After any calls, however many nanoseconds sums are kept and however old
they are said to be: the sums that are found are the merge of what the agents contribute that are live at the
time of the question, without the domains that have no traffic, beside the list of just these agents in the
strict order of their names; and every call is replied to as by a roster that made the same changes and keeps
no sums at all. -/
theorem keeping_goes_unnoticed (options : FleetOptions) (keep : Nat) (calls : List FleetCall) :
    let roster := Roster.run options (FleetCall.changes calls)
    (∀ age now, let found := ((run options keep calls).sums options keep age now).1
      (∀ domain, found.sums.get? domain =
        (roster.mergedUsage found.sources domain).filter fun usage => !usage.isZero) ∧
      found.sources.Pairwise (fun first second => compare first second = .lt) ∧
      ∀ agent, agent ∈ found.sources ↔ ∃ record, roster.records.get? agent = some record ∧
        Roster.isLive record options.timeout now = true) ∧
    ∀ call, (run options keep calls).reply options keep call = roster.reply options call := by
  intro roster
  have fresh : (run options keep calls).Fresh := fresh_run options keep calls
  have coherent : roster.Coherent := Roster.coherent_run options _
  have same : (run options keep calls).roster = roster := roster_run options keep calls
  constructor
  · intro age now found
    have plain : found = ⟨roster.liveAgents options.timeout now,
        sumOver roster (roster.liveAgents options.timeout now)⟩ := by
      rw [← same]
      exact sums_of_fresh fresh options keep age now
    rw [plain]
    exact ⟨get?_sumOver roster _, Roster.liveAgents_ascend coherent _ now,
      Roster.mem_liveAgents_iff coherent _ now⟩
  · intro call
    rw [reply_of_fresh fresh, same]

end RecomputingFleet

end FleetTraffic
