import FleetTraffic.Proofs.Fleet.Exactness

/-!
# An expiry leaves no trace

Two runs are compared: one in which some agents are forgotten at the end, and one in which these agents
never showed up. What the roster holds of the others is the same in both, since no operation looks at the
file of another agent, and the entries of the ledger follow the roster. Of the forgotten agents neither run
holds anything. The sums have taken different ways, but in both runs they are exact, and exact sums over
the same entries show the same traffic.

An expired agent is told from the operations alone: its last sign of life lies too far back.
-/

namespace FleetTraffic

namespace FleetOperation

/-- When an agent last showed that it runs. -/
def lastSign (agent : String) (operations : List FleetOperation) : Option Instant :=
  ((operations.filterMap sign?).filter fun sign => sign.1 = agent).getLast?.map Prod.snd

/-- The operations that name none of some agents. Expiries stay. -/
def without (agents : List String) (operations : List FleetOperation) : List FleetOperation :=
  operations.filter fun operation => operation.agent?.all fun agent => agent ∉ agents

/-- A sign of the agent is its last one. -/
theorem lastSign_concat_own (operations : List FleetOperation) {last : FleetOperation} {agent : String}
    {now : Instant} (signed : last.sign? = some (agent, now)) :
    lastSign agent (operations ++ [last]) = some now := by
  simp [lastSign, List.filterMap_append, signed]

/-- What is no sign of the agent leaves its last one. -/
theorem lastSign_concat_other (operations : List FleetOperation) {last : FleetOperation} {agent : String}
    (unnamed : last.agent? ≠ some agent) :
    lastSign agent (operations ++ [last]) = lastSign agent operations := by
  rw [lastSign, List.filterMap_append, lastSign]
  cases signed : last.sign? with
  | none => simp [signed]
  | some sign =>
    have other : sign.1 ≠ agent := fun same => unnamed (by rw [agent?, signed, Option.map_some, same])
    simp [signed, other]

end FleetOperation

namespace Roster

open FleetOperation

/-- A sign of life is the last one that the record of its agent tells. -/
theorem lastHeartbeat_apply (roster : Roster) (options : FleetOptions) {operation : FleetOperation}
    {agent : String} {now : Instant} (signed : operation.sign? = some (agent, now)) {record : AgentRecord}
    (found : ((roster.apply options operation).2.fileOf agent).record = some record) :
    record.lastHeartbeat = now := by
  cases operation with
  | report report time =>
    cases signed
    rw [apply, fileOf_observe, if_pos rfl] at found
    cases found
    rfl
  | touch name time =>
    cases signed
    rw [apply, touch, fileOf_modify, if_pos rfl] at found
    obtain ⟨before, _, rfl⟩ := Option.map_eq_some_iff.mp found
    rfl
  | heartbeat heartbeat time =>
    cases signed
    rw [apply, introduce, fileOf_modify, if_pos rfl] at found
    obtain ⟨before, _, rfl⟩ := Option.map_eq_some_iff.mp found
    rfl
  | expire maxAge time => cases signed

/-- The record of a known agent tells its last sign of life. -/
theorem lastSign_of_record (options : FleetOptions) (operations : List FleetOperation) {agent : String}
    {record : AgentRecord} (found : ((run options operations).fileOf agent).record = some record) :
    lastSign agent operations = some record.lastHeartbeat := by
  induction operations using List.reverseRecOn with
  | nil => cases found
  | append_singleton before last inductionHypothesis =>
    rw [run_concat] at found
    -- Either the last operation is a sign of the agent, or the record was there before it.
    by_cases named : last.agent? = some agent
    · obtain ⟨⟨name, now⟩, signed, rfl⟩ := Option.map_eq_some_iff.mp named
      rw [lastSign_concat_own before signed, lastHeartbeat_apply _ options signed found]
    · rw [lastSign_concat_other before named]
      rcases fileOf_apply_unnamed (run options before) options named with same | gone
      · rw [same] at found
        exact inductionHypothesis found
      · rw [gone] at found
        cases found

/-- The expired agents are the known ones whose last sign of life lies too far back. -/
theorem mem_expiredAgents_run_iff (options : FleetOptions) (operations : List FleetOperation)
    (maxAge : Duration) (now : Instant) (agent : String) :
    agent ∈ (run options operations).expiredAgents maxAge now ↔
      (run options operations).records.contains agent = true ∧
        ∃ last, lastSign agent operations = some last ∧
          maxAge.toSpan.shorter (now.since last) = true := by
  rw [mem_expiredAgents_iff (coherent_run options operations)]
  constructor
  · rintro ⟨record, found, expired⟩
    exact ⟨(SortedMap.contains_iff _ agent).mpr ⟨record, found⟩, record.lastHeartbeat,
      lastSign_of_record options operations found, expired⟩
  · rintro ⟨known, last, signed, expired⟩
    obtain ⟨record, found⟩ := (SortedMap.contains_iff _ agent).mp known
    have told := lastSign_of_record options operations found
    rw [signed, Option.some.injEq] at told
    subst told
    exact ⟨record, found, expired⟩

/-- The expired agents are listed in ascending order, each of them once. -/
theorem expiredAgents_ascend {roster : Roster} (coherent : roster.Coherent) (maxAge : Duration)
    (now : Instant) : (roster.expiredAgents maxAge now).Pairwise (· < ·) := by
  rw [expiredAgents, agents_of_records coherent]
  exact (SortedMap.keys_ascend _).imp fun below => compare_lt_iff_lt.mp below

/-- Leaving out the operations of some agents changes the files of these agents alone, which become
empty. -/
theorem fileOf_run_without (options : FleetOptions) (operations : List FleetOperation)
    (agents : List String) (agent : String) :
    (run options (without agents operations)).fileOf agent =
      if agent ∈ agents then {} else (run options operations).fileOf agent := by
  split
  next gone =>
    apply fileOf_run_unnamed
    intro operation member named
    have spared := (List.mem_filter.mp member).2
    rw [named, Option.all_some, decide_eq_true_eq] at spared
    exact spared gone
  next stays =>
    apply fileOf_run_filter
    intro operation _ dropped
    cases named : operation.agent? with
    | none => simp [named] at dropped
    | some name =>
      have listed : name ∈ agents := by simpa [named] using dropped
      exact ⟨name, rfl, fun same => stays (same ▸ listed)⟩

/-! ## The same expiry in both runs -/

section Expiry

variable (options : FleetOptions) (operations : List FleetOperation) (maxAge : Duration) (now : Instant)

/-- Without the operations of the expired agents nobody is expired. -/
theorem expiredAgents_without :
    (run options (without ((run options operations).expiredAgents maxAge now) operations)).expiredAgents
      maxAge now = [] := by
  apply List.eq_nil_iff_forall_not_mem.mpr
  intro agent expired
  rw [mem_expiredAgents_iff (coherent_run options _), fileOf_run_without] at expired
  split at expired
  next =>
    obtain ⟨_, found, _⟩ := expired
    cases found
  next stays =>
    rw [← mem_expiredAgents_iff (coherent_run options operations)] at expired
    exact stays expired

/-- With an expiry at the end, the operations of the expired agents can be left out of a run. -/
theorem run_without_expired :
    run options (without ((run options operations).expiredAgents maxAge now)
      (operations ++ [.expire maxAge now])) = run options (operations ++ [.expire maxAge now]) := by
  apply ext_of_fileOf
  intro agent
  rw [fileOf_run_without]
  split
  next gone => rw [run_concat, apply, fileOf_foldl_remove, if_pos gone]
  next => rfl

end Expiry

end Roster

namespace IncrementalFleet

open FleetOperation

variable {options : FleetOptions} {operations : List FleetOperation}

/-- Without the operations of some agents the entries of these agents are missing, and no others. -/
theorem get?_entries_run_without (options : FleetOptions) (operations : List FleetOperation)
    (agents : List String) (agent : String) :
    (run options (without agents operations)).ledger.entries.get? agent =
      if agent ∈ agents then none else (run options operations).ledger.entries.get? agent := by
  have file := Roster.fileOf_run_without options operations agents agent
  rw [mirrors_run, mirrors_run, roster_run, roster_run]
  split
  next gone =>
    rw [if_pos gone] at file
    exact Roster.entryOf_blank file
  next stays =>
    rw [if_neg stays] at file
    exact Roster.entryOf_congr file

/-- Totals that fit still do without the operations of some agents. -/
theorem fits_run_without (fits : (run options operations).ledger.Fits) (agents : List String) :
    (run options (without agents operations)).ledger.Fits := by
  intro domain quantity
  refine Nat.le_trans (SortedMap.sumBy_le_of_listed _ ?_) (fits domain quantity)
  intro agent contribution found
  rw [get?_entries_run_without] at found
  split at found
  next => cases found
  next => exact found

/-- The sums are exact without the operations of some agents, if the totals fitted with them. -/
theorem exact_run_without
    (fits : ∀ earlier, earlier <+: operations → (run options earlier).ledger.Fits)
    (agents : List String) : (run options (without agents operations)).ledger.Exact := by
  apply exact_run
  intro earlier isPrefix
  obtain ⟨before, isBefore, rfl⟩ := List.prefix_filter_iff.mp isPrefix
  exact fits_run_without (fits before isBefore) agents

/-- With an expiry at the end the totals still fit at every time. -/
theorem fits_concat_expire
    (fits : ∀ earlier, earlier <+: operations → (run options earlier).ledger.Fits) (maxAge : Duration)
    (now : Instant) :
    ∀ earlier, earlier <+: operations ++ [.expire maxAge now] → (run options earlier).ledger.Fits := by
  intro earlier isPrefix
  rcases List.prefix_concat_iff.mp isPrefix with whole | inside
  · rw [whole, run_concat]
    exact fits_expire (reduced_sums options operations) (exact_run options operations fits)
      (fits operations (List.prefix_refl _)) options maxAge now
  · exact fits earlier inside

/-- Exact sums of runs with the same entries differ at most in their times of access. -/
theorem untimed_sums_of_entries {other : List FleetOperation}
    (entries : (run options operations).ledger.entries = (run options other).ledger.entries)
    (precise : (run options operations).ledger.Exact) (precise' : (run options other).ledger.Exact) :
    (run options operations).ledger.sums.untimed = (run options other).ledger.sums.untimed := by
  have traffic := Ledger.sameTraffic_of_exact (reduced_sums options operations) (reduced_sums options other)
    precise precise' entries
  exact UsageTable.untimed_eq (tidy_sums options _).named (tidy_sums options _).named traffic

/-- Runs with the same roster and with exact sums have the same entries, and sums that differ at most in
their times of access. -/
theorem ledger_of_roster {other : List FleetOperation}
    (roster : (run options operations).roster = (run options other).roster)
    (precise : (run options operations).ledger.Exact) (precise' : (run options other).ledger.Exact) :
    (run options operations).ledger.entries = (run options other).ledger.entries ∧
      (run options operations).ledger.sums.untimed = (run options other).ledger.sums.untimed := by
  have entries : (run options operations).ledger.entries = (run options other).ledger.entries := by
    apply SortedMap.ext
    intro agent
    rw [mirrors_run, mirrors_run, roster]
  exact ⟨entries, untimed_sums_of_entries entries precise precise'⟩

/-- An expiry forgets just the known agents whose last sign of life lies more than `maxAge` back,
and lists them in order. If all totals fitted up to then, the fleet is left as if these agents had never
shown any: the same expiry would have forgotten nobody then, and would have left the same records, reports,
baselines and entries, and sums that differ at most in their times of access. -/
theorem expire_leaves_no_trace (options : FleetOptions) (operations : List FleetOperation)
    (maxAge : Duration) (now : Instant)
    (fits : ∀ earlier, earlier <+: operations → (run options earlier).ledger.Fits) :
    let forgotten := ((run options operations).expire maxAge now).1
    let left := ((run options operations).expire maxAge now).2
    let spared := (run options (without forgotten operations)).expire maxAge now
    (forgotten.Pairwise (· < ·) ∧
      ∀ agent, agent ∈ forgotten ↔
        (run options operations).roster.records.contains agent = true ∧
          ∃ last, lastSign agent operations = some last ∧
            maxAge.toSpan.shorter (now.since last) = true) ∧
      spared.1 = [] ∧ left.roster = spared.2.roster ∧
      left.ledger.entries = spared.2.ledger.entries ∧
      left.ledger.sums.untimed = spared.2.ledger.sums.untimed := by
  intro forgotten left spared
  have listed : forgotten = (Roster.run options operations).expiredAgents maxAge now := by
    rw [← roster_run]
    rfl
  have whole : left = run options (operations ++ [.expire maxAge now]) := by
    rw [run_concat]
    rfl
  have part : spared.2 = run options (without forgotten (operations ++ [.expire maxAge now])) := by
    have expiryStays : without forgotten (operations ++ [.expire maxAge now]) =
        without forgotten operations ++ [.expire maxAge now] := List.filter_append _ _
    rw [expiryStays, run_concat]
    rfl
  have nobody : spared.1 = [] := by
    have none_expired := Roster.expiredAgents_without options operations maxAge now
    rw [← listed, ← roster_run] at none_expired
    exact none_expired
  have roster : left.roster = spared.2.roster := by
    rw [whole, part, roster_run, roster_run, listed, Roster.run_without_expired]
  -- The totals of the spared run are never above those of the whole one, so both end with exact sums.
  have throughout := fits_concat_expire fits maxAge now
  have ledgers : left.ledger.entries = spared.2.ledger.entries ∧
      left.ledger.sums.untimed = spared.2.ledger.sums.untimed := by
    rw [whole, part] at roster ⊢
    exact ledger_of_roster roster (exact_run options _ throughout)
      (exact_run_without throughout forgotten)
  refine ⟨⟨?_, ?_⟩, nobody, roster, ledgers⟩
  · rw [listed]
    exact Roster.expiredAgents_ascend (Roster.coherent_run options operations) maxAge now
  · intro agent
    rw [listed, roster_run]
    exact Roster.mem_expiredAgents_run_iff options operations maxAge now agent

/-- An agent falls silent and is forgotten, comes back, restarts and falls silent again, while another one
keeps reporting the same domain. -/
def comesBack : List FleetOperation :=
  [.report (.single "a" (.early 0) "x.org" 10) (.early 1),
    .report (.single "b" (.early 0) "x.org" 100) (.early 4),
    .expire (.ofSeconds 3) (.early 6),
    .report (.single "a" (.early 7) "x.org" 4) (.early 8),
    .report (.single "a" (.early 9) "y.org" 6) (.early 10),
    .touch "b" (.early 20)]

/-- The second expiry of the agent that came back leaves the fleet as if it had never shown up. -/
theorem comesBack_leaves_no_trace :
    (∀ earlier, earlier <+: comesBack → (run usualOptions earlier).ledger.Fits) ∧
      ((run usualOptions comesBack).expire (.ofSeconds 5) (.early 21)).1 = ["a"] ∧
      ((run usualOptions comesBack).expire (.ofSeconds 5) (.early 21)).2.roster =
        ((run usualOptions (without ["a"] comesBack)).expire (.ofSeconds 5) (.early 21)).2.roster ∧
      ((run usualOptions comesBack).expire (.ofSeconds 5) (.early 21)).2.ledger.sums.untimed =
        ((run usualOptions (without ["a"] comesBack)).expire (.ofSeconds 5) (.early 21)).2.ledger.sums.untimed := by
  have small : ∀ earlier ∈ comesBack.inits, (run usualOptions earlier).ledger.Small 110 := by
    decide +kernel
  have fits (earlier : List FleetOperation) (isPrefix : earlier <+: comesBack) :
      (run usualOptions earlier).ledger.Fits :=
    Ledger.fits_of_small (small earlier ((List.mem_inits earlier comesBack).mpr isPrefix))
  have forgotten : ((run usualOptions comesBack).expire (.ofSeconds 5) (.early 21)).1 = ["a"] := by decide +kernel
  obtain ⟨_, _, roster, _, sums⟩ := expire_leaves_no_trace usualOptions comesBack (.ofSeconds 5) (.early 21) fits
  rw [forgotten] at roster sums
  exact ⟨fits, forgotten, roster, sums⟩

end IncrementalFleet

end FleetTraffic
