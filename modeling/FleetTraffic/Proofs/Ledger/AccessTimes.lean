import FleetTraffic.Proofs.Ledger.Balance
import FleetTraffic.Proofs.SortedMap.Keys

/-!
# Times of access in the sums

Amounts are added and taken away, but a time of access is only ever replaced by a later one. It lasts as long
as the sum that shows it: when a domain has no traffic left its sum is dropped, and the next one starts again
from the epoch. So the time of a sum is the latest one that came into it since the domain last had no sum.

An entry with traffic keeps the sum of its domain alive, so its time is among them as long as no total passes
the greatest counter. An entry without traffic does not. Its time can be forgotten while the entry stays, and
the sums from scratch then show a later time than the kept ones.
-/

namespace FleetTraffic

namespace Instant

variable (first second time : Instant)

/-- The later of two instants is one of them. -/
theorem later_eq_or : first.later second = first ∨ first.later second = second := by
  rw [later]
  split
  next => exact .inr rfl
  next => exact .inl rfl

/-- What comes before the later of two instants comes before one of them. -/
theorem lt_later_iff : time < first.later second ↔ time < first ∨ time < second := by
  change time.rank < (first.later second).rank ↔ time.rank < first.rank ∨ time.rank < second.rank
  rw [later]
  split
  next before =>
    have less : first.rank < second.rank := before
    omega
  next after =>
    have atLeast : ¬first.rank < second.rank := after
    omega

/-- The later of two instants comes before what both of them come before. -/
theorem later_lt_iff : first.later second < time ↔ first < time ∧ second < time := by
  change (first.later second).rank < time.rank ↔ first.rank < time.rank ∧ second.rank < time.rank
  rw [later]
  split
  next before =>
    have less : first.rank < second.rank := before
    omega
  next after =>
    have atLeast : ¬first.rank < second.rank := after
    omega

/-- No instant comes before itself. -/
theorem not_lt_self : ¬time < time := Int.lt_irrefl time.rank

variable {first second time} in
/-- What is not later than an instant comes before all that the instant comes before. -/
theorem lt_of_not_lt_of_lt (notLater : ¬second < first) (before : second < time) : first < time := by
  change ¬second.rank < first.rank at notLater
  change second.rank < time.rank at before
  change first.rank < time.rank
  omega

end Instant

namespace UsageTable

/-- The time of access that a table shows for a domain, the epoch if the domain is not listed. -/
def accessTime (table : UsageTable) (domain : String) : Instant :=
  ((table.get? domain).map DomainUsage.lastAccess).getD .epoch

/-- A listed domain shows the time of its usage. -/
theorem accessTime_of_get? {table : UsageTable} {domain : String} {usage : DomainUsage}
    (found : table.get? domain = some usage) : table.accessTime domain = usage.lastAccess := by
  rw [accessTime, found, Option.map_some, Option.getD_some]

/-- A domain that is not listed shows the epoch. -/
theorem accessTime_of_not_listed {table : UsageTable} {domain : String}
    (absent : table.get? domain = none) : table.accessTime domain = .epoch := by
  rw [accessTime, absent, Option.map_none, Option.getD_none]

/-- Adding a table keeps the later of both times. -/
theorem accessTime_add (table added : UsageTable) (domain : String) :
    (table.add added).accessTime domain =
      (added.get? domain).elim (table.accessTime domain) fun usage =>
        (table.accessTime domain).later usage.lastAccess := by
  rw [accessTime, get?_add, accessTime]
  cases added.get? domain with
  | none => rfl
  | some usage => cases table.get? domain <;> rfl

/-- After adding up tables a domain shows the latest time that any of them gives it. -/
theorem lt_accessTime_foldl_add (tables : List UsageTable) (start : UsageTable) (domain : String)
    (time : Instant) :
    time < UsageTable.accessTime (tables.foldl add start) domain ↔
      time < start.accessTime domain ∨
        ∃ table ∈ tables, ∃ usage, table.get? domain = some usage ∧ time < usage.lastAccess := by
  induction tables generalizing start with
  | nil => simp
  | cons table rest inductionHypothesis =>
    rw [List.foldl_cons, inductionHypothesis, accessTime_add]
    cases listed : table.get? domain with
    | none => simp [listed]
    | some usage => simp [listed, Instant.lt_later_iff, or_assoc]

end UsageTable

namespace Ledger

/-- Settling keeps the time of the sum and that of the new usage, whichever is later. -/
theorem lastAccess_settledUsage (domain : String) (old new sum : Option DomainUsage) :
    (settledUsage domain old new sum).lastAccess =
      let start := (sum.map DomainUsage.lastAccess).getD .epoch
      new.elim start fun brought => start.later brought.lastAccess := by
  cases old <;> cases new <;> cases sum <;> rfl

/-- A sum that is there after a change shows the time from before it, or that of the new contribution if that
is later. -/
theorem accessTime_change {ledger : Ledger} {step : LedgerChange} {domain : String}
    (present : (ledger.change step).sums.contains domain = true) :
    (ledger.change step).sums.accessTime domain =
      (step.contribution.get? domain).elim (ledger.sums.accessTime domain) fun brought =>
        (ledger.sums.accessTime domain).later brought.lastAccess := by
  obtain ⟨sum, found⟩ := (SortedMap.contains_iff _ _).mp present
  rw [UsageTable.accessTime_of_get? found]
  rw [get?_sums_change] at found
  split at found
  next noOld noNew => rw [noNew, Option.elim_none, UsageTable.accessTime_of_get? found]
  next =>
    rw [settle_eq] at found
    split at found
    next => cases found
    next =>
      cases found
      exact lastAccess_settledUsage _ _ _ _

/-! ## What came into a sum -/

/-- A change brought a usage of the domain with this time of access, and the domain has had a sum ever
since. -/
def Absorbed (changes : List LedgerChange) (domain : String) (time : Instant) : Prop :=
  ∃ earlier step usage, earlier ++ [step] <+: changes ∧ step.contribution.get? domain = some usage ∧
    usage.lastAccess = time ∧ ∀ later, earlier ++ [step] <+: later → later <+: changes →
      (run later).sums.contains domain = true

/-- What was absorbed is in a sum that is still there. -/
theorem contains_of_absorbed {changes : List LedgerChange} {domain : String} {time : Instant}
    (absorbed : Absorbed changes domain time) : (run changes).sums.contains domain = true := by
  obtain ⟨_, _, _, within, _, _, stays⟩ := absorbed
  exact stays changes within (List.prefix_refl _)

/-- After one change more a time is absorbed if there is a sum still, and the time was absorbed before or
the change brought it. -/
theorem absorbed_concat (before : List LedgerChange) (last : LedgerChange) (domain : String)
    (time : Instant) :
    Absorbed (before ++ [last]) domain time ↔
      (run (before ++ [last])).sums.contains domain = true ∧
        (Absorbed before domain time ∨
          ∃ usage, last.contribution.get? domain = some usage ∧ usage.lastAccess = time) := by
  constructor
  · intro absorbed
    refine ⟨contains_of_absorbed absorbed, ?_⟩
    obtain ⟨earlier, step, usage, within, brought, same, stays⟩ := absorbed
    rcases List.prefix_concat_iff.mp within with whole | inside
    · obtain ⟨rfl, rfl⟩ := List.concat_inj.mp (by simpa only [List.concat_eq_append] using whole)
      exact .inr ⟨usage, brought, same⟩
    · refine .inl ⟨earlier, step, usage, inside, brought, same, ?_⟩
      intro later after isPrefix
      exact stays later after (isPrefix.trans (List.prefix_append before [last]))
  · rintro ⟨present, absorbed | ⟨usage, brought, same⟩⟩
    · obtain ⟨earlier, step, usage, within, brought, same, stays⟩ := absorbed
      refine ⟨earlier, step, usage, within.trans (List.prefix_append before [last]), brought, same, ?_⟩
      intro later after isPrefix
      rcases List.prefix_concat_iff.mp isPrefix with rfl | inside
      · exact present
      · exact stays later after inside
    · refine ⟨before, last, usage, List.prefix_refl _, brought, same, ?_⟩
      intro later after isPrefix
      rw [isPrefix.eq_of_length_le after.length_le]
      exact present

/-- A time is the latest of the epoch and all times that were absorbed. -/
structure Latest (changes : List LedgerChange) (domain : String) (time : Instant) : Prop where
  attained : time = .epoch ∨ Absorbed changes domain time
  notBeforeEpoch : ¬time < .epoch
  notBefore : ∀ other, Absorbed changes domain other → ¬time < other

/-- Where there is no sum nothing is absorbed, so the epoch is the latest time. -/
theorem latest_epoch {changes : List LedgerChange} {domain : String}
    (absent : (run changes).sums.get? domain = none) : Latest changes domain .epoch := by
  refine ⟨.inl rfl, Instant.not_lt_self _, ?_⟩
  intro other absorbed
  obtain ⟨sum, found⟩ := (SortedMap.contains_iff _ _).mp (contains_of_absorbed absorbed)
  rw [absent] at found
  cases found

/-- With one change more the latest time is the one before or the one that the change brings, as long as there
is a sum. -/
theorem latest_concat {before : List LedgerChange} {last : LedgerChange} {domain : String}
    {time : Instant} (latest : Latest before domain time)
    (present : (run (before ++ [last])).sums.contains domain = true) :
    Latest (before ++ [last]) domain
      ((last.contribution.get? domain).elim time fun brought => time.later brought.lastAccess) := by
  have kept {other : Instant} (absorbed : Absorbed before domain other) :
      Absorbed (before ++ [last]) domain other :=
    (absorbed_concat _ _ _ _).mpr ⟨present, .inl absorbed⟩
  cases brought : last.contribution.get? domain with
  | none =>
    rw [Option.elim_none]
    refine ⟨latest.attained.imp_right kept, latest.notBeforeEpoch, ?_⟩
    intro other absorbed
    obtain ⟨_, earlier | ⟨usage, listed, _⟩⟩ := (absorbed_concat _ _ _ _).mp absorbed
    · exact latest.notBefore other earlier
    · rw [brought] at listed
      cases listed
  | some usage =>
    rw [Option.elim_some]
    refine ⟨?_, ?_, ?_⟩
    · rcases Instant.later_eq_or time usage.lastAccess with old | new
      · rw [old]
        exact latest.attained.imp_right kept
      · rw [new]
        exact .inr ((absorbed_concat _ _ _ _).mpr ⟨present, .inr ⟨usage, brought, rfl⟩⟩)
    · rw [Instant.later_lt_iff]
      exact fun before => latest.notBeforeEpoch before.1
    · intro other absorbed
      rw [Instant.later_lt_iff]
      rintro ⟨less, less'⟩
      obtain ⟨_, earlier | ⟨usage', listed, rfl⟩⟩ := (absorbed_concat _ _ _ _).mp absorbed
      · exact latest.notBefore other earlier less
      · rw [brought] at listed
        cases listed
        exact Instant.not_lt_self _ less'

/-- After every run a sum shows the latest time that came into it since the domain last had no sum. -/
theorem latest_run (changes : List LedgerChange) (domain : String) :
    Latest changes domain ((run changes).sums.accessTime domain) := by
  induction changes using List.reverseRecOn with
  | nil => exact latest_epoch rfl
  | append_singleton before last inductionHypothesis =>
    cases found : (run (before ++ [last])).sums.get? domain with
    | none =>
      rw [UsageTable.accessTime_of_not_listed found]
      exact latest_epoch found
    | some sum =>
      have present : (run (before ++ [last])).sums.contains domain = true :=
        (SortedMap.contains_iff _ _).mpr ⟨sum, found⟩
      have shown := accessTime_change (run_concat before last ▸ present)
      rw [← run_concat] at shown
      rw [shown]
      exact latest_concat inductionHypothesis present

/-! ## Entries -/

/-- A domain has an exact sum as long as some entry has traffic there. -/
theorem contains_of_traffic {ledger : Ledger} (reduced : ledger.sums.Reduced) {domain : String}
    {quantity : Quantity}
    (precise : (ledger.sums.amount domain quantity).toNat = ledger.total domain quantity) {agent : String}
    (busy : (ledger.contributionOf agent).amount domain quantity ≠ 0) :
    ledger.sums.contains domain = true := by
  have split := total_eq_others_add ledger agent domain quantity
  rw [ne_eq, ← UInt64.toNat_inj, UInt64.toNat_zero] at busy
  apply (UsageTable.contains_iff_amount reduced domain).mpr
  refine ⟨quantity, ?_⟩
  rw [ne_eq, ← UInt64.toNat_inj, UInt64.toNat_zero]
  omega

/-- As long as all totals fit, the time of an entry with traffic is in the sum. -/
theorem absorbed_of_traffic (changes : List LedgerChange)
    (fits : ∀ earlier, earlier <+: changes → (run earlier).Fits) {agent domain : String}
    {usage : DomainUsage} (listed : ((run changes).contributionOf agent).get? domain = some usage)
    {quantity : Quantity} (busy : usage.amount quantity ≠ 0) :
    Absorbed changes domain usage.lastAccess := by
  induction changes using List.reverseRecOn with
  | nil => cases listed
  | append_singleton before last inductionHypothesis =>
    have present : (run (before ++ [last])).sums.contains domain = true := by
      apply contains_of_traffic (reduced_sums_run _) (exact_run _ fits domain quantity)
      rw [UsageTable.amount_of_get? listed]
      exact busy
    refine (absorbed_concat _ _ _ _).mpr ⟨present, ?_⟩
    rw [run_concat, contributionOf_change] at listed
    split at listed
    next => exact .inr ⟨usage, listed, rfl⟩
    next =>
      have fitted : ∀ earlier, earlier <+: before → (run earlier).Fits := fun earlier isPrefix =>
        fits earlier (isPrefix.trans (List.prefix_append before [last]))
      exact .inl (inductionHypothesis fitted listed)

/-- The sums from scratch show the latest time of all entries, with traffic or without. -/
theorem lt_lastAccess_resum (ledger : Ledger) {domain : String} {resummed : DomainUsage}
    (found : ledger.resum.get? domain = some resummed) (time : Instant) :
    time < resummed.lastAccess ↔ time < .epoch ∨
      ∃ agent usage, (ledger.contributionOf agent).get? domain = some usage ∧
        time < usage.lastAccess := by
  rw [resum, UsageTable.dropZeros, SortedMap.get?_filter, Option.filter_eq_some_iff] at found
  rw [← UsageTable.accessTime_of_get? found.1, UsageTable.lt_accessTime_foldl_add,
    UsageTable.accessTime_of_not_listed (SortedMap.get?_empty domain)]
  apply or_congr_right
  constructor
  · rintro ⟨table, listed, usage, held, before⟩
    obtain ⟨agent, entry⟩ := (SortedMap.mem_values_iff _ _).mp listed
    refine ⟨agent, usage, ?_, before⟩
    rw [contributionOf, entry, Option.getD_some, held]
  · rintro ⟨agent, usage, held, before⟩
    rw [contributionOf] at held
    cases entry : ledger.entries.get? agent with
    | none =>
      rw [entry, Option.getD_none] at held
      cases held
    | some table =>
      rw [entry, Option.getD_some] at held
      exact ⟨table, (SortedMap.mem_values_iff _ _).mpr ⟨agent, entry⟩, usage, held, before⟩

end Ledger

end FleetTraffic
