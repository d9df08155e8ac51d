import FleetTraffic.Fleet.Ledger
import FleetTraffic.Proofs.Usage.Naming

/-!
# Changes of the ledger

Giving an agent a new contribution and taking an agent away are both changes of what one agent
contributes. What a change does is said once, for either kind: the entry of the agent is exchanged,
and in the sums every amount loses the old contribution and gains the new one, both times clamped.

Beside the sums stand the totals, the same amounts added up over all entries without any bound. The
total splits into the changed agent's part and that of the others, and a change leaves the others'
part alone.
-/

namespace FleetTraffic

/-- A change of what one agent contributes. -/
inductive LedgerChange where
  | replace (agent : String) (contribution : UsageTable)
  | remove (agent : String)
  deriving DecidableEq

namespace LedgerChange

/-- The agent whose contribution changes. -/
def agent : LedgerChange → String
  | .replace agent _ => agent
  | .remove agent => agent

/-- What the agent contributes afterwards. -/
def contribution : LedgerChange → UsageTable
  | .replace _ contribution => contribution
  | .remove _ => .empty

end LedgerChange

namespace Ledger

/-- The ledger after a change. -/
def change (ledger : Ledger) : LedgerChange → Ledger
  | .replace agent contribution => (ledger.replace agent contribution).2
  | .remove agent => (ledger.remove agent).2

/-- The ledger after a sequence of changes of an empty one. -/
def run (changes : List LedgerChange) : Ledger := changes.foldl change {}

/-- The exact amount over all entries, without a bound. -/
def total (ledger : Ledger) (domain : String) (quantity : Quantity) : Nat :=
  ledger.entries.sumBy fun table => (UsageTable.amount table domain quantity).toNat

/-- The exact amount over the entries of all agents but one. -/
def totalOfOthers (ledger : Ledger) (agent domain : String) (quantity : Quantity) : Nat :=
  (ledger.entries.erase agent).sumBy fun table => (UsageTable.amount table domain quantity).toNat

/-- A run with one change more. -/
theorem run_concat (changes : List LedgerChange) (last : LedgerChange) :
    run (changes ++ [last]) = (run changes).change last := by
  simp only [run, List.foldl_append, List.foldl_cons, List.foldl_nil]

/-! ## Entries and totals -/

/-- A change exchanges the entry of its agent. An empty contribution is not kept as an entry. -/
theorem entries_change (ledger : Ledger) (step : LedgerChange) :
    (ledger.change step).entries = ledger.entries.alter step.agent fun _ =>
      if step.contribution.isEmpty then none else some step.contribution := by
  cases step <;> rfl

/-- After a change its agent contributes what the change says, and the others what they did. -/
theorem contributionOf_change (ledger : Ledger) (step : LedgerChange) (agent : String) :
    (ledger.change step).contributionOf agent =
      if agent = step.agent then step.contribution else ledger.contributionOf agent := by
  simp only [contributionOf, entries_change, SortedMap.get?_alter]
  by_cases changed : agent = step.agent
  · simp only [if_pos changed]
    by_cases nothing : step.contribution.isEmpty = true
    · rw [if_pos nothing, Option.getD_none]
      apply SortedMap.ext
      intro domain
      rw [(SortedMap.isEmpty_iff _).mp nothing domain, SortedMap.get?_empty]
    · rw [if_neg nothing, Option.getD_some]
  · simp only [if_neg changed]

/-- A total is one agent's amount and that of the others. -/
theorem total_eq_others_add (ledger : Ledger) (agent domain : String) (quantity : Quantity) :
    ledger.total domain quantity = ledger.totalOfOthers agent domain quantity +
      ((ledger.contributionOf agent).amount domain quantity).toNat := by
  rw [total, totalOfOthers, SortedMap.sumBy_eq_erase_add _ ledger.entries agent, contributionOf]
  cases ledger.entries.get? agent <;> rfl

/-- A change leaves the amounts of the other agents alone. -/
theorem totalOfOthers_change (ledger : Ledger) (step : LedgerChange) (domain : String)
    (quantity : Quantity) :
    (ledger.change step).totalOfOthers step.agent domain quantity =
      ledger.totalOfOthers step.agent domain quantity := by
  rw [totalOfOthers, entries_change, SortedMap.erase_alter, totalOfOthers]

/-- After a change a total is the others' old amount and the agent's new one. -/
theorem total_change (ledger : Ledger) (step : LedgerChange) (domain : String)
    (quantity : Quantity) :
    (ledger.change step).total domain quantity =
      ledger.totalOfOthers step.agent domain quantity +
        (step.contribution.amount domain quantity).toNat := by
  rw [total_eq_others_add _ step.agent, totalOfOthers_change, contributionOf_change, if_pos rfl]

/-! ## Sums -/

/-- Two tables side by side have an entry for each domain of either. -/
theorem get?_sideBySide (old new : UsageTable) (domain : String) :
    (sideBySide old new).get? domain =
      match old.get? domain, new.get? domain with
      | none, none => none
      | before, after => some (before, after) := by
  simp only [sideBySide, SortedMap.get?_absorb, SortedMap.get?_mapValues]
  cases old.get? domain <;> cases new.get? domain <;> rfl

/-- A change settles the sum of each domain that its agent contributed to or contributes to now. -/
theorem get?_sums_change (ledger : Ledger) (step : LedgerChange) (domain : String) :
    (ledger.change step).sums.get? domain =
      match (ledger.contributionOf step.agent).get? domain, step.contribution.get? domain with
      | none, none => ledger.sums.get? domain
      | old, new => settle domain old new (ledger.sums.get? domain) := by
  cases step with
  | replace agent contribution =>
    simp only [change, replace, LedgerChange.agent, LedgerChange.contribution,
      SortedMap.get?_absorb, get?_sideBySide]
    cases (ledger.contributionOf agent).get? domain <;> cases contribution.get? domain <;> rfl
  | remove agent =>
    simp only [change, remove, LedgerChange.agent, LedgerChange.contribution,
      SortedMap.get?_absorb, SortedMap.get?_empty]
    cases (ledger.contributionOf agent).get? domain <;> rfl

/-- The usage that settling arrives at, before it is dropped for having no traffic. -/
def settledUsage (domain : String) (old new sum : Option DomainUsage) : DomainUsage :=
  let start := sum.getD (DomainUsage.none domain)
  let reduced := old.elim start start.subtract
  { new.elim reduced reduced.add with domain }

/-- Settling keeps a usage with traffic, unless there is neither a sum nor something to add. -/
theorem settle_eq (domain : String) (old new sum : Option DomainUsage) :
    settle domain old new sum =
      if (new = none ∧ sum = none) ∨ (settledUsage domain old new sum).isZero then none
      else some (settledUsage domain old new sum) := by
  cases old <;> cases new <;> cases sum <;> simp [settle, settledUsage]

/-- Settling takes the old amount away and adds the new one. -/
theorem amount_settledUsage (domain : String) (old new sum : Option DomainUsage)
    (quantity : Quantity) :
    (settledUsage domain old new sum).amount quantity =
      Counter.plus
        (Counter.minus (DomainUsage.amount? quantity sum) (DomainUsage.amount? quantity old))
        (DomainUsage.amount? quantity new) := by
  have start : (sum.getD (DomainUsage.none domain)).amount quantity =
      DomainUsage.amount? quantity sum := by
    cases sum with
    | none => exact DomainUsage.amount_none domain quantity
    | some usage => rfl
  rw [settledUsage, DomainUsage.amount_rename, ← start]
  cases old <;> cases new <;>
    simp only [Option.elim, DomainUsage.amount?, DomainUsage.amount_add, DomainUsage.amount_subtract,
      Counter.plus_zero, Counter.minus_zero]

/-- Settling a canonical sum gives a canonical usage, whatever is taken away and added. -/
theorem canonical_settledUsage (domain : String) (old new : Option DomainUsage)
    {sum : Option DomainUsage} (canonical : ∀ usage, sum = some usage → usage.Canonical) :
    (settledUsage domain old new sum).Canonical := by
  have start : (sum.getD (DomainUsage.none domain)).Canonical := by
    cases sum with
    | none => exact DomainUsage.canonical_none domain
    | some usage => exact canonical usage rfl
  cases old with
  | none =>
    cases new with
    | none => exact start
    | some added => exact DomainUsage.canonical_add start added
  | some removed =>
    have reduced := DomainUsage.canonical_subtract start removed
    cases new with
    | none => exact reduced
    | some added => exact DomainUsage.canonical_add reduced added

/-- Settling takes the old amount away and adds the new one, also where the sum is dropped. -/
theorem amount_settle (domain : String) (old new : Option DomainUsage) {sum : Option DomainUsage}
    (canonical : ∀ usage, sum = some usage → usage.Canonical) (quantity : Quantity) :
    DomainUsage.amount? quantity (settle domain old new sum) =
      Counter.plus
        (Counter.minus (DomainUsage.amount? quantity sum) (DomainUsage.amount? quantity old))
        (DomainUsage.amount? quantity new) := by
  rw [settle_eq]
  split
  next dropped =>
    rcases dropped with ⟨rfl, rfl⟩ | zero
    · simp only [DomainUsage.amount?, Counter.zero_minus, Counter.plus_zero]
    · have nothing := (DomainUsage.isZero_iff (canonical_settledUsage domain old new canonical)).mp zero
      rw [← amount_settledUsage domain, nothing quantity, DomainUsage.amount?]
  next => exact amount_settledUsage domain old new sum quantity

/-- The sum that settling keeps is canonical and has traffic. -/
theorem reduced_settle {domain : String} {old new sum : Option DomainUsage}
    (canonical : ∀ usage, sum = some usage → usage.Canonical) {usage : DomainUsage}
    (kept : settle domain old new sum = some usage) : usage.Canonical ∧ usage.isZero = false := by
  rw [settle_eq] at kept
  split at kept
  next => cases kept
  next stays =>
    cases kept
    refine ⟨canonical_settledUsage domain old new canonical, ?_⟩
    simpa only [Bool.not_eq_true] using (not_or.mp stays).2

/-- A change keeps the sums reduced. -/
theorem reduced_sums_change {ledger : Ledger} (reduced : ledger.sums.Reduced) (step : LedgerChange) :
    (ledger.change step).sums.Reduced := by
  have settled (domain : String) (usage : DomainUsage)
      (found : (ledger.change step).sums.get? domain = some usage) :
      usage.Canonical ∧ usage.isZero = false := by
    rw [get?_sums_change] at found
    split at found
    next => exact ⟨reduced.canonical domain usage found, reduced.busy domain usage found⟩
    next => exact reduced_settle (fun sum present => reduced.canonical domain sum present) found
  exact ⟨fun domain usage found => (settled domain usage found).1,
    fun domain usage found => (settled domain usage found).2⟩

/-- In the sums a change takes the agent's old amount away and adds its new one, both clamped. -/
theorem amount_sums_change {ledger : Ledger} (reduced : ledger.sums.Reduced) (step : LedgerChange)
    (domain : String) (quantity : Quantity) :
    (ledger.change step).sums.amount domain quantity =
      Counter.plus
        (Counter.minus (ledger.sums.amount domain quantity)
          ((ledger.contributionOf step.agent).amount domain quantity))
        (step.contribution.amount domain quantity) := by
  simp only [UsageTable.amount, get?_sums_change]
  split
  next noOld noNew =>
    simp only [noOld, noNew, DomainUsage.amount?, Counter.minus_zero, Counter.plus_zero]
  next => exact amount_settle domain _ _ (fun sum present => reduced.canonical domain sum present) quantity

/-- The sums are reduced after every run. -/
theorem reduced_sums_run (changes : List LedgerChange) : (run changes).sums.Reduced := by
  have kept (ledger : Ledger) (reduced : ledger.sums.Reduced) :
      (changes.foldl change ledger).sums.Reduced := by
    induction changes generalizing ledger with
    | nil => exact reduced
    | cons step rest inductionHypothesis =>
      exact inductionHypothesis (ledger.change step) (reduced_sums_change reduced step)
  exact kept {} UsageTable.reduced_empty

/-- A change leaves every sum under its own name. -/
theorem named_sums_change {ledger : Ledger} (named : ledger.sums.Named) (step : LedgerChange) :
    (ledger.change step).sums.Named := by
  have settled (domain : String) (old new : Option DomainUsage) (usage : DomainUsage)
      (kept : settle domain old new (ledger.sums.get? domain) = some usage) :
      usage.domain = domain := by
    rw [settle_eq] at kept
    split at kept
    next => cases kept
    next =>
      cases kept
      rfl
  intro domain usage found
  rw [get?_sums_change] at found
  split at found
  next => exact named domain usage found
  next => exact settled domain _ _ usage found

/-- The sums are tidy after every run. -/
theorem tidy_sums_run (changes : List LedgerChange) : (run changes).sums.Tidy := by
  refine ⟨?_, (reduced_sums_run changes).canonical⟩
  induction changes using List.reverseRecOn with
  | nil => exact UsageTable.tidy_empty.named
  | append_singleton before last inductionHypothesis =>
    rw [run_concat]
    exact named_sums_change inductionHypothesis last

/-! ## Sums from scratch -/

/-- Adding up tables from the first to the last clamps each exact amount once. -/
theorem amount_foldl_add (tables : List UsageTable) (start : UsageTable) (domain : String)
    (quantity : Quantity) :
    ((tables.foldl UsageTable.add start).amount domain quantity).toNat =
      min ((start.amount domain quantity).toNat +
        (tables.map fun table => (UsageTable.amount table domain quantity).toNat).sum)
        Counter.greatest := by
  induction tables generalizing start with
  | nil =>
    have bound := Counter.toNat_le_greatest (start.amount domain quantity)
    simp only [List.foldl_nil, List.map_nil, List.sum_nil]
    omega
  | cons table rest inductionHypothesis =>
    rw [List.foldl_cons, inductionHypothesis, UsageTable.amount_add, Counter.toNat_plus,
      List.map_cons, List.sum_cons]
    omega

/-- Adding up tables gives a canonical table, whatever is added. -/
theorem canonical_foldl_add (tables : List UsageTable) {start : UsageTable}
    (canonical : start.Canonical) : UsageTable.Canonical (tables.foldl UsageTable.add start) := by
  induction tables generalizing start with
  | nil => exact canonical
  | cons table rest inductionHypothesis =>
    exact inductionHypothesis (UsageTable.canonical_add canonical table)

/-- The sums from scratch are reduced. -/
theorem reduced_resum (ledger : Ledger) : ledger.resum.Reduced :=
  UsageTable.reduced_dropZeros (canonical_foldl_add _ UsageTable.reduced_empty.canonical)

/-- The sums from scratch are the totals, clamped once. -/
theorem toNat_amount_resum (ledger : Ledger) (domain : String) (quantity : Quantity) :
    (ledger.resum.amount domain quantity).toNat = min (ledger.total domain quantity) Counter.greatest := by
  have canonical := canonical_foldl_add ledger.entries.values UsageTable.reduced_empty.canonical
  rw [resum, UsageTable.amount_dropZeros canonical, amount_foldl_add, total, SortedMap.sumBy]
  simp only [UsageTable.amount_empty, UInt64.toNat_zero, Nat.zero_add]

end Ledger

end FleetTraffic
