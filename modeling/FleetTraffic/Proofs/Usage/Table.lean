import FleetTraffic.Proofs.Usage.Quantity

/-!
# The amounts in a table of usages

A table is read like a single usage: an amount for every domain and every quantity, zero for a domain
that is not listed. Adding tables is clamped addition of every amount.

A table is reduced when all its usages are canonical and none of them is without traffic. A reduced
table lists exactly the domains with some amount above zero, so two reduced tables with the same
amounts show the same traffic. `Represents` relates a table to exact numbers that know no greatest
counter.
-/

namespace FleetTraffic.UsageTable

/-- How much of a quantity a table holds for a domain. -/
def amount (table : UsageTable) (domain : String) (quantity : Quantity) : UInt64 :=
  DomainUsage.amount? quantity (table.get? domain)

/-- No listed usage has a count of zero by protocol or port. -/
def Canonical (table : UsageTable) : Prop :=
  ∀ domain usage, table.get? domain = some usage → usage.Canonical

/-- Canonical usages only, each with some traffic. -/
structure Reduced (table : UsageTable) : Prop where
  canonical : table.Canonical
  busy : ∀ domain usage, table.get? domain = some usage → usage.isZero = false

/-- The same domains with the same counters and counts. Names and times of access may differ. -/
def SameTraffic (first second : UsageTable) : Prop :=
  ∀ domain, (first.get? domain).map DomainUsage.traffic = (second.get? domain).map DomainUsage.traffic

/-- A table represents exact totals if it lists just the domains with traffic, holds the total of every
quantity, and has no count of zero. -/
structure Represents (table : UsageTable) (total : String → Quantity → Nat) : Prop where
  listed : ∀ domain, table.contains domain = true ↔ ∃ quantity, total domain quantity ≠ 0
  amounts : ∀ domain quantity, (table.amount domain quantity).toNat = total domain quantity
  canonical : table.Canonical

/-- The table of one domain that was accessed a number of times, always by TCP and never by UDP. -/
def single (domain : String) (number : UInt64) : UsageTable :=
  SortedMap.ofList [(domain,
    { domain
      counters := { accesses := number }
      protocols := SortedMap.ofList [("tcp", number), ("udp", 0)] })]

/-- A listed domain has the amounts of its usage. -/
theorem amount_of_get? {table : UsageTable} {domain : String} {usage : DomainUsage}
    (found : table.get? domain = some usage) (quantity : Quantity) :
    table.amount domain quantity = usage.amount quantity := by
  simp only [amount, found, DomainUsage.amount?]

/-- A domain that is not listed has nothing. -/
theorem amount_of_not_listed {table : UsageTable} {domain : String}
    (absent : table.get? domain = none) (quantity : Quantity) : table.amount domain quantity = 0 := by
  simp only [amount, absent, DomainUsage.amount?]

/-- The empty table holds nothing. -/
theorem amount_empty (domain : String) (quantity : Quantity) :
    amount SortedMap.empty domain quantity = 0 := rfl

/-- The empty table is reduced. -/
theorem reduced_empty : Reduced SortedMap.empty :=
  ⟨fun _ _ => nofun, fun _ _ => nofun⟩

/-- In a table of one domain no amount passes the number of accesses. -/
theorem amount_single_le (name : String) (number : UInt64) (domain : String) (quantity : Quantity) :
    (single name number).amount domain quantity ≤ number := by
  have protocol (probe : String) :
      CountMap.count (SortedMap.ofList [("tcp", number), ("udp", 0)]) probe ≤ number := by
    simp only [CountMap.count, SortedMap.ofList, List.foldl_cons, List.foldl_nil,
      SortedMap.get?_insert, SortedMap.get?_empty]
    split
    next => exact UInt64.zero_le
    next =>
      split
      next => exact UInt64.le_refl number
      next => exact UInt64.zero_le
  simp only [amount, single, SortedMap.ofList, List.foldl_cons, List.foldl_nil,
    SortedMap.get?_insert, SortedMap.get?_empty]
  split
  next =>
    cases quantity with
    | accesses => exact UInt64.le_refl number
    | protocol probe => exact protocol probe
    | _ => exact UInt64.zero_le
  next => exact UInt64.zero_le

/-- Adding tables is clamped addition of every amount. -/
theorem amount_add (table added : UsageTable) (domain : String) (quantity : Quantity) :
    (table.add added).amount domain quantity =
      Counter.plus (table.amount domain quantity) (added.amount domain quantity) := by
  simp only [amount, add, SortedMap.get?_absorb]
  cases added.get? domain with
  | none => simp only [DomainUsage.amount?, Counter.plus_zero]
  | some usage =>
    cases table.get? domain with
    | none =>
      simp only [DomainUsage.amount?, Option.getD_none, DomainUsage.amount_add,
        DomainUsage.amount_none]
    | some present => simp only [DomainUsage.amount?, Option.getD_some, DomainUsage.amount_add]

/-- Adding to a canonical table keeps it canonical, whatever is added. -/
theorem canonical_add {table : UsageTable} (canonical : table.Canonical) (added : UsageTable) :
    (table.add added).Canonical := by
  intro domain usage found
  simp only [add, SortedMap.get?_absorb] at found
  cases listed : added.get? domain with
  | none =>
    rw [listed] at found
    exact canonical domain usage found
  | some addend =>
    simp only [listed, Option.some.injEq] at found
    subst found
    apply DomainUsage.canonical_add
    cases present : table.get? domain with
    | none => exact DomainUsage.canonical_none domain
    | some before => exact canonical domain before present

/-- The names of the domains play no part in the amounts. -/
theorem amount_named (table : UsageTable) (domain : String) (quantity : Quantity) :
    table.named.amount domain quantity = table.amount domain quantity := by
  simp only [amount, named, SortedMap.get?_mapValues]
  cases table.get? domain with
  | none => rfl
  | some usage => exact DomainUsage.amount_rename usage domain quantity

/-- Leaving out the domains without traffic changes no amount of a canonical table. -/
theorem amount_dropZeros {table : UsageTable} (canonical : table.Canonical) (domain : String)
    (quantity : Quantity) : table.dropZeros.amount domain quantity = table.amount domain quantity := by
  simp only [amount, dropZeros, SortedMap.get?_filter]
  cases found : table.get? domain with
  | none => rfl
  | some usage =>
    cases zero : usage.isZero with
    | false => simp only [Option.filter, zero, Bool.not_false, if_true]
    | true =>
      have nothing : usage.amount quantity = 0 :=
        (DomainUsage.isZero_iff (canonical domain usage found)).mp zero quantity
      simp only [Option.filter, zero, Bool.not_true, Bool.false_eq_true, if_false,
        DomainUsage.amount?, nothing]

/-- A canonical table without its domains that have no traffic is reduced. -/
theorem reduced_dropZeros {table : UsageTable} (canonical : table.Canonical) :
    table.dropZeros.Reduced := by
  have kept (domain : String) (usage : DomainUsage) (found : table.dropZeros.get? domain = some usage) :
      table.get? domain = some usage ∧ usage.isZero = false := by
    simpa only [dropZeros, SortedMap.get?_filter, Option.filter_eq_some_iff,
      Bool.not_eq_true'] using found
  exact ⟨fun domain usage found => canonical domain usage (kept domain usage found).1,
    fun domain usage found => (kept domain usage found).2⟩

/-- A reduced table lists exactly the domains with some amount above zero. -/
theorem contains_iff_amount {table : UsageTable} (reduced : table.Reduced) (domain : String) :
    table.contains domain = true ↔ ∃ quantity, table.amount domain quantity ≠ 0 := by
  rw [SortedMap.contains_iff]
  constructor
  · rintro ⟨usage, found⟩
    have busy : ¬usage.isZero = true := by simp [reduced.busy domain usage found]
    rw [DomainUsage.isZero_iff (reduced.canonical domain usage found)] at busy
    obtain ⟨quantity, positive⟩ := Classical.not_forall.mp busy
    refine ⟨quantity, ?_⟩
    rw [amount_of_get? found]
    exact positive
  · rintro ⟨quantity, positive⟩
    cases found : table.get? domain with
    | none => exact absurd (amount_of_not_listed found quantity) positive
    | some usage => exact ⟨usage, rfl⟩

/-- Reduced tables show the same traffic exactly when all their amounts agree. -/
theorem sameTraffic_iff {first second : UsageTable} (reduced : first.Reduced)
    (reduced' : second.Reduced) :
    first.SameTraffic second ↔
      ∀ domain quantity, first.amount domain quantity = second.amount domain quantity := by
  constructor
  · intro same domain quantity
    have here := same domain
    cases found : first.get? domain with
    | none =>
      rw [found, Option.map_none] at here
      have absent : second.get? domain = none := Option.map_eq_none_iff.mp here.symm
      rw [amount_of_not_listed found, amount_of_not_listed absent]
    | some usage =>
      rw [found, Option.map_some] at here
      obtain ⟨other, found', traffic⟩ := Option.map_eq_some_iff.mp here.symm
      rw [amount_of_get? found, amount_of_get? found']
      exact (DomainUsage.traffic_eq_iff (reduced.canonical domain usage found)
        (reduced'.canonical domain other found')).mp traffic.symm quantity
  · intro agree domain
    have together : first.contains domain = true ↔ second.contains domain = true := by
      simp only [contains_iff_amount reduced, contains_iff_amount reduced', agree]
    simp only [SortedMap.contains_iff] at together
    cases found : first.get? domain with
    | none =>
      cases found' : second.get? domain with
      | none => rfl
      | some other =>
        obtain ⟨usage, listed⟩ := together.mpr ⟨other, found'⟩
        rw [found] at listed
        cases listed
    | some usage =>
      obtain ⟨other, found'⟩ := together.mp ⟨usage, found⟩
      have traffic : usage.traffic = other.traffic := by
        apply (DomainUsage.traffic_eq_iff (reduced.canonical domain usage found)
          (reduced'.canonical domain other found')).mpr
        intro quantity
        rw [← amount_of_get? found, ← amount_of_get? found']
        exact agree domain quantity
      rw [found', Option.map_some, Option.map_some, traffic]

/-- A reduced table represents the numbers that its amounts are. -/
theorem represents_of_amounts {table : UsageTable} {total : String → Quantity → Nat}
    (reduced : table.Reduced)
    (amounts : ∀ domain quantity, (table.amount domain quantity).toNat = total domain quantity) :
    table.Represents total := by
  refine ⟨?_, amounts, reduced.canonical⟩
  intro domain
  rw [contains_iff_amount reduced]
  apply exists_congr
  intro quantity
  rw [← amounts domain quantity, ne_eq, ne_eq, ← UInt64.toNat_inj, UInt64.toNat_zero]

end FleetTraffic.UsageTable
