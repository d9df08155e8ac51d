import FleetTraffic.Proofs.Ledger.Change

/-!
# When the sums balance

As long as no total passes the greatest counter, the sums that are kept up to date entry by entry are
the exact totals of the entries, and so are the sums from scratch. Without that condition the kept
sums can fall short, but they never hold more than the entries justify.
-/

namespace FleetTraffic.Ledger

/-- No total passes the greatest counter. -/
def Fits (ledger : Ledger) : Prop :=
  ∀ domain quantity, ledger.total domain quantity ≤ Counter.greatest

/-- The kept sums and the sums from scratch both represent the totals, with the same traffic. -/
structure Balanced (ledger : Ledger) : Prop where
  kept : ledger.sums.Represents ledger.total
  scratch : ledger.resum.Represents ledger.total
  agree : ledger.sums.SameTraffic ledger.resum

/-- The kept sums hold nothing that the entries do not justify: no more of any quantity than the sums
from scratch, no domain that these lack, and no count or domain without an entry that counts it. -/
structure Justified (ledger : Ledger) : Prop where
  listed : ∀ domain, ledger.sums.contains domain = true → ledger.resum.contains domain = true
  bounded : ∀ domain quantity,
    ledger.sums.amount domain quantity ≤ ledger.resum.amount domain quantity
  canonical : ledger.sums.Canonical
  busy : ∀ domain, ledger.sums.contains domain = true →
    ∃ quantity, ledger.sums.amount domain quantity ≠ 0
  live : ∀ domain quantity, ledger.sums.amount domain quantity ≠ 0 →
    ∃ agent contribution, ledger.entries.get? agent = some contribution ∧
      UsageTable.amount contribution domain quantity ≠ 0

/-! ## Totals that fit -/

/-- A single entry always fits: its amounts are counters. -/
theorem fits_of_size_le_one {ledger : Ledger} (single : ledger.entries.size ≤ 1) : ledger.Fits := by
  intro domain quantity
  have bound (table : UsageTable) : (table.amount domain quantity).toNat ≤ Counter.greatest :=
    Counter.toNat_le_greatest _
  rw [total, SortedMap.sumBy, SortedMap.values]
  cases listed : ledger.entries.entries with
  | nil => exact Nat.zero_le _
  | cons entry rest =>
    have alone : rest = [] := by
      rw [SortedMap.size, listed, List.length_cons] at single
      exact List.length_eq_zero_iff.mp (by omega)
    rw [alone]
    exact bound entry.2

/-- A change adds at most the new contribution to a total. -/
theorem total_change_le (ledger : Ledger) (step : LedgerChange) (domain : String)
    (quantity : Quantity) :
    (ledger.change step).total domain quantity ≤
      ledger.total domain quantity + (step.contribution.amount domain quantity).toNat := by
  have split := total_eq_others_add ledger step.agent domain quantity
  rw [total_change]
  omega

/-- After a run no total passes what all its contributions add up to. -/
theorem total_run_le (changes : List LedgerChange) (domain : String) (quantity : Quantity) :
    (run changes).total domain quantity ≤
      (changes.map fun step => (step.contribution.amount domain quantity).toNat).sum := by
  induction changes using List.reverseRecOn with
  | nil => exact Nat.le_refl 0
  | append_singleton before last inductionHypothesis =>
    have grown := total_change_le (run before) last domain quantity
    rw [run_concat]
    simp only [List.map_append, List.map_cons, List.map_nil, List.sum_append_nat, List.sum_cons,
      List.sum_nil]
    omega

/-- All totals fit at every time of a run whose contributions together fit. -/
theorem fits_of_contributions_fit {changes : List LedgerChange}
    (small : ∀ domain quantity,
      (changes.map fun step => (step.contribution.amount domain quantity).toNat).sum ≤
        Counter.greatest) :
    ∀ earlier, earlier <+: changes → (run earlier).Fits := by
  rintro earlier ⟨rest, rfl⟩ domain quantity
  have below := total_run_le earlier domain quantity
  have whole := small domain quantity
  rw [List.map_append, List.sum_append_nat] at whole
  omega

/-! ## Exact sums -/

/-- A change of exact sums gives exact sums if the new total fits. The old contribution is part of the
old total, so nothing is clamped when it is taken away. -/
theorem exact_change {ledger : Ledger} (reduced : ledger.sums.Reduced) (step : LedgerChange)
    {domain : String} {quantity : Quantity}
    (same : (ledger.sums.amount domain quantity).toNat = ledger.total domain quantity)
    (fits : (ledger.change step).total domain quantity ≤ Counter.greatest) :
    ((ledger.change step).sums.amount domain quantity).toNat =
      (ledger.change step).total domain quantity := by
  have split := total_eq_others_add ledger step.agent domain quantity
  rw [amount_sums_change reduced, Counter.toNat_plus, Counter.toNat_minus, same]
  rw [total_change] at fits ⊢
  omega

/-- The sums are exact after a run in which every total fitted at every time. -/
theorem exact_run (changes : List LedgerChange)
    (fits : ∀ earlier, earlier <+: changes → (run earlier).Fits) (domain : String)
    (quantity : Quantity) :
    ((run changes).sums.amount domain quantity).toNat = (run changes).total domain quantity := by
  induction changes using List.reverseRecOn with
  | nil => rfl
  | append_singleton before last inductionHypothesis =>
    have fitted : ∀ earlier, earlier <+: before → (run earlier).Fits := fun earlier isPrefix =>
      fits earlier (isPrefix.trans (List.prefix_append before [last]))
    have now : (run (before ++ [last])).Fits := fits _ (List.prefix_refl _)
    rw [run_concat] at now ⊢
    exact exact_change (reduced_sums_run before) last (inductionHypothesis fitted)
      (now domain quantity)

/-- The sums from scratch represent totals that fit. -/
theorem resum_represents {ledger : Ledger} (fits : ledger.Fits) :
    ledger.resum.Represents ledger.total := by
  apply UsageTable.represents_of_amounts (reduced_resum ledger)
  intro domain quantity
  rw [toNat_amount_resum]
  exact Nat.min_eq_left (fits domain quantity)

/-- Where all totals fit, the kept sums balance exactly when they are exact. -/
theorem balanced_of_exact {ledger : Ledger} (reduced : ledger.sums.Reduced) (fits : ledger.Fits)
    (same : ∀ domain quantity,
      (ledger.sums.amount domain quantity).toNat = ledger.total domain quantity) :
    ledger.Balanced := by
  have scratch : ledger.resum.Represents ledger.total := resum_represents fits
  refine ⟨UsageTable.represents_of_amounts reduced same, scratch, ?_⟩
  apply (UsageTable.sameTraffic_iff reduced (reduced_resum ledger)).mpr
  intro domain quantity
  apply UInt64.toNat_inj.mp
  rw [same, scratch.amounts]

/-- The ledger balances after every call of a run in which no total ever passed the greatest counter,
whatever agents and contributions the calls name. -/
theorem balanced_while_fitting (changes : List LedgerChange)
    (fits : ∀ earlier, earlier <+: changes → (run earlier).Fits) :
    ∀ earlier, earlier <+: changes → (run earlier).Balanced := by
  intro earlier isPrefix
  have fitted : ∀ before, before <+: earlier → (run before).Fits := fun before isBefore =>
    fits before (isBefore.trans isPrefix)
  exact balanced_of_exact (reduced_sums_run earlier) (fits earlier isPrefix)
    (exact_run earlier fitted)

/-- Two agents share a domain that is almost full, one of them gives it up for a domain without
traffic, the other is removed, and so is an agent that was never there. -/
def sharedDomain : List LedgerChange :=
  [.replace "a" (.single "x.org" 7), .replace "b" (.single "x.org" 18446744073709551600),
    .replace "a" (.single "y.org" 0), .remove "b", .remove "c"]

/-- The shared domain fits at every time, and the ledger balances at every time. -/
theorem sharedDomain_balanced :
    (∀ earlier, earlier <+: sharedDomain → (run earlier).Fits) ∧
      ∀ earlier, earlier <+: sharedDomain → (run earlier).Balanced := by
  have fits : ∀ earlier, earlier <+: sharedDomain → (run earlier).Fits := by
    apply fits_of_contributions_fit
    intro domain quantity
    have first := UsageTable.amount_single_le "x.org" 7 domain quantity
    have second := UsageTable.amount_single_le "x.org" 18446744073709551600 domain quantity
    have third := UsageTable.amount_single_le "y.org" 0 domain quantity
    simp only [sharedDomain, LedgerChange.contribution, List.map_cons, List.map_nil, List.sum_cons,
      List.sum_nil, UsageTable.amount_empty, UInt64.toNat_zero]
    rw [UInt64.le_iff_toNat_le] at first second third
    have sizes : (7 : UInt64).toNat = 7 ∧ (18446744073709551600 : UInt64).toNat = 18446744073709551600 ∧
        (0 : UInt64).toNat = 0 := by decide
    rw [Counter.greatest]
    omega
  exact ⟨fits, balanced_while_fitting sharedDomain fits⟩

/-! ## Bounded sums -/

/-- A change keeps a sum within its total: clamping can only lose, never add. -/
theorem bounded_change {ledger : Ledger} (reduced : ledger.sums.Reduced) (step : LedgerChange)
    {domain : String} {quantity : Quantity}
    (bounded : (ledger.sums.amount domain quantity).toNat ≤ ledger.total domain quantity) :
    ((ledger.change step).sums.amount domain quantity).toNat ≤
      (ledger.change step).total domain quantity := by
  have split := total_eq_others_add ledger step.agent domain quantity
  rw [amount_sums_change reduced, Counter.toNat_plus, Counter.toNat_minus, total_change]
  omega

/-- No sum passes its total, after any run. -/
theorem bounded_run (changes : List LedgerChange) (domain : String) (quantity : Quantity) :
    ((run changes).sums.amount domain quantity).toNat ≤ (run changes).total domain quantity := by
  induction changes using List.reverseRecOn with
  | nil => exact Nat.le_refl 0
  | append_singleton before last inductionHypothesis =>
    rw [run_concat]
    exact bounded_change (reduced_sums_run before) last inductionHypothesis

/-- A total above zero has an entry that counts something. -/
theorem exists_entry_of_total {ledger : Ledger} {domain : String} {quantity : Quantity}
    (positive : ledger.total domain quantity ≠ 0) :
    ∃ agent contribution, ledger.entries.get? agent = some contribution ∧
      UsageTable.amount contribution domain quantity ≠ 0 := by
  obtain ⟨agent, contribution, found, counted⟩ :=
    SortedMap.exists_of_sumBy_ne_zero _ ledger.entries positive
  refine ⟨agent, contribution, found, ?_⟩
  intro zero
  exact counted (by rw [zero, UInt64.toNat_zero])

/-- The ledger is justified after every run, also one in which additions saturate and subtractions are
clamped. -/
theorem justified_run (changes : List LedgerChange) : (run changes).Justified := by
  have reduced : (run changes).sums.Reduced := reduced_sums_run changes
  have bounded (domain : String) (quantity : Quantity) :
      (run changes).sums.amount domain quantity ≤ (run changes).resum.amount domain quantity := by
    have total := bounded_run changes domain quantity
    have counter := Counter.toNat_le_greatest ((run changes).sums.amount domain quantity)
    rw [UInt64.le_iff_toNat_le, toNat_amount_resum]
    exact Nat.le_min.mpr ⟨total, counter⟩
  have busy (domain : String) (present : (run changes).sums.contains domain = true) :
      ∃ quantity, (run changes).sums.amount domain quantity ≠ 0 :=
    (UsageTable.contains_iff_amount reduced domain).mp present
  refine ⟨?_, bounded, reduced.canonical, busy, ?_⟩
  · intro domain present
    obtain ⟨quantity, positive⟩ := busy domain present
    apply (UsageTable.contains_iff_amount (reduced_resum _) domain).mpr
    refine ⟨quantity, ?_⟩
    intro zero
    have below := bounded domain quantity
    rw [zero, UInt64.le_zero_iff] at below
    exact positive below
  · intro domain quantity positive
    apply exists_entry_of_total
    intro zero
    have below := bounded_run changes domain quantity
    rw [zero, Nat.le_zero] at below
    exact positive (UInt64.toNat_inj.mp below)

end FleetTraffic.Ledger
