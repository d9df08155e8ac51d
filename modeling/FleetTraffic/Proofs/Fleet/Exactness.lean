import FleetTraffic.Proofs.Fleet.Representation
import FleetTraffic.Proofs.Ledger.Bound

/-!
# Exact sums of a fleet

While no total of a fleet passes the greatest counter, its kept sums are exact after every operation. An
expiry removes several agents one after the other, but the totals only fall on the way, so it is enough
that they fitted before it.

The totals are a matter of the roster: they add up what the known agents contribute.
-/

namespace FleetTraffic

namespace Ledger

/-- The kept sums are the totals. -/
def Exact (ledger : Ledger) : Prop :=
  ∀ domain quantity, (ledger.sums.amount domain quantity).toNat = ledger.total domain quantity

/-- Removing an agent adds to no total. -/
theorem total_remove_le (ledger : Ledger) (agent domain : String) (quantity : Quantity) :
    (ledger.change (.remove agent)).total domain quantity ≤ ledger.total domain quantity := by
  have split := total_eq_others_add ledger agent domain quantity
  have rest := total_change ledger (.remove agent) domain quantity
  simp only [LedgerChange.agent, LedgerChange.contribution, UsageTable.amount_empty,
    UInt64.toNat_zero] at rest
  omega

/-- Removing agents one after the other keeps exact sums exact and totals fitting. -/
theorem exact_foldl_remove (agents : List String) {ledger : Ledger} (reduced : ledger.sums.Reduced)
    (precise : ledger.Exact) (fits : ledger.Fits) :
    ((agents.map LedgerChange.remove).foldl change ledger).Exact ∧
      ((agents.map LedgerChange.remove).foldl change ledger).Fits := by
  induction agents generalizing ledger with
  | nil => exact ⟨precise, fits⟩
  | cons agent rest inductionHypothesis =>
    have fitted : (ledger.change (.remove agent)).Fits := fun domain quantity =>
      Nat.le_trans (total_remove_le ledger agent domain quantity) (fits domain quantity)
    have stays : (ledger.change (.remove agent)).Exact := fun domain quantity =>
      exact_change reduced (.remove agent) (precise domain quantity) (fitted domain quantity)
    exact inductionHypothesis (reduced_sums_change reduced (.remove agent)) stays fitted

/-- Exact sums over the same entries show the same traffic. -/
theorem sameTraffic_of_exact {first second : Ledger} (reduced : first.sums.Reduced)
    (reduced' : second.sums.Reduced) (precise : first.Exact) (precise' : second.Exact)
    (same : first.entries = second.entries) : first.sums.SameTraffic second.sums := by
  apply (UsageTable.sameTraffic_iff reduced reduced').mpr
  intro domain quantity
  apply UInt64.toNat_inj.mp
  rw [precise, precise', total, total, same]

end Ledger

namespace IncrementalFleet

variable {fleet : IncrementalFleet}

/-- An operation keeps exact sums exact, if the totals fit before and after it. -/
theorem exact_apply (reduced : fleet.ledger.sums.Reduced) (precise : fleet.ledger.Exact)
    (fitsBefore : fleet.ledger.Fits) (options : FleetOptions) (operation : FleetOperation)
    (fitsAfter : (fleet.apply options operation).2.ledger.Fits) :
    (fleet.apply options operation).2.ledger.Exact := by
  cases operation with
  | report report now =>
    intro domain quantity
    -- One change keeps exact sums exact as soon as the totals fit after it.
    exact Ledger.exact_change reduced (.replace report.agentId _) (precise domain quantity)
      (fitsAfter domain quantity)
  | touch agent now => exact precise
  | heartbeat heartbeat now => exact precise
  | expire maxAge now =>
    rw [ledger_apply]
    exact (Ledger.exact_foldl_remove _ reduced precise fitsBefore).1

/-- After an expiry the totals fit if they did before. -/
theorem fits_expire (reduced : fleet.ledger.sums.Reduced) (precise : fleet.ledger.Exact)
    (fits : fleet.ledger.Fits) (options : FleetOptions) (maxAge : Duration) (now : Instant) :
    (fleet.apply options (.expire maxAge now)).2.ledger.Fits := by
  rw [ledger_apply]
  exact (Ledger.exact_foldl_remove _ reduced precise fits).2

/-- The sums are exact after every run in which the totals fitted at every time. -/
theorem exact_run (options : FleetOptions) (operations : List FleetOperation)
    (fits : ∀ earlier, earlier <+: operations → (run options earlier).ledger.Fits) :
    (run options operations).ledger.Exact := by
  induction operations using List.reverseRecOn with
  | nil => exact fun _ _ => rfl
  | append_singleton before last inductionHypothesis =>
    have isPrefix : before <+: before ++ [last] := List.prefix_append before [last]
    have precise := inductionHypothesis fun earlier isEarlier => fits earlier (isEarlier.trans isPrefix)
    have fitsAfter := fits _ (List.prefix_refl _)
    rw [run_concat] at fitsAfter ⊢
    exact exact_apply (reduced_sums options before) precise (fits before isPrefix) options last fitsAfter

end IncrementalFleet

/-! ## Totals of a roster -/

/-- What the known agents contribute together, without a bound. -/
def Roster.total (roster : Roster) (domain : String) (quantity : Quantity) : Nat :=
  (roster.records.keys.map fun agent =>
    ((roster.contribution agent).amount domain quantity).toNat).sum

/-- No total of a roster passes the greatest counter. -/
def Roster.Fits (roster : Roster) : Prop :=
  ∀ domain quantity, roster.total domain quantity ≤ Counter.greatest

/-- The totals of an up to date ledger are those of the roster: just the agents without an entry contribute
nothing. -/
theorem IncrementalFleet.total_eq_roster {fleet : IncrementalFleet} (mirrors : fleet.Mirrors)
    (coherent : fleet.roster.Coherent) (domain : String) (quantity : Quantity) :
    fleet.ledger.total domain quantity = fleet.roster.total domain quantity := by
  -- The entries are the contributions of the known agents, without the empty ones.
  have entries : fleet.ledger.entries =
      (fleet.roster.records.mapValues fun agent _ => fleet.roster.contribution agent).filter
        fun _ contribution => !contribution.isEmpty := by
    apply SortedMap.ext
    intro agent
    rw [mirrors agent, Roster.entryOf, SortedMap.get?_filter, SortedMap.get?_mapValues]
    cases known : fleet.roster.records.get? agent with
    | none =>
      rw [Roster.contribution_unknown coherent known]
      rfl
    | some record =>
      cases nothing : (fleet.roster.contribution agent).isEmpty <;>
        simp [nothing, Option.filter]
  have zero (agent : String) (contribution : UsageTable)
      (empty : (!contribution.isEmpty) = false) :
      (contribution.amount domain quantity).toNat = 0 := by
    have nothing := (SortedMap.isEmpty_iff contribution).mp (by simpa using empty) domain
    rw [UsageTable.amount_of_not_listed nothing, UInt64.toNat_zero]
  rw [Ledger.total, entries, SortedMap.sumBy_filter_of_zero _ _ zero,
    SortedMap.sumBy_of_keys (fun table : UsageTable => (table.amount domain quantity).toNat),
    Roster.total]

/-- The totals of the ledger fit exactly when those of the roster do. -/
theorem IncrementalFleet.fits_run_iff (options : FleetOptions) (operations : List FleetOperation) :
    (run options operations).ledger.Fits ↔ (Roster.run options operations).Fits := by
  have total := total_eq_roster (mirrors_run options operations) (coherent_roster options operations)
  simp only [Ledger.Fits, Roster.Fits, total, roster_run]

end FleetTraffic
