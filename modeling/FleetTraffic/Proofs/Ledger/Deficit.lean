import FleetTraffic.Proofs.Ledger.Balance

/-!
# What saturation loses

When an addition stops at the greatest counter, the sum falls short of its total, and taking
contributions away later does not give the missing part back. The shortfall is the deficit. A change
leaves it as it is unless the agents other than the changed one hold less: then the subtraction stops
at zero, and the deficit shrinks to what they hold. Whatever a new total has beyond the greatest
counter is a deficit again.

So a deficit is gone exactly when, since the total last passed the greatest counter, some change was
one of the only agent that held any of the quantity. This condition speaks of the entries alone, and
it decides whether the kept sums agree with the sums from scratch.
-/

namespace FleetTraffic.Ledger

/-- By how much a sum falls short of its total. -/
def deficit (ledger : Ledger) (domain : String) (quantity : Quantity) : Nat :=
  ledger.total domain quantity - (ledger.sums.amount domain quantity).toNat

/-- Whenever the total passed the greatest counter, a later change was made for an agent beside whom
nobody held any of the quantity. -/
def Recovered (changes : List LedgerChange) (domain : String) (quantity : Quantity) : Prop :=
  ∀ earlier, earlier <+: changes → Counter.greatest < (run earlier).total domain quantity →
    ∃ later step, earlier <+: later ∧ later ++ [step] <+: changes ∧
      (run later).totalOfOthers step.agent domain quantity = 0

/-- A change cuts the deficit to what the other agents hold, and raises it to what the new total has
beyond the greatest counter. -/
theorem deficit_change {ledger : Ledger} (reduced : ledger.sums.Reduced) (step : LedgerChange)
    {domain : String} {quantity : Quantity}
    (bounded : (ledger.sums.amount domain quantity).toNat ≤ ledger.total domain quantity) :
    (ledger.change step).deficit domain quantity =
      max (min (ledger.deficit domain quantity) (ledger.totalOfOthers step.agent domain quantity))
        ((ledger.change step).total domain quantity - Counter.greatest) := by
  have split := total_eq_others_add ledger step.agent domain quantity
  have counter := Counter.toNat_le_greatest (step.contribution.amount domain quantity)
  simp only [deficit, amount_sums_change reduced, Counter.toNat_plus, Counter.toNat_minus,
    total_change]
  omega

/-- After a change there is no deficit just if the new total fits, and either there was none before or
the other agents hold nothing. -/
theorem deficit_change_eq_zero_iff {ledger : Ledger} (reduced : ledger.sums.Reduced)
    (step : LedgerChange) {domain : String} {quantity : Quantity}
    (bounded : (ledger.sums.amount domain quantity).toNat ≤ ledger.total domain quantity) :
    (ledger.change step).deficit domain quantity = 0 ↔
      (ledger.change step).total domain quantity ≤ Counter.greatest ∧
        (ledger.deficit domain quantity = 0 ∨
          ledger.totalOfOthers step.agent domain quantity = 0) := by
  rw [deficit_change reduced step bounded]
  omega

/-- One change more recovers just if the new total fits, and either the run had recovered before or
the change is made for an agent beside whom nobody holds anything. -/
theorem recovered_concat (before : List LedgerChange) (last : LedgerChange) (domain : String)
    (quantity : Quantity) :
    Recovered (before ++ [last]) domain quantity ↔
      (run (before ++ [last])).total domain quantity ≤ Counter.greatest ∧
        (Recovered before domain quantity ∨
          (run before).totalOfOthers last.agent domain quantity = 0) := by
  constructor
  · intro recovered
    constructor
    · apply Nat.le_of_not_lt
      intro passed
      obtain ⟨later, step, after, within, _⟩ := recovered _ (List.prefix_refl _) passed
      have longer := after.length_le
      have shorter := within.length_le
      simp only [List.length_append, List.length_singleton] at longer shorter
      omega
    · by_cases alone : (run before).totalOfOthers last.agent domain quantity = 0
      · exact .inr alone
      · refine .inl ?_
        intro earlier isPrefix passed
        obtain ⟨later, step, after, within, nobody⟩ :=
          recovered earlier (isPrefix.trans (List.prefix_append before [last])) passed
        rcases List.prefix_concat_iff.mp within with whole | inside
        · obtain ⟨rfl, rfl⟩ := List.concat_inj.mp (by simpa only [List.concat_eq_append] using whole)
          exact absurd nobody alone
        · exact ⟨later, step, after, inside, nobody⟩
  · rintro ⟨fits, before_or_alone⟩ earlier isPrefix passed
    rcases List.prefix_concat_iff.mp isPrefix with rfl | inside
    · exact absurd fits (Nat.not_le_of_lt passed)
    · rcases before_or_alone with recovered | alone
      · obtain ⟨later, step, after, within, nobody⟩ := recovered earlier inside passed
        exact ⟨later, step, after, within.trans (List.prefix_append before [last]), nobody⟩
      · exact ⟨before, last, inside, List.prefix_refl _, alone⟩

/-- There is no deficit after a run exactly when the run has recovered from every passing of the
greatest counter. -/
theorem deficit_run_eq_zero_iff (changes : List LedgerChange) (domain : String)
    (quantity : Quantity) :
    (run changes).deficit domain quantity = 0 ↔ Recovered changes domain quantity := by
  induction changes using List.reverseRecOn with
  | nil =>
    have nothing : (run []).total domain quantity = 0 := rfl
    constructor
    · intro _ earlier isPrefix passed
      rw [List.prefix_nil.mp isPrefix, nothing] at passed
      exact absurd passed (Nat.not_lt_zero _)
    · intro _
      rw [deficit, nothing, Nat.zero_sub]
  | append_singleton before last inductionHypothesis =>
    rw [recovered_concat, run_concat, ← inductionHypothesis]
    exact deficit_change_eq_zero_iff (reduced_sums_run before) last
      (bounded_run before domain quantity)

/-- Where all totals fit, the kept sums show the same traffic as the sums from scratch exactly when the
run has recovered in every quantity. -/
theorem agree_iff_recovered (changes : List LedgerChange) (fits : (run changes).Fits) :
    (run changes).sums.SameTraffic (run changes).resum ↔
      ∀ domain quantity, Recovered changes domain quantity := by
  rw [UsageTable.sameTraffic_iff (reduced_sums_run changes) (reduced_resum _)]
  apply forall_congr'
  intro domain
  apply forall_congr'
  intro quantity
  have bounded := bounded_run changes domain quantity
  have scratch := (resum_represents fits).amounts domain quantity
  rw [← deficit_run_eq_zero_iff, deficit, ← UInt64.toNat_inj, scratch]
  omega

end FleetTraffic.Ledger
