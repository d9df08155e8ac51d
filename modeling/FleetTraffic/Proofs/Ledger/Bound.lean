import FleetTraffic.Proofs.Ledger.Balance
import FleetTraffic.Proofs.SortedMap.Keys

/-!
# Small ledgers

Whether all totals fit is a question about every domain and every quantity. A bound on the numbers that the
entries hold answers it: if no entry passes the bound, and that many entries of the bound's size would fit,
then all totals do.
-/

namespace FleetTraffic

/-- No number that a usage holds passes a bound. -/
def DomainUsage.AtMost (usage : DomainUsage) (bound : UInt64) : Prop :=
  (usage.counters.accesses ≤ bound ∧ usage.counters.bytesSent ≤ bound ∧
    usage.counters.bytesReceived ≤ bound ∧ usage.counters.connections ≤ bound) ∧
    (usage.protocols.values.all fun count => count ≤ bound) ∧
    usage.ports.values.all fun count => count ≤ bound

instance (usage : DomainUsage) (bound : UInt64) : Decidable (usage.AtMost bound) :=
  inferInstanceAs (Decidable (_ ∧ _ ∧ _))

/-- A count does not pass a bound that no listed count passes. -/
theorem CountMap.count_le {κ : Type} [Ord κ] [DecidableEq κ] [Std.LawfulEqOrd κ] {counts : CountMap κ}
    {bound : UInt64} (each : counts.values.all fun count => count ≤ bound) (key : κ) :
    counts.count key ≤ bound := by
  rw [count]
  cases found : counts.get? key with
  | none => exact UInt64.zero_le
  | some number =>
    have listed := (SortedMap.mem_values_iff counts number).mpr ⟨key, found⟩
    exact of_decide_eq_true (List.all_eq_true.mp each number listed)

/-- No amount in a usage passes the bound of its numbers. -/
theorem DomainUsage.amount_le {usage : DomainUsage} {bound : UInt64} (small : usage.AtMost bound)
    (quantity : Quantity) : usage.amount quantity ≤ bound := by
  obtain ⟨⟨accesses, bytesSent, bytesReceived, connections⟩, protocols, ports⟩ := small
  cases quantity with
  | accesses => exact accesses
  | bytesSent => exact bytesSent
  | bytesReceived => exact bytesReceived
  | connections => exact connections
  | protocol name => exact CountMap.count_le protocols name
  | port number => exact CountMap.count_le ports number

namespace Ledger

/-- No entry holds a number beyond the bound, and as many numbers of that size fit. -/
def Small (ledger : Ledger) (bound : UInt64) : Prop :=
  (∀ table ∈ ledger.entries.values, ∀ usage ∈ SortedMap.values table, usage.AtMost bound) ∧
    ledger.entries.size * bound.toNat ≤ Counter.greatest

instance (ledger : Ledger) (bound : UInt64) : Decidable (ledger.Small bound) :=
  inferInstanceAs (Decidable (_ ∧ _))

/-- The totals of a small ledger fit. -/
theorem fits_of_small {ledger : Ledger} {bound : UInt64} (small : ledger.Small bound) : ledger.Fits := by
  intro domain quantity
  have each : ∀ amount ∈ ledger.entries.values.map fun table =>
      (UsageTable.amount table domain quantity).toNat, amount ≤ bound.toNat := by
    intro amount member
    obtain ⟨table, listed, rfl⟩ := List.mem_map.mp member
    apply UInt64.le_iff_toNat_le.mp
    cases found : SortedMap.get? table domain with
    | none =>
      rw [UsageTable.amount_of_not_listed found]
      exact UInt64.zero_le
    | some usage =>
      have inside := (SortedMap.mem_values_iff table usage).mpr ⟨domain, found⟩
      rw [UsageTable.amount_of_get? found]
      exact DomainUsage.amount_le (small.1 table listed usage inside) quantity
  have sum := List.sum_le_card_nsmul _ _ each
  rw [List.length_map, SortedMap.values, List.length_map, smul_eq_mul] at sum
  exact Nat.le_trans sum small.2

end Ledger

end FleetTraffic
