import FleetTraffic.Fleet.Recomputing
import FleetTraffic.Proofs.Ledger.AccessTimes
import FleetTraffic.Proofs.Usage.Merging

/-!
# Sums in any order

The sums from scratch walk over the agents, and the agents of a ledger stand in no order of their own. So the
sums mean something only if every walk ends with the same table. It does: two usages may be merged into a third
in either order, and from this two neighbours of a walk may change places.

What the walk arrives at is told without any order. Every amount is the exact sum of the amounts, clamped once at
the end although each step clamps. The time of access is the latest one, but not before the epoch, where a walk
starts. The protocols and ports that are listed are those that some usage counts, so no count of zero is left.
-/

namespace FleetTraffic

/-! ## Two neighbours change places -/

/-- Two counters are added to a third in either order, also where a sum is clamped. -/
theorem Counter.plus_right_comm (counter first second : UInt64) :
    plus (plus counter first) second = plus (plus counter second) first := by
  apply UInt64.toNat_inj.mp
  simp only [toNat_plus]
  omega

/-- The latest of three instants does not depend on which of the last two comes first. -/
theorem Instant.later_right_comm (instant first second : Instant) :
    (instant.later first).later second = (instant.later second).later first := by
  rw [later_assoc, later_comm first, ← later_assoc]

/-- Two maps of counts are added to a third in either order. -/
theorem CountMap.add_right_comm {κ : Type} [Ord κ] [DecidableEq κ] [Std.TransOrd κ] [Std.LawfulEqOrd κ]
    (counts first second : CountMap κ) :
    (counts.add first).add second = (counts.add second).add first := by
  apply SortedMap.ext
  intro key
  simp only [get?_add]
  cases first.get? key with
  | none => rfl
  | some number =>
    cases second.get? key with
    | none => rfl
    | some other =>
      -- A count of zero is passed over, in whichever turn it comes.
      by_cases zero : number = 0
      · simp only [if_pos zero]
      · by_cases zero' : other = 0
        · simp only [if_pos zero']
        · simp only [if_neg zero, if_neg zero', Option.getD_some, Counter.plus_right_comm]

/-- Two usages are merged into a third in either order. -/
theorem DomainUsage.add_right_comm (usage first second : DomainUsage) :
    (usage.add first).add second = (usage.add second).add first := by
  simp only [add, Counters.plus, Counters.zipWith, CountMap.add_right_comm _ first.protocols,
    CountMap.add_right_comm _ first.ports, Counter.plus_right_comm _ first.counters.accesses,
    Counter.plus_right_comm _ first.counters.bytesSent,
    Counter.plus_right_comm _ first.counters.bytesReceived,
    Counter.plus_right_comm _ first.counters.connections,
    Instant.later_right_comm _ first.lastAccess]

/-- Two tables are added to a third in either order. -/
theorem UsageTable.add_right_comm (table first second : UsageTable) :
    (table.add first).add second = (table.add second).add first := by
  apply SortedMap.ext
  intro domain
  simp only [get?_add]
  cases first.get? domain with
  | none => rfl
  | some usage =>
    cases second.get? domain with
    | none => rfl
    | some other => simp only [DomainUsage.merged, Option.getD_some, DomainUsage.add_right_comm]

/-- Usages in another order are merged to the same. -/
theorem DomainUsage.foldl_add_perm {usages reordered : List DomainUsage}
    (permutation : usages.Perm reordered) (start : DomainUsage) :
    usages.foldl add start = reordered.foldl add start :=
  permutation.foldl_eq' (fun first _ second _ usage => add_right_comm usage first second) start

/-- Tables in another order add up to the same. -/
theorem UsageTable.foldl_add_perm {tables reordered : List UsageTable}
    (permutation : tables.Perm reordered) (start : UsageTable) :
    tables.foldl add start = reordered.foldl add start :=
  permutation.foldl_eq' (fun first _ second _ table => add_right_comm table first second) start

/-- The sums over live agents are the same for every order of the agents. -/
theorem RecomputingFleet.sumOver_perm (roster : Roster) {agents reordered : List String}
    (permutation : agents.Perm reordered) : sumOver roster agents = sumOver roster reordered := by
  have same := UsageTable.foldl_add_perm (permutation.map roster.contribution) .empty
  rw [List.foldl_map, List.foldl_map] at same
  exact congrArg UsageTable.dropZeros same

/-! ## What usages come to -/

/-- After an addition a key is listed if it was before or if the added map counts it. -/
theorem CountMap.contains_add {κ : Type} [Ord κ] [DecidableEq κ] [Std.TransOrd κ] [Std.LawfulEqOrd κ]
    (counts added : CountMap κ) (key : κ) :
    (counts.add added).contains key = true ↔ counts.contains key = true ∨ added.count key ≠ 0 := by
  rw [SortedMap.contains, get?_add, count, SortedMap.contains]
  cases added.get? key with
  | none => simp
  | some number => by_cases zero : number = 0 <;> simp [zero]

namespace DomainUsage

/-- A usage is the sum of others for a domain. Nothing here depends on the order of the others. -/
structure SumOf (domain : String) (usages : List DomainUsage) (sum : DomainUsage) : Prop where
  name : sum.domain = domain
  amounts : ∀ quantity, (sum.amount quantity).toNat =
    min (usages.map fun usage => (usage.amount quantity).toNat).sum Counter.greatest
  protocols : ∀ name, sum.protocols.contains name = true ↔
    ∃ usage ∈ usages, usage.amount (.protocol name) ≠ 0
  ports : ∀ number, sum.ports.contains number = true ↔
    ∃ usage ∈ usages, usage.amount (.port number) ≠ 0
  attained : sum.lastAccess = .epoch ∨ ∃ usage ∈ usages, usage.lastAccess = sum.lastAccess
  notBeforeEpoch : ¬sum.lastAccess < .epoch
  notBefore : ∀ usage ∈ usages, ¬sum.lastAccess < usage.lastAccess

/-- No traffic is the sum of no usages. -/
theorem sumOf_nil (domain : String) : SumOf domain [] (none domain) where
  name := rfl
  amounts quantity := by
    rw [amount_none, List.map_nil, List.sum_nil, Nat.zero_min, UInt64.toNat_zero]
  protocols name := by simp [none, SortedMap.contains, SortedMap.get?_empty]
  ports number := by simp [none, SortedMap.contains, SortedMap.get?_empty]
  attained := .inl rfl
  notBeforeEpoch := Instant.not_lt_self _
  notBefore usage member := by cases member

/-- Merging one usage more into a sum gives the sum of one usage more. -/
theorem SumOf.concat {domain : String} {usages : List DomainUsage} {sum : DomainUsage}
    (summed : SumOf domain usages sum) (last : DomainUsage) :
    SumOf domain (usages ++ [last]) (sum.add last) where
  name := summed.name
  amounts quantity := by
    rw [amount_add, Counter.toNat_plus, summed.amounts, List.map_append, List.sum_append,
      List.map_singleton, List.sum_singleton]
    omega
  protocols name := by
    rw [add, CountMap.contains_add, summed.protocols]
    simp [or_and_right, exists_or, amount]
  ports number := by
    rw [add, CountMap.contains_add, summed.ports]
    simp [or_and_right, exists_or, amount]
  attained := by
    rcases Instant.later_eq_or sum.lastAccess last.lastAccess with old | new
    · rw [add, old]
      refine summed.attained.imp_right ?_
      rintro ⟨usage, member, same⟩
      exact ⟨usage, List.mem_append_left _ member, same⟩
    · rw [add, new]
      exact .inr ⟨last, List.mem_append_right _ List.mem_cons_self, rfl⟩
  notBeforeEpoch := by
    rw [add, Instant.later_lt_iff]
    exact fun before => summed.notBeforeEpoch before.1
  notBefore := by
    intro usage member
    rw [add, Instant.later_lt_iff]
    rintro ⟨before, before'⟩
    rcases List.mem_append.mp member with earlier | here
    · exact summed.notBefore usage earlier before
    · rw [List.mem_singleton.mp here] at before'
      exact Instant.not_lt_self _ before'

/-- Merging usages one after the other into no traffic gives their sum. -/
theorem sumOf_foldl_add (domain : String) (usages : List DomainUsage) :
    SumOf domain usages (usages.foldl add (none domain)) := by
  induction usages using List.reverseRecOn with
  | nil => exact sumOf_nil domain
  | append_singleton before last inductionHypothesis =>
    rw [List.foldl_append]
    exact inductionHypothesis.concat last

end DomainUsage

namespace Ledger

/-- Usages of a domain are merged to their sum in whatever order they stand. So the sums from scratch are the
same for every order of the entries. -/
theorem resum_in_any_order :
    (∀ (domain : String) (usages reordered : List DomainUsage), usages.Perm reordered →
      reordered.foldl DomainUsage.add (.none domain) = usages.foldl DomainUsage.add (.none domain) ∧
        DomainUsage.SumOf domain usages (usages.foldl DomainUsage.add (.none domain))) ∧
    ∀ (ledger : Ledger) (tables : List UsageTable), tables.Perm ledger.entries.values →
      UsageTable.dropZeros (tables.foldl UsageTable.add .empty) = ledger.resum := by
  constructor
  · intro domain usages reordered permutation
    exact ⟨(DomainUsage.foldl_add_perm permutation _).symm, DomainUsage.sumOf_foldl_add domain usages⟩
  · intro ledger tables permutation
    rw [resum, UsageTable.foldl_add_perm permutation]

/-- Usages that bear names of their own, whose counters pass the greatest one together, and that count zero for
what another one counts. -/
def clampedUsages : List DomainUsage :=
  [{ domain := "x.org"
     counters := { accesses := 18446744073709551615, bytesSent := 5 }
     protocols := SortedMap.ofList [("tcp", 0)] },
    { domain := "y.org"
      counters := { accesses := 2 }
      protocols := SortedMap.ofList [("tcp", 3), ("udp", 0)]
      ports := SortedMap.ofList [(443, 18446744073709551615)] },
    { domain := ""
      counters := { bytesSent := 1 }
      ports := SortedMap.ofList [(53, 0), (443, 7)] }]

/-- A ledger in which three agents contribute one of these usages each. -/
def clampedLedger : Ledger where
  entries := SortedMap.ofList (["a", "b", "c"].zip
    (clampedUsages.map fun usage => SortedMap.ofList [("x.org", usage)]))

/-- Merged from the last to the first they are clamped in other steps, and come to the same. -/
theorem clampedUsages_reversed :
    (clampedUsages.Perm clampedUsages.reverse ∧
      clampedUsages.reverse.foldl DomainUsage.add (.none "x.org") =
        { domain := "x.org"
          counters := { accesses := 18446744073709551615, bytesSent := 6 }
          protocols := SortedMap.ofList [("tcp", 3)]
          ports := SortedMap.ofList [(443, 18446744073709551615)] }) ∧
    clampedLedger.entries.values.reverse.Perm clampedLedger.entries.values ∧
      UsageTable.dropZeros (clampedLedger.entries.values.reverse.foldl UsageTable.add .empty) =
        clampedLedger.resum := by
  have usages : clampedUsages.Perm clampedUsages.reverse := (List.reverse_perm _).symm
  have tables : clampedLedger.entries.values.reverse.Perm clampedLedger.entries.values :=
    List.reverse_perm _
  have merged := (resum_in_any_order.1 "x.org" _ _ usages).1
  exact ⟨⟨usages, merged.trans (by decide +kernel)⟩, tables, resum_in_any_order.2 _ _ tables⟩

end Ledger

end FleetTraffic
