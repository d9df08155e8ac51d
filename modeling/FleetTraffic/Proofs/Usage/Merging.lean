import FleetTraffic.Proofs.Usage.Naming

/-!
# Merging in any grouping

Usages that are merged one after the other come to the same, whichever neighbours are merged first: clamped
sums and latest times are associative, and so are the unions of counts, with or without the counts of zero. All
laws are about the whole of a value, its zeros included, since the first usage of a batch is taken as it is and
only what is merged into it loses its counts of zero.

A usage of a domain that is new to a table is merged into one without traffic, whose time of access is the
epoch. This is the one place where grouping can show: a usage without traffic is neutral except that no time
before the epoch is left of the usage that it meets.
-/

namespace FleetTraffic

namespace Counter

/-- Three counters add up to the same in either grouping, also where a sum is clamped. -/
theorem plus_assoc (first second third : UInt64) :
    plus (plus first second) third = plus first (plus second third) := by
  apply UInt64.toNat_inj.mp
  simp only [toNat_plus]
  omega

end Counter

namespace Instant

/-- The later of two instants has the greater place in the order of time. -/
theorem rank_later (first second : Instant) :
    (first.later second).rank = max first.rank second.rank := by
  rw [later]
  split
  next before => exact (max_eq_right (Int.le_of_lt before)).symm
  next after => exact (max_eq_left (Int.not_lt.mp after)).symm

/-- The latest of three instants is the same in either grouping. -/
theorem later_assoc (first second third : Instant) :
    (first.later second).later third = first.later (second.later third) := by
  apply eq_of_rank_eq
  simp only [rank_later, max_assoc]

/-- Of two instants it does not matter which one comes first. -/
theorem later_comm (first second : Instant) : first.later second = second.later first := by
  apply eq_of_rank_eq
  simp only [rank_later, max_comm]

/-- An instant is the later one if the other does not come after it. -/
theorem later_eq_left {first second : Instant} (notAfter : ¬first < second) :
    first.later second = first := if_neg notAfter

end Instant

namespace CountMap

variable {κ : Type} [Ord κ] [DecidableEq κ] [Std.TransOrd κ] [Std.LawfulEqOrd κ]

/-- Adding counts leaves a count that is missing from what is added or zero there, and adds up the others. -/
theorem get?_add (counts added : CountMap κ) (key : κ) :
    (counts.add added).get? key =
      match added.get? key with
      | none => counts.get? key
      | some number =>
        if number = 0 then counts.get? key
        else some (Counter.plus ((counts.get? key).getD 0) number) := by
  rw [add, SortedMap.get?_absorb]
  cases added.get? key <;> rfl

/-- Adding all counts leaves a count that is missing from what is added, and adds up the others. -/
theorem get?_addAll (counts added : CountMap κ) (key : κ) :
    (counts.addAll added).get? key =
      match added.get? key with
      | none => counts.get? key
      | some number => some (Counter.plus ((counts.get? key).getD 0) number) := by
  rw [addAll, SortedMap.get?_absorb]
  cases added.get? key <;> rfl

/-- Three maps of counts add up to the same in either grouping. A count of zero in the first map stays. -/
theorem add_assoc (first second third : CountMap κ) :
    (first.add second).add third = first.add (second.add third) := by
  apply SortedMap.ext
  intro key
  simp only [get?_add]
  cases third.get? key with
  | none => rfl
  | some number =>
    by_cases zero : number = 0
    · simp only [if_pos zero]
    · have positive (present : UInt64) : Counter.plus present number ≠ 0 := by
        rw [ne_eq, Counter.plus_eq_zero_iff]
        exact fun both => zero both.2
      simp only [if_neg zero, if_neg (positive _)]
      cases second.get? key with
      | none => simp only [Option.getD_none, Counter.zero_plus]
      | some middle =>
        by_cases nothing : middle = 0
        · simp only [nothing, if_true, Option.getD_some, Counter.zero_plus]
        · simp only [if_neg nothing, Option.getD_some, Counter.plus_assoc]

/-- Three maps of counts add up to the same in either grouping when counts of zero are kept. -/
theorem addAll_assoc (first second third : CountMap κ) :
    (first.addAll second).addAll third = first.addAll (second.addAll third) := by
  apply SortedMap.ext
  intro key
  simp only [get?_addAll]
  cases third.get? key with
  | none => rfl
  | some number =>
    cases second.get? key with
    | none => simp only [Option.getD_none, Counter.zero_plus]
    | some middle => simp only [Option.getD_some, Counter.plus_assoc]

omit [DecidableEq κ] [Std.LawfulEqOrd κ] in
/-- Adding no counts changes nothing. -/
theorem add_empty (counts : CountMap κ) : counts.add SortedMap.empty = counts := rfl

end CountMap

namespace DomainUsage

/-- Three usages are merged to the same in either grouping. -/
theorem add_assoc (first second third : DomainUsage) :
    (first.add second).add third = first.add (second.add third) := by
  simp only [add, Counters.plus, Counters.zipWith, Counter.plus_assoc, Instant.later_assoc,
    CountMap.add_assoc]

/-- A usage without a time of access before the epoch. -/
def sinceEpoch (usage : DomainUsage) : DomainUsage :=
  { usage with lastAccess := usage.lastAccess.later .epoch }

/-- Merging in a usage without traffic changes at most a time before the epoch. -/
theorem add_none (usage : DomainUsage) (domain : String) :
    usage.add (none domain) = usage.sinceEpoch := by
  simp only [add, none, sinceEpoch, Counters.plus, Counters.zipWith, Counter.plus_zero,
    CountMap.add_empty]

/-- A usage without traffic has no time before the epoch. -/
theorem sinceEpoch_none (domain : String) : (none domain).sinceEpoch = none domain := by
  rw [sinceEpoch, none, Instant.later_eq_left (Int.lt_irrefl _)]

/-- It does not matter whether a time before the epoch is dropped before or after something is merged in. -/
theorem add_sinceEpoch (usage added : DomainUsage) :
    usage.sinceEpoch.add added = (usage.add added).sinceEpoch := by
  have times : (usage.lastAccess.later .epoch).later added.lastAccess =
      (usage.lastAccess.later added.lastAccess).later .epoch := by
    rw [Instant.later_assoc, Instant.later_comm .epoch, Instant.later_assoc]
  simp only [add, sinceEpoch, times]

/-- Once a time before the epoch is dropped, no other is left. -/
theorem sinceEpoch_sinceEpoch (usage : DomainUsage) : usage.sinceEpoch.sinceEpoch = usage.sinceEpoch := by
  have same : Instant.epoch.later .epoch = .epoch := Instant.later_eq_left (Int.lt_irrefl _)
  simp only [sinceEpoch, Instant.later_assoc, same]

/-- A usage is left as it is exactly if its time is not before the epoch. -/
theorem sinceEpoch_eq_iff (usage : DomainUsage) :
    usage.sinceEpoch = usage ↔ ¬usage.lastAccess < .epoch := by
  constructor
  · intro same before
    have time := congrArg lastAccess same
    rw [sinceEpoch, Instant.later, if_pos before] at time
    rw [← time] at before
    exact Int.lt_irrefl _ before
  · intro notBefore
    rw [sinceEpoch, Instant.later_eq_left notBefore]

end DomainUsage

/-! ## Merging usages one after the other -/

/-- What usages of a domain come to when they are merged into a new one, in their order. Without a usage there
is nothing. -/
def DomainUsage.mergeAll? (domain : String) : List DomainUsage → Option DomainUsage
  | [] => .none
  | first :: rest => some ((first :: rest).foldl add (DomainUsage.none domain))

/-- One usage more is merged into what the others come to. -/
theorem DomainUsage.mergeAll?_concat (domain : String) (usages : List DomainUsage) (last : DomainUsage) :
    mergeAll? domain (usages ++ [last]) = merged domain (mergeAll? domain usages) (some last) := by
  cases usages with
  | nil => rfl
  | cons first rest =>
    rw [List.cons_append, mergeAll?, mergeAll?, ← List.cons_append, List.foldl_append]
    rfl

/-- Tables that are added up merge their usages domain by domain. -/
theorem UsageTable.get?_foldl_add (tables : List UsageTable) (domain : String) :
    (tables.foldl add .empty).get? domain =
      DomainUsage.mergeAll? domain (tables.filterMap fun table => table.get? domain) := by
  induction tables using List.reverseRecOn with
  | nil => exact SortedMap.get?_empty domain
  | append_singleton before last inductionHypothesis =>
    rw [List.foldl_append, List.foldl_cons, List.foldl_nil, get?_add, inductionHypothesis,
      List.filterMap_append]
    cases listed : last.get? domain with
    | none => simp [listed, DomainUsage.merged]
    | some usage => simp [listed, DomainUsage.mergeAll?_concat]

end FleetTraffic
