import FleetTraffic.Proofs.Usage.Table

/-!
# Names and times in a table of usages

A usage bears a name and a time of access beside its traffic. A table is tidy when each usage bears its
key as its name and holds no count of zero; whatever is added to a tidy table, it stays tidy, since the
added usages give up their own names. Tidy tables with the same traffic differ at most in their times of
access.
-/

namespace FleetTraffic

/-- A usage without its time of access. -/
def DomainUsage.untimed (usage : DomainUsage) : DomainUsage :=
  { usage with lastAccess := Instant.epoch }

/-- Usages of one name with the same traffic differ at most in their times of access. -/
theorem DomainUsage.untimed_eq {first second : DomainUsage} (name : first.domain = second.domain)
    (same : first.traffic = second.traffic) : first.untimed = second.untimed := by
  obtain ⟨counters, counts⟩ := Prod.mk.inj same
  obtain ⟨protocols, ports⟩ := Prod.mk.inj counts
  simp only [untimed, name, counters, protocols, ports]

/-- Usages of one name and one time of access with the same traffic are the same. -/
theorem DomainUsage.ext_of_traffic {first second : DomainUsage} (name : first.domain = second.domain)
    (time : first.lastAccess = second.lastAccess) (same : first.traffic = second.traffic) :
    first = second := by
  obtain ⟨counters, counts⟩ := Prod.mk.inj same
  obtain ⟨protocols, ports⟩ := Prod.mk.inj counts
  cases first
  cases second
  simp_all

/-- A usage of a domain with another one merged into it. Either may be missing; what is merged into nothing
gives up its own name. -/
def DomainUsage.merged (domain : String) (usage : Option DomainUsage) :
    Option DomainUsage → Option DomainUsage
  | .none => usage
  | .some added => .some ((usage.getD (.none domain)).add added)

namespace UsageTable

/-- Every usage bears its key as the name of its domain. -/
def Named (table : UsageTable) : Prop :=
  ∀ domain usage, table.get? domain = some usage → usage.domain = domain

/-- Every usage bears its key as its name and holds no count of zero. -/
structure Tidy (table : UsageTable) : Prop where
  named : table.Named
  canonical : table.Canonical

/-- A table without its times of access. -/
def untimed (table : UsageTable) : UsageTable := table.mapValues fun _ usage => usage.untimed

/-- Leaving out the times of access leaves the domains that are listed. -/
theorem get?_untimed (table : UsageTable) (domain : String) :
    table.untimed.get? domain = (table.get? domain).map DomainUsage.untimed :=
  SortedMap.get?_mapValues _ _ _

/-- Leaving out the times of access leaves the number of domains. -/
theorem size_untimed (table : UsageTable) : table.untimed.size = table.size := List.length_map _

/-- The empty table is tidy. -/
theorem tidy_empty : Tidy SortedMap.empty := ⟨fun _ _ => nofun, fun _ _ => nofun⟩

/-- Adding a table merges its usages in, domain by domain. -/
theorem get?_add (table added : UsageTable) (domain : String) :
    (table.add added).get? domain =
      DomainUsage.merged domain (table.get? domain) (added.get? domain) := by
  rw [add, SortedMap.get?_absorb]
  cases added.get? domain <;> rfl

/-- Adding to a table keeps its names, whatever names the added usages bear. -/
theorem named_add {table : UsageTable} (named : table.Named) (added : UsageTable) :
    (table.add added).Named := by
  intro domain usage found
  rw [get?_add] at found
  cases listed : added.get? domain with
  | none =>
    rw [listed] at found
    exact named domain usage found
  | some addend =>
    simp only [listed, DomainUsage.merged, Option.some.injEq] at found
    subst found
    cases present : table.get? domain with
    | none => rfl
    | some before => exact named domain before present

/-- Adding to a tidy table keeps it tidy, whatever is added. -/
theorem tidy_add {table : UsageTable} (tidy : table.Tidy) (added : UsageTable) :
    (table.add added).Tidy :=
  ⟨named_add tidy.named added, canonical_add tidy.canonical added⟩

/-- Adding up tables on top of a tidy one gives a tidy table. -/
theorem tidy_foldl_add (tables : List UsageTable) {start : UsageTable} (tidy : start.Tidy) :
    Tidy (tables.foldl UsageTable.add start) := by
  induction tables generalizing start with
  | nil => exact tidy
  | cons table rest inductionHypothesis => exact inductionHypothesis (tidy_add tidy table)

/-- Naming the usages of a table that bear their keys already changes nothing. -/
theorem named_eq_self {table : UsageTable} (bears : table.Named) : table.named = table := by
  apply SortedMap.ext
  intro domain
  rw [named, SortedMap.get?_mapValues]
  cases found : table.get? domain with
  | none => rfl
  | some usage =>
    have name : usage.domain = domain := bears domain usage found
    subst name
    rfl

/-- Leaving out the domains without traffic keeps the names of the others. -/
theorem named_dropZeros {table : UsageTable} (named : table.Named) : table.dropZeros.Named := by
  intro domain usage found
  rw [dropZeros, SortedMap.get?_filter, Option.filter_eq_some_iff] at found
  exact named domain usage found.1

/-- Tables that bear their names and show the same traffic differ at most in their times of access. -/
theorem untimed_eq {first second : UsageTable} (named : first.Named) (named' : second.Named)
    (same : first.SameTraffic second) : first.untimed = second.untimed := by
  apply SortedMap.ext
  intro domain
  have here := same domain
  rw [get?_untimed, get?_untimed]
  cases found : first.get? domain with
  | none =>
    rw [found, Option.map_none] at here
    rw [Option.map_eq_none_iff.mp here.symm]
  | some usage =>
    rw [found, Option.map_some] at here
    obtain ⟨other, found', traffic⟩ := Option.map_eq_some_iff.mp here.symm
    have names : usage.domain = other.domain :=
      (named domain usage found).trans (named' domain other found').symm
    rw [found', Option.map_some, Option.map_some, DomainUsage.untimed_eq names traffic.symm]

end UsageTable

end FleetTraffic
