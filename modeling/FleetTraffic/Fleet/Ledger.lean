import FleetTraffic.Usage.DomainUsage

/-!
# The ledger of contributions

The ledger holds what each agent contributes to each domain, and the table of their sums. The sums
are kept up to date entry by entry: when an agent's contribution changes, the old usage is taken away
from the sum and the new one is added. A domain whose sum has become zero is taken out of the table.

`resum` adds up all entries from scratch, as the sums ought to be.
-/

namespace FleetTraffic

/-- Contributions by agent and domain, and their sums by domain. -/
structure Ledger where
  entries : SortedMap String UsageTable := SortedMap.empty
  sums : UsageTable := SortedMap.empty
  deriving DecidableEq

namespace Ledger

/-- The sum for a domain after an agent's usage of it has changed from `old` to `new`. A domain without
a sum has nothing to take away from. -/
def settle (domain : String) (old new sum : Option DomainUsage) : Option DomainUsage :=
  match new, sum with
  | none, none => none
  | _, _ =>
    let start := sum.getD (DomainUsage.none domain)
    let reduced := match old with
      | none => start
      | some old => start.subtract old
    let changed := match new with
      | none => reduced
      | some new => reduced.add new
    let named := { changed with domain }
    if named.isZero then none else some named

/-- The usages of two tables side by side, for every domain of either. -/
def sideBySide (old new : UsageTable) :
    SortedMap String (Option DomainUsage × Option DomainUsage) :=
  (old.mapValues fun _ usage => (some usage, none)).absorb
    (fun _ usage present => some (present.bind Prod.fst, some usage)) new

/-- What an agent contributes. -/
def contributionOf (ledger : Ledger) (agent : String) : UsageTable :=
  (ledger.entries.get? agent).getD .empty

/-- Give an agent new contributions in place of all its old ones. The number is that of the domains in
either. -/
def replace (ledger : Ledger) (agent : String) (contribution : UsageTable) : Nat × Ledger :=
  let touched := sideBySide (ledger.contributionOf agent) contribution
  (touched.size,
    { entries := ledger.entries.alter agent fun _ =>
        if contribution.isEmpty then none else some contribution
      sums := ledger.sums.absorb (fun domain (old, new) sum => settle domain old new sum) touched })

/-- Take all contributions of an agent away. The list is that of its domains that have no sum
afterwards. -/
def remove (ledger : Ledger) (agent : String) : List String × Ledger :=
  let previous := ledger.contributionOf agent
  let sums := ledger.sums.absorb (fun domain old sum => settle domain (some old) none sum) previous
  (previous.keys.filter fun domain => !sums.contains domain,
    { entries := ledger.entries.erase agent, sums })

/-- The sums over all entries, without the domains that have no traffic. -/
def resum (ledger : Ledger) : UsageTable :=
  UsageTable.dropZeros (ledger.entries.values.foldl UsageTable.add .empty)

end Ledger

end FleetTraffic
