import FleetTraffic.Proofs.SortedMap.Keys
import FleetTraffic.Proofs.Usage.Merging
import FleetTraffic.Usage.Snapshot

/-!
# Snapshots merged batch by batch

Snapshots can be merged one by one, or in batches whose results are merged in turn. In every field but one this
comes to the same. The exception is the time at which a domain was accessed. A snapshot that is the first of its
batch is taken as it is, but a domain that a later one brings in starts from a usage without traffic, at the
epoch. A time before the epoch is lost there.

So it matters at which place of its batch a domain comes in, as long as all its times lie before the epoch. Here
the outcome is told exactly: which domains are raised to the epoch, and when the two ways agree altogether.
-/

namespace FleetTraffic

namespace DomainUsage

section Merged

variable (domain : String)

/-- What is merged into a usage may as well be merged into what the usage is merged into. -/
theorem merged_merged_some (usage : Option DomainUsage) (present : DomainUsage)
    (added : Option DomainUsage) :
    merged domain usage (merged domain (some present) added) =
      merged domain (merged domain usage (some present)) added := by
  cases added with
  | none => rfl
  | some last => simp only [merged, Option.getD_some, add_assoc]

/-- Usages that are merged into a listed one can be merged one by one. -/
theorem merged_foldl_some (usage : Option DomainUsage) (present : DomainUsage)
    (rest : List (Option DomainUsage)) :
    merged domain usage (rest.foldl (merged domain) (some present)) =
      rest.foldl (merged domain) (merged domain usage (some present)) := by
  induction rest generalizing present with
  | nil => rfl
  | cons added rest inductionHypothesis =>
    obtain ⟨sum, summed⟩ : ∃ sum, merged domain (some present) added = some sum := by
      cases added with
      | none => exact ⟨present, rfl⟩
      | some last => exact ⟨present.add last, rfl⟩
    rw [List.foldl_cons, List.foldl_cons, summed, inductionHypothesis, ← summed, merged_merged_some]

/-- It does not matter whether a time before the epoch is dropped before or after usages are merged in. -/
theorem foldl_merged_sinceEpoch (usage : Option DomainUsage) (rest : List (Option DomainUsage)) :
    rest.foldl (merged domain) (usage.map sinceEpoch) =
      (rest.foldl (merged domain) usage).map sinceEpoch := by
  have step (present added : Option DomainUsage) :
      merged domain (present.map sinceEpoch) added = (merged domain present added).map sinceEpoch := by
    cases added with
    | none => rfl
    | some last =>
      cases present with
      | none =>
        rw [Option.map_none, merged, Option.getD_none, Option.map_some, ← add_sinceEpoch,
          sinceEpoch_none]
      | some before =>
        rw [Option.map_some, merged, merged, Option.getD_some, Option.getD_some, Option.map_some,
          add_sinceEpoch]
  induction rest generalizing usage with
  | nil => rfl
  | cons added rest inductionHypothesis =>
    rw [List.foldl_cons, step, inductionHypothesis, List.foldl_cons]

/-- Merging a batch into a usage comes to the same as merging its usages one by one, unless the domain comes in
after the first place of the batch. Then a time before the epoch is lost. -/
theorem merged_foldl (usage first : Option DomainUsage) (rest : List (Option DomainUsage)) :
    merged domain usage (rest.foldl (merged domain) first) =
      if !first.isSome && rest.any Option.isSome then
        ((first :: rest).foldl (merged domain) usage).map sinceEpoch
      else (first :: rest).foldl (merged domain) usage := by
  cases first with
  | some present => exact merged_foldl_some domain usage present rest
  | none =>
    have start : merged domain usage .none = usage := rfl
    rw [Option.isSome_none, Bool.not_false, Bool.true_and, List.foldl_cons, start]
    induction rest with
    | nil => rfl
    | cons added rest inductionHypothesis =>
      cases added with
      | none => exact inductionHypothesis
      | some opening =>
        -- From here on there is a usage on both sides, and they differ by the epoch alone.
        have opened : merged domain usage (some ((none domain).add opening)) =
            (merged domain usage (some opening)).map sinceEpoch := by
          rw [merged, merged, ← add_assoc, add_none, add_sinceEpoch, Option.map_some]
        rw [List.any_cons, Option.isSome_some, Bool.true_or, if_pos rfl, List.foldl_cons,
          List.foldl_cons, ← foldl_merged_sinceEpoch, ← opened]
        exact merged_foldl_some domain usage _ rest

end Merged

end DomainUsage

namespace PacketTotals

/-- Three hosts' totals add up to the same in either grouping. -/
theorem plus_assoc (first second third : PacketTotals) :
    (first.plus second).plus third = first.plus (second.plus third) := by
  simp only [plus, Counter.plus_assoc]

end PacketTotals

namespace Snapshot

/-! ## All fields but the domains -/

/-- A snapshot without its usages by domain. -/
def withoutDomains (snapshot : Snapshot) : Snapshot := { snapshot with domains := .empty }

/-- The fields beside the domains are merged by themselves. -/
theorem withoutDomains_merge (first second : Snapshot) :
    (first.merge second).withoutDomains =
      (first.withoutDomains.merge second.withoutDomains).withoutDomains := rfl

/-- Beside the domains, three snapshots are merged to the same in either grouping. -/
theorem withoutDomains_merge_assoc (first second third : Snapshot) :
    ((first.merge second).merge third).withoutDomains =
      (first.merge (second.merge third)).withoutDomains := by
  have named (one two three : String) :
      (if (if one = "" then two else one) = "" then three else if one = "" then two else one) =
        if one = "" then (if two = "" then three else two) else one := by
    by_cases empty : one = "" <;> simp [empty]
  rw [withoutDomains, withoutDomains, Snapshot.mk.injEq]
  exact ⟨Instant.later_assoc _ _ _, named _ _ _, named _ _ _, PacketTotals.plus_assoc _ _ _, rfl,
    CountMap.addAll_assoc _ _ _, CountMap.addAll_assoc _ _ _, CountMap.addAll_assoc _ _ _⟩

/-- A batch is merged into a snapshot as its snapshots are one by one, beside the domains. -/
theorem withoutDomains_merge_foldl {whole parts : Snapshot}
    (same : parts.withoutDomains = whole.withoutDomains) (first : Snapshot) (rest : List Snapshot) :
    (parts.merge (rest.foldl merge first)).withoutDomains =
      ((first :: rest).foldl merge whole).withoutDomains := by
  induction rest using List.reverseRecOn with
  | nil =>
    rw [List.foldl_nil, List.foldl_cons, List.foldl_nil, withoutDomains_merge, same,
      ← withoutDomains_merge]
  | append_singleton before last inductionHypothesis =>
    rw [← List.cons_append, List.foldl_append, List.foldl_append, List.foldl_cons, List.foldl_nil,
      List.foldl_cons, List.foldl_nil, ← withoutDomains_merge_assoc, withoutDomains_merge,
      inductionHypothesis, ← withoutDomains_merge]

/-! ## The domains -/

/-- A snapshot of the batch lists a domain, but the first one does not. -/
def comesLate (domain : String) : List Snapshot → Bool
  | [] => false
  | first :: rest =>
    !first.domains.contains domain && rest.any fun snapshot => snapshot.domains.contains domain

/-- Merging snapshots one after the other merges their usages of each domain. -/
theorem get?_foldl_merge (first : Snapshot) (rest : List Snapshot) (domain : String) :
    (rest.foldl merge first).domains.get? domain =
      (rest.map fun snapshot => snapshot.domains.get? domain).foldl (DomainUsage.merged domain)
        (first.domains.get? domain) := by
  induction rest generalizing first with
  | nil => rfl
  | cons next rest inductionHypothesis =>
    rw [List.foldl_cons, inductionHypothesis, merge, UsageTable.get?_add, List.map_cons,
      List.foldl_cons]

/-- A batch is merged into a snapshot as its snapshots are one by one, except that a domain that comes late loses
a time before the epoch. -/
theorem get?_merge_foldl (whole first : Snapshot) (rest : List Snapshot) (domain : String) :
    (whole.merge (rest.foldl merge first)).domains.get? domain =
      let together := ((first :: rest).foldl merge whole).domains.get? domain
      if comesLate domain (first :: rest) then together.map DomainUsage.sinceEpoch else together := by
  rw [merge, UsageTable.get?_add, get?_foldl_merge, DomainUsage.merged_foldl, get?_foldl_merge,
    comesLate, List.any_map]
  rfl

/-! ## Batch by batch -/

/-- What merging batch by batch makes of merging one by one: all is the same, except that some domains have no
time before the epoch. -/
structure Regrouped (late : String → Bool) (whole parts : Snapshot) : Prop where
  others : parts.withoutDomains = whole.withoutDomains
  usages : ∀ domain, parts.domains.get? domain =
    if late domain then (whole.domains.get? domain).map DomainUsage.sinceEpoch
    else whole.domains.get? domain

/-- One more batch leaves the outcome regrouped. What is raised to the epoch stays so, and the batch may add
domains. -/
theorem regrouped_batch {late : String → Bool} {whole parts : Snapshot}
    (regrouped : Regrouped late whole parts) (first : Snapshot) (rest : List Snapshot) :
    Regrouped (fun domain => late domain || comesLate domain (first :: rest))
      ((first :: rest).foldl merge whole) (parts.merge (rest.foldl merge first)) := by
  refine ⟨withoutDomains_merge_foldl regrouped.others first rest, ?_⟩
  intro domain
  have brought := get?_merge_foldl parts first rest domain
  have raised : ((first :: rest).foldl merge parts).domains.get? domain =
      if late domain then
        (((first :: rest).foldl merge whole).domains.get? domain).map DomainUsage.sinceEpoch
      else ((first :: rest).foldl merge whole).domains.get? domain := by
    rw [get?_foldl_merge, get?_foldl_merge, regrouped.usages domain]
    split
    next => exact DomainUsage.foldl_merged_sinceEpoch domain _ _
    next => rfl
  have again (usage : Option DomainUsage) :
      (usage.map DomainUsage.sinceEpoch).map DomainUsage.sinceEpoch =
        usage.map DomainUsage.sinceEpoch := by
    cases usage with
    | none => rfl
    | some present => exact congrArg some (DomainUsage.sinceEpoch_sinceEpoch present)
  rw [brought, raised]
  cases late domain <;> cases comesLate domain (first :: rest) <;> simp [again]

/-- Merging any number of batches one after the other regroups the merging of all their snapshots. -/
theorem regrouped_batches {late : String → Bool} {whole parts : Snapshot}
    (regrouped : Regrouped late whole parts) {batches : List (List Snapshot)}
    (nonempty : ∀ batch ∈ batches, batch ≠ []) :
    Regrouped (fun domain => late domain || batches.any (comesLate domain))
      (batches.flatten.foldl merge whole) ((batches.filterMap mergeAll?).foldl merge parts) := by
  induction batches generalizing late whole parts with
  | nil => simpa using regrouped
  | cons batch batches inductionHypothesis =>
    obtain ⟨first, rest, rfl⟩ := List.exists_cons_of_ne_nil (nonempty batch List.mem_cons_self)
    have further := inductionHypothesis (regrouped_batch regrouped first rest)
      fun later member => nonempty later (List.mem_cons_of_mem _ member)
    simpa only [List.flatten_cons, List.foldl_append, List.filterMap_cons, mergeAll?, List.foldl_cons,
      List.any_cons, Bool.or_assoc] using further

/-- Regrouping changes nothing exactly if no raised domain had its last access before the epoch. -/
theorem Regrouped.eq_iff {late : String → Bool} {whole parts : Snapshot}
    (regrouped : Regrouped late whole parts) :
    parts = whole ↔ ∀ domain usage, whole.domains.get? domain = some usage →
      usage.lastAccess < .epoch → late domain = false := by
  constructor
  · rintro rfl domain usage listed before
    have raised := regrouped.usages domain
    cases comes : late domain with
    | false => rfl
    | true =>
      rw [comes, if_pos rfl, listed, Option.map_some, Option.some.injEq] at raised
      exact absurd before ((DomainUsage.sinceEpoch_eq_iff usage).mp raised.symm)
  · intro early
    have domains : parts.domains = whole.domains := by
      apply SortedMap.ext
      intro domain
      rw [regrouped.usages domain]
      split
      next comes =>
        cases listed : whole.domains.get? domain with
        | none => rfl
        | some usage =>
          have notBefore : ¬usage.lastAccess < .epoch := fun before =>
            Bool.false_ne_true ((early domain usage listed before).symm.trans comes)
          rw [Option.map_some, (DomainUsage.sinceEpoch_eq_iff usage).mpr notBefore]
      next => rfl
    calc parts = { parts.withoutDomains with domains := parts.domains } := rfl
      _ = { whole.withoutDomains with domains := whole.domains } := by rw [regrouped.others, domains]
      _ = whole := rfl

/-- A snapshot regroups itself. -/
theorem regrouped_self (whole : Snapshot) : Regrouped (fun _ => false) whole whole :=
  ⟨rfl, fun _ => rfl⟩

/-- Snapshots that are cut into batches are merged batch by batch to the same as one by one, except for the
domains that come late in a batch after the first: they lose a time before the epoch. -/
theorem mergeAll?_flatten {batches : List (List Snapshot)} (some_batch : batches ≠ [])
    (nonempty : ∀ batch ∈ batches, batch ≠ []) :
    ∃ whole parts, mergeAll? batches.flatten = some whole ∧
      mergeAll? (batches.filterMap mergeAll?) = some parts ∧
      Regrouped (fun domain => batches.tail.any (comesLate domain)) whole parts := by
  obtain ⟨batch, others, rfl⟩ := List.exists_cons_of_ne_nil some_batch
  obtain ⟨first, rest, rfl⟩ := List.exists_cons_of_ne_nil (nonempty batch List.mem_cons_self)
  have run := regrouped_batches (regrouped_self (rest.foldl merge first))
    fun later member => nonempty later (List.mem_cons_of_mem _ member)
  refine ⟨_, _, ?_, rfl, run⟩
  rw [List.flatten_cons, List.cons_append, mergeAll?, List.foldl_append]

/-- Snapshots that are cut into batches, say into those before and those after one cut, are merged batch by batch
to the same as one by one, in every field but the times of access. The times agree as well exactly if no domain
whose last access lies before the epoch comes late in a batch after the first. Otherwise the time of such a domain
is the epoch. -/
theorem grouping_agrees_iff {batches : List (List Snapshot)} (some_batch : batches ≠ [])
    (nonempty : ∀ batch ∈ batches, batch ≠ []) :
    ∃ whole parts, mergeAll? batches.flatten = some whole ∧
      mergeAll? (batches.filterMap mergeAll?) = some parts ∧
      (∀ before after, batches = [before, after] →
        ∃ early late, mergeAll? before = some early ∧ mergeAll? after = some late ∧
          mergeAll? (before ++ after) = some whole ∧ parts = early.merge late) ∧
      Regrouped (fun domain => batches.tail.any (comesLate domain)) whole parts ∧
      (parts = whole ↔ ∀ domain usage, whole.domains.get? domain = some usage →
        usage.lastAccess < .epoch → batches.tail.any (comesLate domain) = false) := by
  obtain ⟨whole, parts, together, apart, regrouped⟩ := mergeAll?_flatten some_batch nonempty
  refine ⟨whole, parts, together, apart, ?_, regrouped, regrouped.eq_iff⟩
  rintro before after rfl
  obtain ⟨first, rest, rfl⟩ := List.exists_cons_of_ne_nil (nonempty before (by simp))
  obtain ⟨second, more, rfl⟩ := List.exists_cons_of_ne_nil (nonempty after (by simp))
  refine ⟨_, _, rfl, rfl, ?_, ?_⟩
  · simpa using together
  · exact (Option.some.inj apart).symm

/-- The first instant of a year, or of 1970 if there is no such year. -/
def newYear (year : Int) : Instant :=
  ((Date.of? year 1 1).bind fun date => Instant.of? date 0 0).getD .epoch

/-- A snapshot of one domain that was accessed a number of times, always by TCP and never by UDP, and for the
last time at the beginning of a year. Its usage bears no name. -/
def accessedIn (year : Int) (number : UInt64) : Snapshot where
  domains := SortedMap.ofList [("x.org",
    { domain := ""
      counters := { accesses := number }
      lastAccess := newYear year
      protocols := SortedMap.ofList [("tcp", number), ("udp", 0)] })]

/-- A domain of our time may come late. The sums that stop at the greatest counter and the count of zero agree
as well. -/
theorem recentDomain_agrees :
    let before := [accessedIn 1990 18446744073709551615]
    let after := [{}, accessedIn 1980 1]
    ([before, after] ≠ [] ∧ ∀ batch ∈ [before, after], batch ≠ []) ∧ comesLate "x.org" after = true ∧
      ∃ early late whole, mergeAll? before = some early ∧ mergeAll? after = some late ∧
        mergeAll? (before ++ after) = some whole ∧ early.merge late = whole := by
  intro before after
  have some_batch : [before, after] ≠ [] := List.cons_ne_nil _ _
  have nonempty : ∀ batch ∈ [before, after], batch ≠ [] := by simp [before, after]
  obtain ⟨whole, parts, _, _, cut, _, agrees⟩ := grouping_agrees_iff some_batch nonempty
  obtain ⟨early, late, first, second, together, rfl⟩ := cut before after rfl
  refine ⟨⟨some_batch, nonempty⟩, by decide, early, late, whole, first, second, together, ?_⟩
  have recent : ∀ usage ∈ whole.domains.values, ¬usage.lastAccess < .epoch := by
    cases together
    decide +kernel
  apply agrees.mpr
  intro domain usage listed past
  exact absurd past (recent usage ((SortedMap.mem_values_iff _ _).mpr ⟨domain, listed⟩))

/-- A domain that was accessed in 1960 and in 1950 was last accessed in 1960. But if it comes late in the second
batch, merging the batches says 1970. -/
theorem pastDomain_raised :
    let before := [accessedIn 1960 1]
    let after := [{}, accessedIn 1950 1]
    ∃ early late whole, mergeAll? before = some early ∧ mergeAll? after = some late ∧
      mergeAll? (before ++ after) = some whole ∧ early.merge late ≠ whole ∧
      (whole.domains.get? "x.org").map DomainUsage.lastAccess = some (newYear 1960) ∧
      ((early.merge late).domains.get? "x.org").map DomainUsage.lastAccess = some (newYear 1970) :=
  ⟨_, _, _, rfl, rfl, rfl, by decide +kernel⟩

end Snapshot

end FleetTraffic
