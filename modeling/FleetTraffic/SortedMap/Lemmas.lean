import FleetTraffic.SortedMap

/-!
# Looking up in a changed map

Each operation on a sorted map is characterised by what `get?` answers afterwards, and two maps with
the same answers are equal. The central statements are `get?_alter` for one key and `get?_absorb`
for the walk over a second map.
-/

namespace FleetTraffic.SortedMap

variable {κ α β : Type} [Ord κ] [DecidableEq κ] [Std.TransOrd κ] [Std.LawfulEqOrd κ]

omit [DecidableEq κ] [Std.TransOrd κ] [Std.LawfulEqOrd κ] in
/-- A key below every listed key is not listed. -/
theorem lookup_eq_none_of_below {key : κ} :
    {entries : List (κ × α)} → (∀ entry ∈ entries, compare key entry.1 = .lt) →
      lookup key entries = none
  | [], _ => rfl
  | (other, value) :: rest, below => by
    have first : compare key other = .lt := below (other, value) (by simp)
    have later := lookup_eq_none_of_below (fun entry member => below entry (List.mem_cons_of_mem _ member))
    simp [lookup, first, later]

omit [Std.TransOrd κ] in
/-- An optional first entry below all others answers for its key alone. -/
theorem lookup_consOption {key probe : κ} {rest : List (κ × α)}
    (below : ∀ entry ∈ rest, compare key entry.1 = .lt) (value : Option α) :
    lookup probe (consOption key value rest) = if probe = key then value else lookup probe rest := by
  by_cases same : probe = key
  · subst same
    cases value with
    | none => simp [consOption, lookup_eq_none_of_below below]
    | some value => simp [consOption, lookup, Std.ReflCmp.compare_self]
  · cases value with
    | none => simp [consOption, same]
    | some value => simp [consOption, lookup, same]

/-- Altering a list of entries changes the answer for the altered key alone. -/
theorem lookup_alterEntries (key probe : κ) (decision : Option α → Option α) :
    (entries : List (κ × α)) → KeysAscend entries →
      lookup probe (alterEntries key decision entries) =
        if probe = key then decision (lookup key entries) else lookup probe entries
  | [], _ => by rw [alterEntries, lookup_consOption (by simp)]; rfl
  | (other, value) :: rest, ascend => by
    have above : ∀ entry ∈ rest, compare other entry.1 = .lt := (List.pairwise_cons.1 ascend).1
    have tail : KeysAscend rest := (List.pairwise_cons.1 ascend).2
    unfold alterEntries
    split
    next smaller =>
      have below : ∀ entry ∈ (other, value) :: rest, compare key entry.1 = .lt := by
        intro entry member
        rcases List.mem_cons.1 member with rfl | later
        · exact smaller
        · exact Std.TransCmp.lt_trans smaller (above entry later)
      rw [lookup_consOption below, lookup_eq_none_of_below below]
    next equal =>
      have same : key = other := Std.LawfulEqCmp.eq_of_compare equal
      subst same
      rw [lookup_consOption above]
      by_cases hit : probe = key
      · subst hit; simp [lookup, Std.ReflCmp.compare_self]
      · simp [lookup, hit]
    next greater =>
      have differs : key ≠ other := by
        intro same
        simp [same] at greater
      rw [lookup, lookup_alterEntries key probe decision rest tail]
      by_cases first : probe = other
      · subst first
        simp [lookup, Ne.symm differs, Std.ReflCmp.compare_self]
      · simp [lookup, first, differs]

omit [DecidableEq κ] [Std.TransOrd κ] [Std.LawfulEqOrd κ] in
/-- The empty map answers for no key. -/
@[simp]
theorem get?_empty (key : κ) : (empty : SortedMap κ α).get? key = none := rfl

/-- Altering a map changes the answer for the altered key alone. -/
theorem get?_alter (map : SortedMap κ α) (key probe : κ) (decision : Option α → Option α) :
    (map.alter key decision).get? probe =
      if probe = key then decision (map.get? key) else map.get? probe :=
  lookup_alterEntries key probe decision map.entries map.ascending

/-- What was put under a key is found there. -/
theorem get?_insert (map : SortedMap κ α) (key probe : κ) (value : α) :
    (map.insert key value).get? probe = if probe = key then some value else map.get? probe :=
  get?_alter map key probe _

/-- A key that was taken out is not found. -/
theorem get?_erase (map : SortedMap κ α) (key probe : κ) :
    (map.erase key).get? probe = if probe = key then none else map.get? probe :=
  get?_alter map key probe _

omit [Std.TransOrd κ] in
/-- The first entry is found, and a later one under its own key. -/
theorem lookup_cons (key probe : κ) (value : α) (rest : List (κ × α)) :
    lookup probe ((key, value) :: rest) = if probe = key then some value else lookup probe rest := by
  simp [lookup]

omit [Std.TransOrd κ] in
/-- A listed entry is what a lookup of its key finds. -/
theorem lookup_eq_some_iff {probe : κ} {value : α} :
    {entries : List (κ × α)} → KeysAscend entries →
      (lookup probe entries = some value ↔ (probe, value) ∈ entries)
  | [], _ => by simp [lookup]
  | (key, first) :: rest, ascend => by
    have above : ∀ entry ∈ rest, compare key entry.1 = .lt := (List.pairwise_cons.1 ascend).1
    have tail : KeysAscend rest := (List.pairwise_cons.1 ascend).2
    rw [lookup_cons, List.mem_cons]
    by_cases hit : probe = key
    · subst hit
      have absent : (probe, value) ∉ rest := fun member => by
        have impossible := above _ member
        simp at impossible
      simp [absent, eq_comm]
    · simp [hit, lookup_eq_some_iff tail]

omit [Std.TransOrd κ] in
/-- The entries of a map are exactly what its lookups find. -/
theorem get?_eq_some_iff (map : SortedMap κ α) {key : κ} {value : α} :
    map.get? key = some value ↔ (key, value) ∈ map.entries :=
  lookup_eq_some_iff map.ascending

/-- Ascending lists of entries with the same members are equal. -/
theorem entries_unique : {first second : List (κ × α)} → KeysAscend first → KeysAscend second →
    (∀ key, lookup key first = lookup key second) → first = second
  | [], [], _, _, _ => rfl
  | [], (key, value) :: rest, _, _, agree => by
    have found := agree key
    simp [lookup, Std.ReflCmp.compare_self] at found
  | (key, value) :: rest, [], _, _, agree => by
    have found := agree key
    simp [lookup, Std.ReflCmp.compare_self] at found
  | (key, value) :: rest, (other, value') :: rest', ascend, ascend', agree => by
    have above : ∀ entry ∈ rest, compare key entry.1 = .lt := (List.pairwise_cons.1 ascend).1
    have above' : ∀ entry ∈ rest', compare other entry.1 = .lt := (List.pairwise_cons.1 ascend').1
    have same : key = other := by
      have found : (key, value) ∈ (other, value') :: rest' :=
        (lookup_eq_some_iff ascend').1 (by rw [← agree]; simp [lookup_cons])
      have found' : (other, value') ∈ (key, value) :: rest :=
        (lookup_eq_some_iff ascend).1 (by rw [agree]; simp [lookup_cons])
      rcases List.mem_cons.1 found with equal | later
      · exact congrArg Prod.fst equal
      · rcases List.mem_cons.1 found' with equal | later'
        · exact (congrArg Prod.fst equal).symm
        · have less := above' _ later
          have greater := above _ later'
          rw [Std.OrientedOrd.eq_swap] at less
          simp [greater] at less
    subst same
    have head := agree key
    simp only [lookup_cons, if_true] at head
    cases head
    have tails : rest = rest' := entries_unique (List.pairwise_cons.1 ascend).2
      (List.pairwise_cons.1 ascend').2 fun probe => by
        by_cases hit : probe = key
        · subst hit
          rw [lookup_eq_none_of_below above, lookup_eq_none_of_below above']
        · simpa [lookup_cons, hit] using agree probe
    rw [tails]

/-- Two maps that answer alike for every key are equal. -/
theorem ext {first second : SortedMap κ α} (agree : ∀ key, first.get? key = second.get? key) :
    first = second := by
  have same := entries_unique first.ascending second.ascending agree
  cases first; cases second; cases same; rfl

/-- Absorbing a list of entries with distinct keys decides once for each listed key. -/
theorem get?_foldl_alter (decision : κ → β → Option α → Option α) (probe : κ) :
    (entries : List (κ × β)) → KeysAscend entries → (map : SortedMap κ α) →
      (entries.foldl (fun result entry => result.alter entry.1 (decision entry.1 entry.2)) map).get?
          probe =
        match lookup probe entries with
        | none => map.get? probe
        | some value => decision probe value (map.get? probe)
  | [], _, _ => rfl
  | (key, value) :: rest, ascend, map => by
    have above : ∀ entry ∈ rest, compare key entry.1 = .lt := (List.pairwise_cons.1 ascend).1
    rw [List.foldl_cons, get?_foldl_alter decision probe rest (List.pairwise_cons.1 ascend).2,
      lookup_cons, get?_alter]
    by_cases hit : probe = key
    · subst hit
      simp [lookup_eq_none_of_below above]
    · simp [hit]

/-- Absorbing a map decides once for each of its keys and leaves the others alone. -/
theorem get?_absorb (decision : κ → β → Option α → Option α) (map : SortedMap κ α)
    (source : SortedMap κ β) (probe : κ) :
    (map.absorb decision source).get? probe =
      match source.get? probe with
      | none => map.get? probe
      | some value => decision probe value (map.get? probe) :=
  get?_foldl_alter decision probe source.entries source.ascending map

omit [Std.TransOrd κ] in
/-- Replacing values shows in the answer. -/
theorem get?_mapValues (change : κ → α → β) (map : SortedMap κ α) (probe : κ) :
    (map.mapValues change).get? probe = (map.get? probe).map (change probe) := by
  show lookup probe (map.entries.map _) = (lookup probe map.entries).map _
  induction map.entries with
  | nil => rfl
  | cons entry rest inductionHypothesis =>
    rw [List.map_cons, lookup_cons, inductionHypothesis, lookup_cons]
    split
    next same => subst same; rfl
    next => rfl

omit [Std.TransOrd κ] in
/-- A filtered map answers for the entries that pass. -/
theorem get?_filter (keep : κ → α → Bool) (map : SortedMap κ α) (probe : κ) :
    (map.filter keep).get? probe = (map.get? probe).filter (keep probe) := by
  apply Option.ext
  intro value
  rw [get?_eq_some_iff]
  show (probe, value) ∈ map.entries.filter _ ↔ _
  rw [List.mem_filter, Option.filter_eq_some_iff, get?_eq_some_iff]

/-- Rebuilding a map from its own entries changes nothing. -/
theorem ofList_entries (map : SortedMap κ α) : ofList map.entries = map := by
  apply ext
  intro probe
  have rebuilt := get?_absorb (fun _ value _ => some value) (empty : SortedMap κ α) map probe
  have asFold : ofList map.entries =
      (empty : SortedMap κ α).absorb (fun _ value _ => some value) map := rfl
  rw [asFold, rebuilt]
  cases map.get? probe <;> rfl

end FleetTraffic.SortedMap
