import FleetTraffic.SortedMap.Lemmas
import Mathlib

/-!
# Sums over the values of a map

A number for every value gives a sum over the whole map. The sum is split at one key: what stands
under the key, and the sum over the map without it. Altering the key leaves the second part alone,
which is how a sum kept beside a map can follow the map's changes.
-/

namespace FleetTraffic.SortedMap

variable {κ α : Type} [Ord κ] [DecidableEq κ] [Std.TransOrd κ] [Std.LawfulEqOrd κ]

/-- The sum of a number over all values. -/
def sumBy (number : α → Nat) (map : SortedMap κ α) : Nat := (map.values.map number).sum

/-- A map without entries answers for no key. -/
theorem isEmpty_iff (map : SortedMap κ α) :
    map.isEmpty = true ↔ ∀ key, map.get? key = none := by
  constructor
  · intro empty key
    have none_listed : map.entries = [] := List.isEmpty_iff.mp empty
    simp [get?, none_listed, lookup]
  · intro absent
    have same : map = SortedMap.empty := ext absent
    rw [same]
    rfl

omit [DecidableEq κ] [Std.TransOrd κ] [Std.LawfulEqOrd κ] in
/-- A key has a value exactly when its lookup finds one. -/
theorem contains_iff (map : SortedMap κ α) (key : κ) :
    map.contains key = true ↔ ∃ value, map.get? key = some value := by
  rw [contains, Option.isSome_iff_exists]

omit [DecidableEq κ] [Std.LawfulEqOrd κ] in
/-- Taking one key out of a list of entries takes its number out of the sum. -/
theorem sum_alterEntries_none (number : α → Nat) (key : κ) :
    (entries : List (κ × α)) → KeysAscend entries →
      (entries.map fun entry => number entry.2).sum =
        ((alterEntries key (fun _ => none) entries).map fun entry => number entry.2).sum +
          ((lookup key entries).map number).getD 0
  | [], _ => rfl
  | (other, value) :: rest, ascend => by
    have above : ∀ entry ∈ rest, compare other entry.1 = .lt := (List.pairwise_cons.mp ascend).1
    have tail : KeysAscend rest := (List.pairwise_cons.mp ascend).2
    unfold alterEntries
    split
    next smaller =>
      have absent : lookup key ((other, value) :: rest) = none := by
        apply lookup_eq_none_of_below
        intro entry member
        rcases List.mem_cons.mp member with rfl | later
        · exact smaller
        · exact Std.TransCmp.lt_trans smaller (above entry later)
      simp only [absent, consOption, Option.map_none, Option.getD_none, Nat.add_zero]
    next equal =>
      have found : lookup key ((other, value) :: rest) = some value := by
        simp only [lookup, equal, if_true]
      simp only [found, consOption, List.map_cons, List.sum_cons, Option.map_some,
        Option.getD_some]
      exact Nat.add_comm _ _
    next greater =>
      have skipped : lookup key ((other, value) :: rest) = lookup key rest := by
        simp [lookup, greater]
      rw [skipped, List.map_cons, List.map_cons, List.sum_cons, List.sum_cons,
        sum_alterEntries_none number key rest tail]
      exact (Nat.add_assoc _ _ _).symm

omit [DecidableEq κ] [Std.LawfulEqOrd κ] in
/-- A sum splits into the number under one key and the sum over the others. -/
theorem sumBy_eq_erase_add (number : α → Nat) (map : SortedMap κ α) (key : κ) :
    map.sumBy number = (map.erase key).sumBy number + ((map.get? key).map number).getD 0 := by
  simp only [sumBy, values, List.map_map]
  exact sum_alterEntries_none number key map.entries map.ascending

/-- Taking out a key forgets what was decided for it before. -/
theorem erase_alter (map : SortedMap κ α) (key : κ) (decision : Option α → Option α) :
    (map.alter key decision).erase key = map.erase key := by
  apply ext
  intro probe
  rw [get?_erase, get?_erase, get?_alter]
  split <;> rfl

omit [Std.TransOrd κ] in
/-- A sum that is not zero comes from some entry. -/
theorem exists_of_sumBy_ne_zero (number : α → Nat) (map : SortedMap κ α)
    (positive : map.sumBy number ≠ 0) :
    ∃ key value, map.get? key = some value ∧ number value ≠ 0 := by
  have present : 0 < (map.values.map number).sum := Nat.pos_of_ne_zero positive
  obtain ⟨amount, member, nonzero⟩ := List.sum_pos_iff_exists_pos_nat.mp present
  obtain ⟨value, listed, rfl⟩ := List.mem_map.mp member
  obtain ⟨⟨key, _⟩, entry, rfl⟩ := List.mem_map.mp listed
  exact ⟨key, _, (get?_eq_some_iff map).mpr entry, Nat.ne_of_gt nonzero⟩

/-! ## Sums over a part of a map -/

omit [DecidableEq κ] [Std.TransOrd κ] [Std.LawfulEqOrd κ] in
/-- The sum over the entries that pass a test is at most the whole sum. -/
theorem sumBy_filter_le (number : α → Nat) (map : SortedMap κ α) (keep : κ → α → Bool) :
    (map.filter keep).sumBy number ≤ map.sumBy number := by
  simp only [sumBy, values, List.map_map]
  exact List.Sublist.sum_le_sum (List.filter_sublist.map _) fun _ _ => Nat.zero_le _

/-- A map that answers as another one wherever it answers has at most the other one's sum. -/
theorem sumBy_le_of_listed (number : α → Nat) {part whole : SortedMap κ α}
    (listed : ∀ key value, part.get? key = some value → whole.get? key = some value) :
    part.sumBy number ≤ whole.sumBy number := by
  have filtered : part = whole.filter fun key _ => part.contains key := by
    apply ext
    intro key
    rw [get?_filter, contains]
    cases found : part.get? key with
    | none => cases whole.get? key <;> rfl
    | some value => rw [listed key value found]; rfl
  rw [filtered]
  exact sumBy_filter_le number whole _

omit [DecidableEq κ] [Std.TransOrd κ] [Std.LawfulEqOrd κ] in
/-- Leaving out entries whose numbers are zero leaves the sum. -/
theorem sumBy_filter_of_zero (number : α → Nat) (map : SortedMap κ α) {keep : κ → α → Bool}
    (zero : ∀ key value, keep key value = false → number value = 0) :
    (map.filter keep).sumBy number = map.sumBy number := by
  simp only [sumBy, values, List.map_map, filter]
  induction map.entries with
  | nil => rfl
  | cons entry rest inductionHypothesis =>
    cases kept : keep entry.1 entry.2 with
    | true => simp [kept, inductionHypothesis]
    | false => simp [kept, inductionHypothesis, zero entry.1 entry.2 kept]

omit [DecidableEq κ] [Std.TransOrd κ] [Std.LawfulEqOrd κ] in
/-- The sum over values that are told by their keys is a sum over the keys. -/
theorem sumBy_of_keys {β : Type} (number : β → Nat) (map : SortedMap κ α) (told : κ → β) :
    (map.mapValues fun key _ => told key).sumBy number =
      (map.keys.map fun key => number (told key)).sum := by
  simp only [sumBy, values, keys, mapValues, List.map_map]
  rfl

end FleetTraffic.SortedMap
