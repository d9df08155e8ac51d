import FleetTraffic.SortedMap.Lemmas
import Mathlib

/-!
# Keys of a map

The keys of a map are the ones that a lookup answers for, in ascending order and each of them once. The
values that pass a test belong to the keys of the filtered map.
-/

namespace FleetTraffic.SortedMap

variable {κ α : Type} [Ord κ] [DecidableEq κ] [Std.TransOrd κ] [Std.LawfulEqOrd κ]

omit [Std.TransOrd κ] in
/-- A key is listed exactly when a lookup answers for it. -/
theorem mem_keys_iff (map : SortedMap κ α) (key : κ) :
    key ∈ map.keys ↔ ∃ value, map.get? key = some value := by
  simp only [keys, List.mem_map, get?_eq_some_iff]
  constructor
  · rintro ⟨⟨_, value⟩, member, rfl⟩
    exact ⟨value, member⟩
  · rintro ⟨value, member⟩
    exact ⟨(key, value), member, rfl⟩

omit [Std.TransOrd κ] in
/-- A value is listed exactly when some lookup answers with it. -/
theorem mem_values_iff (map : SortedMap κ α) (value : α) :
    value ∈ map.values ↔ ∃ key, map.get? key = some value := by
  simp only [values, List.mem_map, Prod.exists, exists_eq_right, get?_eq_some_iff]

omit [DecidableEq κ] [Std.TransOrd κ] [Std.LawfulEqOrd κ] in
/-- The keys ascend strictly. -/
theorem keys_ascend (map : SortedMap κ α) :
    map.keys.Pairwise fun first second => compare first second = .lt := by
  rw [keys, List.pairwise_map]
  exact map.ascending

omit [Std.TransOrd κ] in
/-- If every value tells its key, the values that pass a test tell the keys of the filtered map. -/
theorem keys_filter_of_told (map : SortedMap κ α) {told : α → κ}
    (own : ∀ key value, map.get? key = some value → told value = key) (test : α → Bool) :
    (map.values.filter test).map told = (map.filter fun _ value => test value).keys := by
  rw [values, List.filter_map, List.map_map]
  apply List.map_congr_left
  rintro ⟨key, value⟩ member
  exact own key value ((get?_eq_some_iff map).mpr (List.mem_filter.mp member).1)

omit [DecidableEq κ] [Std.TransOrd κ] [Std.LawfulEqOrd κ] in
/-- A test that every value passes keeps the whole map. -/
theorem filter_eq_self (map : SortedMap κ α) {keep : κ → α → Bool}
    (all : ∀ entry ∈ map.entries, keep entry.1 entry.2 = true) : map.filter keep = map := by
  have same : map.entries.filter (fun entry => keep entry.1 entry.2) = map.entries :=
    List.filter_eq_self.mpr all
  cases map
  simp only [filter, same]

end FleetTraffic.SortedMap
