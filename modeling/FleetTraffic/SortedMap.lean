/-!
# Maps with sorted keys

A map is the list of its entries, strictly ascending by key, so two maps with the same contents are
the same value and a walk over the entries is a walk in key order. Every change of one entry goes
through `alter`, which decides from the old value what stands under a key afterwards; `absorb`
applies such a decision for each entry of a second map.

`SortedMap.Lemmas` says what each operation does to the view `get?`, and that this view determines
the map.
-/

namespace FleetTraffic

/-- Strictly ascending by key. -/
def KeysAscend {κ α : Type} [Ord κ] (entries : List (κ × α)) : Prop :=
  entries.Pairwise fun first second => compare first.1 second.1 = .lt

/-- A finite map, held as its entries in ascending key order. -/
structure SortedMap (κ α : Type) [Ord κ] where
  entries : List (κ × α)
  ascending : KeysAscend entries

namespace SortedMap

variable {κ α β : Type} [Ord κ]

instance [DecidableEq κ] [DecidableEq α] : DecidableEq (SortedMap κ α) := fun first second =>
  if same : first.entries = second.entries then
    isTrue (by cases first; cases second; cases same; rfl)
  else isFalse (fun equal => same (congrArg entries equal))

/-- The map with no entry. -/
def empty : SortedMap κ α := ⟨[], .nil⟩

instance : Inhabited (SortedMap κ α) := ⟨empty⟩

/-- The value under a key in a list of entries. -/
def lookup (key : κ) : List (κ × α) → Option α
  | [] => none
  | (other, value) :: rest => if compare key other = .eq then some value else lookup key rest

/-- The value under a key. -/
def get? (map : SortedMap κ α) (key : κ) : Option α := lookup key map.entries

/-- Whether a key has a value. -/
def contains (map : SortedMap κ α) (key : κ) : Bool := (map.get? key).isSome

/-- The keys in ascending order. -/
def keys (map : SortedMap κ α) : List κ := map.entries.map Prod.fst

/-- The values in the order of their keys. -/
def values (map : SortedMap κ α) : List α := map.entries.map Prod.snd

/-- The number of entries. -/
def size (map : SortedMap κ α) : Nat := map.entries.length

/-- Whether there is no entry. -/
def isEmpty (map : SortedMap κ α) : Bool := map.entries.isEmpty

/-- At most one entry, in front of the rest. -/
def consOption (key : κ) : Option α → List (κ × α) → List (κ × α)
  | none, rest => rest
  | some value, rest => (key, value) :: rest

/-- Decide anew what stands under one key, in a list of entries that ascends. -/
def alterEntries (key : κ) (decision : Option α → Option α) : List (κ × α) → List (κ × α)
  | [] => consOption key (decision none) []
  | (other, value) :: rest =>
    match compare key other with
    | .lt => consOption key (decision none) ((other, value) :: rest)
    | .eq => consOption key (decision (some value)) rest
    | .gt => (other, value) :: alterEntries key decision rest

/-- A key of the altered list is the altered key or a key from before. -/
theorem mem_alterEntries {key : κ} {decision : Option α → Option α} {entry : κ × α} :
    {entries : List (κ × α)} → entry ∈ alterEntries key decision entries →
      entry.1 = key ∨ entry ∈ entries
  | [], member => by
    cases result : decision none <;> simp [alterEntries, consOption, result] at member
    exact .inl (by rw [member])
  | (other, value) :: rest, member => by
    unfold alterEntries at member
    split at member
    · cases result : decision none <;> simp [consOption, result] at member
      · exact .inr (by simp [member])
      · rcases member with same | old | old
        · exact .inl (by rw [same])
        · exact .inr (by simp [old])
        · exact .inr (by simp [old])
    · cases result : decision (some value) <;> simp [consOption, result] at member
      · exact .inr (by simp [member])
      · rcases member with same | old
        · exact .inl (by rw [same])
        · exact .inr (by simp [old])
    · rcases List.mem_cons.1 member with same | later
      · exact .inr (by simp [same])
      · rcases mem_alterEntries later with same | old
        · exact .inl same
        · exact .inr (List.mem_cons_of_mem _ old)

/-- An optional first entry below all others keeps the list ascending. -/
theorem keysAscend_consOption {key : κ} {rest : List (κ × α)} (ascend : KeysAscend rest)
    (below : ∀ entry ∈ rest, compare key entry.1 = .lt) :
    (value : Option α) → KeysAscend (consOption key value rest)
  | none => ascend
  | some _ => List.Pairwise.cons below ascend

section Ascending

variable [Std.TransOrd κ]

/-- Altering one key keeps the entries ascending. -/
theorem keysAscend_alterEntries (key : κ) (decision : Option α → Option α) :
    (entries : List (κ × α)) → KeysAscend entries → KeysAscend (alterEntries key decision entries)
  | [], _ => keysAscend_consOption .nil (by simp) _
  | (other, value) :: rest, ascend => by
    have above : ∀ entry ∈ rest, compare other entry.1 = .lt := (List.pairwise_cons.1 ascend).1
    have tail : KeysAscend rest := (List.pairwise_cons.1 ascend).2
    unfold alterEntries
    split
    next smaller =>
      refine keysAscend_consOption ascend ?_ _
      intro entry member
      rcases List.mem_cons.1 member with rfl | later
      · exact smaller
      · exact Std.TransCmp.lt_trans smaller (above entry later)
    next equal =>
      exact keysAscend_consOption tail
        (fun entry member => Std.TransCmp.lt_of_eq_of_lt equal (above entry member)) _
    next greater =>
      refine List.Pairwise.cons ?_ (keysAscend_alterEntries key decision rest tail)
      intro entry member
      rcases mem_alterEntries member with same | old
      · rw [same]; exact Std.OrientedCmp.lt_of_gt greater
      · exact above entry old

/-- Decide anew what stands under one key: the decision sees the old value, if any, and its answer
is the new one. -/
def alter (map : SortedMap κ α) (key : κ) (decision : Option α → Option α) : SortedMap κ α :=
  ⟨alterEntries key decision map.entries, keysAscend_alterEntries key decision _ map.ascending⟩

/-- Put a value under a key, in place of any other. -/
def insert (map : SortedMap κ α) (key : κ) (value : α) : SortedMap κ α :=
  map.alter key fun _ => some value

/-- Take a key out. -/
def erase (map : SortedMap κ α) (key : κ) : SortedMap κ α := map.alter key fun _ => none

/-- Change the value under a key that has one. -/
def modify (map : SortedMap κ α) (key : κ) (change : α → α) : SortedMap κ α :=
  map.alter key (Option.map change)

/-- The map of a list of entries, later ones winning over earlier ones with the same key. -/
def ofList (entries : List (κ × α)) : SortedMap κ α :=
  entries.foldl (fun map entry => map.insert entry.1 entry.2) empty

/-- Alter the first map once for each entry of the second, by a decision that sees that entry. -/
def absorb (decision : κ → β → Option α → Option α) (map : SortedMap κ α)
    (source : SortedMap κ β) : SortedMap κ α :=
  source.entries.foldl (fun result entry => result.alter entry.1 (decision entry.1 entry.2)) map

end Ascending

/-- Replace every value by one that may depend on its key. -/
def mapValues (change : κ → α → β) (map : SortedMap κ α) : SortedMap κ β :=
  ⟨map.entries.map fun entry => (entry.1, change entry.1 entry.2),
    by simpa [KeysAscend, List.pairwise_map] using map.ascending⟩

/-- Keep the entries that pass a test. -/
def filter (keep : κ → α → Bool) (map : SortedMap κ α) : SortedMap κ α :=
  ⟨map.entries.filter fun entry => keep entry.1 entry.2, by
    simpa [KeysAscend] using List.Pairwise.filter _ map.ascending⟩

end SortedMap

end FleetTraffic
