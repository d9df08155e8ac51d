import FleetTraffic.Proofs.SortedMap.Sum
import FleetTraffic.Usage.DomainUsage

/-!
# The quantities of a usage

A usage counts many things: its four counters, and one number for each protocol and each port. Here
they are all read through one view, `amount`, in which a missing count is zero. Adding and subtracting
usages is then clamped arithmetic, quantity by quantity, and one law covers counters and counts alike.

A usage is canonical when it holds no count of zero by protocol or port. Canonical usages with the
same amounts have the same counters and the same counts, so the view loses nothing but the name of
the domain and the time of access.
-/

namespace FleetTraffic

namespace CountMap

variable {κ : Type} [Ord κ] [DecidableEq κ] [Std.TransOrd κ] [Std.LawfulEqOrd κ]

/-- The count under a key, zero if there is none. -/
def count (counts : CountMap κ) (key : κ) : UInt64 := (counts.get? key).getD 0

/-- No count is zero. -/
def Canonical (counts : CountMap κ) : Prop := ∀ key, counts.get? key ≠ some 0

/-- Addition is clamped addition under every key. -/
theorem count_add (counts added : CountMap κ) (key : κ) :
    (counts.add added).count key = Counter.plus (counts.count key) (added.count key) := by
  simp only [count, add, SortedMap.get?_absorb]
  cases added.get? key with
  | none => simp only [Option.getD_none, Counter.plus_zero]
  | some number =>
    by_cases zero : number = 0
    · simp only [zero, if_true, Option.getD_some, Counter.plus_zero]
    · simp only [if_neg zero, Option.getD_some]

/-- Subtraction is clamped subtraction under every key. -/
theorem count_subtract (counts removed : CountMap κ) (key : κ) :
    (counts.subtract removed).count key = Counter.minus (counts.count key) (removed.count key) := by
  simp only [count, subtract, SortedMap.get?_absorb]
  cases removed.get? key with
  | none => simp only [Option.getD_none, Counter.minus_zero]
  | some number =>
    cases counts.get? key with
    | none => simp only [Option.bind_none, Option.getD_none, Counter.zero_minus]
    | some present =>
      simp only [Option.bind_some, Option.getD_some]
      split
      next zero => rw [Option.getD_none, zero]
      next => rfl

/-- Addition introduces no count of zero. -/
theorem canonical_add {counts : CountMap κ} (canonical : counts.Canonical) (added : CountMap κ) :
    (counts.add added).Canonical := by
  intro key
  simp only [add, SortedMap.get?_absorb]
  cases added.get? key with
  | none => exact canonical key
  | some number =>
    by_cases zero : number = 0
    · simp only [zero, if_true]
      exact canonical key
    · simp only [if_neg zero, ne_eq, Option.some.injEq, Counter.plus_eq_zero_iff]
      exact fun bothZero => zero bothZero.2

/-- Subtraction leaves no count of zero. -/
theorem canonical_subtract {counts : CountMap κ} (canonical : counts.Canonical)
    (removed : CountMap κ) : (counts.subtract removed).Canonical := by
  intro key
  simp only [subtract, SortedMap.get?_absorb]
  cases removed.get? key with
  | none => exact canonical key
  | some number =>
    cases counts.get? key with
    | none => simp only [Option.bind_none, ne_eq, reduceCtorEq, not_false_eq_true]
    | some present =>
      simp only [Option.bind_some]
      split
      next => simp only [ne_eq, reduceCtorEq, not_false_eq_true]
      next positive => simpa only [ne_eq, Option.some.injEq] using positive

omit [DecidableEq κ] [Std.TransOrd κ] [Std.LawfulEqOrd κ] in
/-- In a canonical map a key is listed exactly when its count is not zero. -/
theorem get?_eq_none_iff {counts : CountMap κ} (canonical : counts.Canonical) (key : κ) :
    counts.get? key = none ↔ counts.count key = 0 := by
  have listed : counts.get? key ≠ some 0 := canonical key
  cases found : counts.get? key with
  | none => simp [count, found]
  | some number =>
    rw [found] at listed
    have positive : number ≠ 0 := fun zero => listed (congrArg some zero)
    simp [count, found, positive]

/-- Canonical maps with the same counts are equal. -/
theorem ext_of_canonical {first second : CountMap κ} (canonical : first.Canonical)
    (canonical' : second.Canonical) (agree : ∀ key, first.count key = second.count key) :
    first = second := by
  apply SortedMap.ext
  intro key
  have same : first.count key = second.count key := agree key
  have none_iff := get?_eq_none_iff canonical key
  have none_iff' := get?_eq_none_iff canonical' key
  cases found : first.get? key with
  | none =>
    have zero : second.count key = 0 := same.symm.trans (none_iff.mp found)
    exact (none_iff'.mpr zero).symm
  | some number =>
    cases found' : second.get? key with
    | none =>
      have zero : first.count key = 0 := same.trans (none_iff'.mp found')
      rw [none_iff.mpr zero] at found
      cases found
    | some other => simpa [count, found, found'] using same

/-- A canonical map is empty exactly when every count is zero. -/
theorem isEmpty_iff {counts : CountMap κ} (canonical : counts.Canonical) :
    counts.isEmpty = true ↔ ∀ key, counts.count key = 0 := by
  rw [SortedMap.isEmpty_iff]
  exact forall_congr' fun key => get?_eq_none_iff canonical key

end CountMap

/-- One of the numbers that a usage holds: a counter, or the count of one protocol or port. -/
inductive Quantity where
  | accesses
  | bytesSent
  | bytesReceived
  | connections
  | protocol (name : String)
  | port (number : UInt16)
  deriving DecidableEq

namespace DomainUsage

/-- How much of a quantity a usage holds. A missing count is zero. -/
def amount (usage : DomainUsage) : Quantity → UInt64
  | .accesses => usage.counters.accesses
  | .bytesSent => usage.counters.bytesSent
  | .bytesReceived => usage.counters.bytesReceived
  | .connections => usage.counters.connections
  | .protocol name => CountMap.count usage.protocols name
  | .port number => CountMap.count usage.ports number

/-- The amount in a usage that may be missing, in which case there is nothing. -/
def amount? (quantity : Quantity) : Option DomainUsage → UInt64
  | .none => 0
  | some usage => usage.amount quantity

/-- No count by protocol or port is zero. -/
def Canonical (usage : DomainUsage) : Prop :=
  CountMap.Canonical usage.protocols ∧ CountMap.Canonical usage.ports

/-- The counters and counts of a usage, without its name and its time of access. -/
def traffic (usage : DomainUsage) : Counters × CountMap String × CountMap UInt16 :=
  (usage.counters, usage.protocols, usage.ports)

/-- No traffic holds nothing of any quantity. -/
theorem amount_none (domain : String) (quantity : Quantity) : (none domain).amount quantity = 0 := by
  cases quantity <;> rfl

/-- The name of the domain plays no part in the amounts. -/
theorem amount_rename (usage : DomainUsage) (domain : String) (quantity : Quantity) :
    { usage with domain }.amount quantity = usage.amount quantity := by
  cases quantity <;> rfl

/-- Adding usages is clamped addition of every quantity. -/
theorem amount_add (usage added : DomainUsage) (quantity : Quantity) :
    (usage.add added).amount quantity =
      Counter.plus (usage.amount quantity) (added.amount quantity) := by
  cases quantity with
  | protocol name => exact CountMap.count_add usage.protocols added.protocols name
  | port number => exact CountMap.count_add usage.ports added.ports number
  | _ => rfl

/-- Subtracting usages is clamped subtraction of every quantity. -/
theorem amount_subtract (usage removed : DomainUsage) (quantity : Quantity) :
    (usage.subtract removed).amount quantity =
      Counter.minus (usage.amount quantity) (removed.amount quantity) := by
  cases quantity with
  | protocol name => exact CountMap.count_subtract usage.protocols removed.protocols name
  | port number => exact CountMap.count_subtract usage.ports removed.ports number
  | _ => rfl

/-- No traffic is canonical. -/
theorem canonical_none (domain : String) : (none domain).Canonical :=
  ⟨fun _ => nofun, fun _ => nofun⟩

/-- Adding to a canonical usage keeps it canonical, whatever is added. -/
theorem canonical_add {usage : DomainUsage} (canonical : usage.Canonical) (added : DomainUsage) :
    (usage.add added).Canonical :=
  ⟨CountMap.canonical_add canonical.1 added.protocols, CountMap.canonical_add canonical.2 added.ports⟩

/-- Subtracting from a canonical usage keeps it canonical. -/
theorem canonical_subtract {usage : DomainUsage} (canonical : usage.Canonical)
    (removed : DomainUsage) : (usage.subtract removed).Canonical :=
  ⟨CountMap.canonical_subtract canonical.1 removed.protocols,
    CountMap.canonical_subtract canonical.2 removed.ports⟩

/-- A canonical usage has no traffic exactly when every amount is zero. -/
theorem isZero_iff {usage : DomainUsage} (canonical : usage.Canonical) :
    usage.isZero = true ↔ ∀ quantity, usage.amount quantity = 0 := by
  simp only [isZero, Bool.and_eq_true, beq_iff_eq, CountMap.isEmpty_iff canonical.1,
    CountMap.isEmpty_iff canonical.2]
  constructor
  · rintro ⟨⟨noCounters, noProtocols⟩, noPorts⟩ quantity
    cases quantity with
    | protocol name => exact noProtocols name
    | port number => exact noPorts number
    | _ => simp only [amount, noCounters]
  · intro zero
    have noCounters : usage.counters = {} := by
      have accesses : usage.counters.accesses = 0 := zero .accesses
      have bytesSent : usage.counters.bytesSent = 0 := zero .bytesSent
      have bytesReceived : usage.counters.bytesReceived = 0 := zero .bytesReceived
      have connections : usage.counters.connections = 0 := zero .connections
      cases same : usage.counters
      simp_all
    exact ⟨⟨noCounters, fun name => zero (.protocol name)⟩, fun number => zero (.port number)⟩

/-- Canonical usages with the same amounts have the same counters and counts. -/
theorem traffic_eq_iff {first second : DomainUsage} (canonical : first.Canonical)
    (canonical' : second.Canonical) :
    first.traffic = second.traffic ↔ ∀ quantity, first.amount quantity = second.amount quantity := by
  constructor
  · intro same quantity
    obtain ⟨counters, rest⟩ := Prod.mk.inj same
    obtain ⟨protocols, ports⟩ := Prod.mk.inj rest
    cases quantity <;> simp only [amount, counters, protocols, ports]
  · intro agree
    have counters : first.counters = second.counters := by
      have accesses : first.counters.accesses = second.counters.accesses := agree .accesses
      have bytesSent : first.counters.bytesSent = second.counters.bytesSent := agree .bytesSent
      have bytesReceived : first.counters.bytesReceived = second.counters.bytesReceived :=
        agree .bytesReceived
      have connections : first.counters.connections = second.counters.connections :=
        agree .connections
      cases same : first.counters
      cases same' : second.counters
      simp_all
    have protocols : first.protocols = second.protocols :=
      CountMap.ext_of_canonical canonical.1 canonical'.1 fun name => agree (.protocol name)
    have ports : first.ports = second.ports :=
      CountMap.ext_of_canonical canonical.2 canonical'.2 fun number => agree (.port number)
    simp only [traffic, counters, protocols, ports]

end DomainUsage

end FleetTraffic
