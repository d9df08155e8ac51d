/-!
# Counters that clamp

A traffic counter is a 64-bit word. It never wraps: a sum stops at the greatest word and a
difference stops at zero.
-/

namespace FleetTraffic.Counter

/-- The greatest value a counter can hold. -/
def greatest : Nat := 18446744073709551615

/-- The counter nearest to a number: the number itself, or the greatest counter. -/
def clamp (number : Nat) : UInt64 := UInt64.ofNat (min number greatest)

/-- The sum, stopping at the greatest counter. -/
def plus (first second : UInt64) : UInt64 := clamp (first.toNat + second.toNat)

/-- The difference, stopping at zero. -/
def minus (first second : UInt64) : UInt64 := clamp (first.toNat - second.toNat)

/-- A clamped number is the smaller of the number and the greatest counter. -/
theorem toNat_clamp (number : Nat) : (clamp number).toNat = min number greatest := by
  simp only [clamp, greatest, UInt64.toNat_ofNat']
  omega

/-- A sum is exact until it would pass the greatest counter. -/
theorem toNat_plus (first second : UInt64) :
    (plus first second).toNat = min (first.toNat + second.toNat) greatest :=
  toNat_clamp _

/-- A difference is the truncated difference of the numbers. -/
theorem toNat_minus (first second : UInt64) :
    (minus first second).toNat = first.toNat - second.toNat := by
  have bound := first.toNat_lt
  rw [minus, toNat_clamp, greatest]
  omega

/-- No counter passes the greatest one. -/
theorem toNat_le_greatest (counter : UInt64) : counter.toNat ≤ greatest := by
  have bound := counter.toNat_lt
  rw [greatest]
  omega

/-- Clamping a counter's own number changes nothing. -/
theorem clamp_toNat (counter : UInt64) : clamp counter.toNat = counter := by
  apply UInt64.toNat_inj.mp
  rw [toNat_clamp]
  exact Nat.min_eq_left (toNat_le_greatest counter)

/-- Adding zero changes nothing. -/
@[simp]
theorem plus_zero (counter : UInt64) : plus counter 0 = counter := clamp_toNat counter

/-- Adding to zero gives what is added. -/
@[simp]
theorem zero_plus (counter : UInt64) : plus 0 counter = counter := by
  rw [plus, UInt64.toNat_zero, Nat.zero_add, clamp_toNat]

/-- Subtracting zero changes nothing. -/
@[simp]
theorem minus_zero (counter : UInt64) : minus counter 0 = counter := clamp_toNat counter

/-- Nothing can be taken from zero. -/
@[simp]
theorem zero_minus (counter : UInt64) : minus 0 counter = 0 := by
  apply UInt64.toNat_inj.mp
  rw [toNat_minus]
  simp

/-- A clamped sum is zero only for zeros. -/
theorem plus_eq_zero_iff (first second : UInt64) :
    plus first second = 0 ↔ first = 0 ∧ second = 0 := by
  simp only [← UInt64.toNat_inj, toNat_plus, greatest, UInt64.toNat_zero]
  omega

end FleetTraffic.Counter
