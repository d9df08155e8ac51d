import FleetTraffic.Proofs.Text.Written
import FleetTraffic.Text.Magnitude

/-!
# Words have finite estimates

All digits of a number of 64 bits fit when it is estimated in double precision, and the estimate is far below
what double precision can hold.
-/

namespace FleetTraffic.Text

/-- A number below ten is written as one digit. -/
theorem digits_of_lt_ten {value : Nat} (small : value < 10) : digits value = [value.digitChar] := by
  rw [digits, Nat.toDigits_eq_if (by decide), if_pos small]

/-- The digits of a number of 64 bits are all taken, by induction on the number without its last digit. -/
theorem takeSignificant_digits {value : Nat} (fits : value < UInt64.size) (rest : List Char) :
    takeSignificant 0 (digits value ++ rest) = takeSignificant value rest := by
  induction value using Nat.strongRecOn generalizing rest with
  | ind value induction =>
    have last : number [(value % 10).digitChar] = value % 10 := by
      rw [← digits_of_lt_ten (Nat.mod_lt value (by decide)), number_digits]
    have taken (before : Nat) (whole : 10 * before + value % 10 = value) :
        takeSignificant before ((value % 10).digitChar :: rest) = takeSignificant value rest := by
      rw [takeSignificant, last, whole]
      exact if_pos fits
    rcases Nat.lt_or_ge value 10 with small | great
    · have alone : value % 10 = value := Nat.mod_eq_of_lt small
      rw [digits_of_lt_ten small]
      rw [alone] at taken
      exact taken 0 (by omega)
    · have split : digits value = digits (value / 10) ++ [(value % 10).digitChar] := by
        rw [digits, Nat.toDigits_eq_if (by decide), if_neg (by omega), digits]
      have onward := induction (value / 10) (by omega) (by omega) ((value % 10).digitChar :: rest)
      rw [split, List.append_assoc, List.singleton_append, onward]
      exact taken (value / 10) (by omega)

/-- The double nearest to a number of 64 bits has at most one bit more. -/
theorem nearestDouble_le {value : Nat} (fits : value < UInt64.size) : nearestDouble value ≤ 2 ^ 65 := by
  have digits : value.log2 < 64 := by
    rcases Nat.eq_zero_or_pos value with rfl | positive
    · decide
    · exact (Nat.log2_lt (by omega)).mpr fits
  have step : Nat.pow 2 (value.log2 + 1 - 53) ≤ 2 ^ 11 := Nat.pow_le_pow_right (by decide) (by omega)
  have whole := Nat.div_mul_le_self value (Nat.pow 2 (value.log2 + 1 - 53))
  have bound : value < 18446744073709551616 := fits
  simp only [nearestDouble, Nat.succ_mul]
  split <;> omega

/-- The estimate of a number of 64 bits is finite. -/
theorem isFiniteEstimate_of_lt {value : Nat} (fits : value < UInt64.size) :
    isFiniteEstimate value 0 0 = true := by
  have taken := takeSignificant_digits fits []
  rw [List.append_nil, takeSignificant] at taken
  have one : nearestDouble 1 = 1 := by decide
  have finite : nearestDouble value < doubleLimit :=
    Nat.lt_of_le_of_lt (nearestDouble_le fits) (by decide +kernel)
  simp [isFiniteEstimate, taken, takeSignificant, one, finite]

end FleetTraffic.Text
